import FindingLedger.Bundle.Decode
import FindingLedger.Report.Assembly

/-!
# Taking in a bundle

A bundle is read, the checkers of its diagnostics are settled, the findings are
identified, and their reports are assembled. The outcome depends on nothing but the bytes
of the bundle, the checker table, the source files and the settings.
-/

namespace FindingLedger

structure Outcome where
  generation : Option Generation
  clangVersion : Option String
  reports : List Report
  files : Registry
  duplicates : Nat
  deriving DecidableEq, Repr

namespace Outcome

def isEmpty (o : Outcome) : Bool :=
  o.reports.isEmpty

def degradedCount (o : Outcome) : Nat :=
  o.reports.countP fun r => r.identity.degraded

def isDegraded (o : Outcome) : Bool :=
  0 < o.degradedCount

def unresolvedCount (o : Outcome) : Nat :=
  o.reports.countP fun r => r.provenance == .unresolved

inductive Error where
  | bundle (error : Bundle.Error)
  | report (error : Report.Error)
  deriving DecidableEq, Repr

def Error.message : Error → String
  | .bundle error => error.message
  | .report error => error.message

def findingsOf (table : CheckerTable) (b : Bundle) : List Finding :=
  b.diagnostics.map (Finding.ofDiagnostic table)

def identify (sources : Sources) (settings : Settings) (files : List String) (f : Finding) :
    Except Report.Error Identity := do
  let path ← Report.pathOf files f.location.fileIndex
  return Identity.of sources settings f path

def ofBundle (b : Bundle) (table : CheckerTable) (sources : Sources) (settings : Settings) :
    Except Report.Error Outcome :=
  if b.diagnostics.isEmpty then
    .ok ⟨b.generation, b.clangVersion, [], .empty, 0⟩
  else do
    let findings := findingsOf table b
    let identities ← Report.each (identify sources settings b.files) findings
    let assembly ← Assembly.of b.files findings identities sources
    return {
      generation := b.generation
      clangVersion := b.clangVersion
      reports := assembly.reports
      files := assembly.files
      duplicates := assembly.duplicates }

def ingest (document : Bytes) (table : CheckerTable) (sources : Sources)
    (settings : Settings) : Except Error Outcome :=
  match Bundle.read document with
  | .error e => .error (.bundle e)
  | .ok b => (ofBundle b table sources settings).mapError .report

end Outcome

end FindingLedger
