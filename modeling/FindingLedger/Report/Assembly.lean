import FindingLedger.NatSet
import FindingLedger.Registry
import FindingLedger.Report.Basic

/-!
# Assembling reports

Of findings that the analyzer reached in the same way the first is kept. The reports stand
in the order of the findings, and the files that they refer to are registered in the order
in which the bundle lists them.
-/

namespace FindingLedger

/-- What tells one finding from another: its place, and the steps that lead to it. Without
steps its description counts too. -/
structure Signature where
  location : Location
  steps : List (Location × Option String)
  description : Option String
  deriving DecidableEq, Repr

namespace Signature

def of (f : Finding) : Signature :=
  let d := f.diagnostic
  { location := d.location
    steps := d.path.map fun e => (e.location, e.message?)
    description := if d.path.isEmpty then some d.description else none }

end Signature

structure Assembly where
  reports : List Report
  files : Registry
  duplicates : Nat
  deriving DecidableEq, Repr

namespace Assembly

/-- The findings that repeat none of those seen before nor one another, each with its
identity. -/
def firsts (seen : List Signature) : List (Finding × Identity) → List (Finding × Identity)
  | [] => []
  | f :: rest =>
      let s := Signature.of f.1
      if seen.contains s then firsts seen rest else f :: firsts (s :: seen) rest

/-- The number of findings that repeat one of those seen before or one another. -/
def repeats (seen : List Signature) : List (Finding × Identity) → Nat
  | [] => 0
  | f :: rest =>
      let s := Signature.of f.1
      if seen.contains s then repeats seen rest + 1 else repeats (s :: seen) rest

def registerFiles (files : List String) (sources : Sources) (r : Registry) :
    List Nat → Except Report.Error Registry
  | [] => .ok r
  | index :: rest => do
      let path ← Report.pathOf files index
      registerFiles files sources (r.register path (sources.bytes? path)) rest

def of (files : List String) (findings : List Finding) (identities : List Identity)
    (sources : Sources) : Except Report.Error Assembly :=
  if findings.length != identities.length then
    .error (.identityCount findings.length identities.length)
  else do
    let identified := findings.zip identities
    let kept := firsts [] identified
    let reports ← Report.each (fun f => Report.ofFinding files f.1 f.2) kept
    let referenced := NatSet.ofList (kept.flatMap fun f => f.1.diagnostic.fileIndices)
    let registry ← registerFiles files sources .empty referenced
    return {
      reports
      files := registry
      duplicates := repeats [] identified }

end Assembly

end FindingLedger
