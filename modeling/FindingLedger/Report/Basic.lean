import FindingLedger.Identity.Basic

/-!
# Reports

A report is the lasting record of one defect: what was found, where, by which checker, and
the hashes that identify it. Files are named by their paths.
-/

namespace FindingLedger

structure ReportLocation where
  file : String
  line : Nat
  column : Nat
  deriving DecidableEq, Repr

inductive StepKind where
  | event
  | point
  deriving DecidableEq, Repr

structure ReportStep where
  kind : StepKind
  location : ReportLocation
  message : Option String
  deriving DecidableEq, Repr

structure Report where
  checker : String
  provenance : Provenance
  category : String
  type : String
  description : String
  location : ReportLocation
  contextName : Option String
  contextKind : Option String
  identity : Identity
  analyzerHash : Option String
  path : List ReportStep
  notes : List ReportStep
  deriving DecidableEq, Repr

namespace Report

inductive Error where
  | identityCount (findings identities : Nat)
  | unlistedFile (index : Nat)
  deriving DecidableEq, Repr

def Error.message : Error → String
  | .identityCount findings identities =>
      toString findings ++ " diagnostics but " ++ toString identities ++ " hash results"
  | .unlistedFile index => "file index " ++ toString index ++ " out of range"

def pathOf (files : List String) (index : Nat) : Except Error String :=
  match files[index]? with
  | some path => .ok path
  | none => .error (.unlistedFile index)

def locate (files : List String) (l : Location) : Except Error ReportLocation := do
  return ⟨← pathOf files l.fileIndex, l.line, l.column⟩

def ofEvent (files : List String) (e : PathEvent) : Except Error ReportStep := do
  return ⟨.event, ← locate files e.location, some e.message⟩

def ofElement (files : List String) : PathElement → Except Error ReportStep
  | .event e => ofEvent files e
  | .point l => do return ⟨.point, ← locate files l, none⟩

def each {α β : Type} (write : α → Except Error β) : List α → Except Error (List β)
  | [] => .ok []
  | a :: rest => do
      let b ← write a
      let more ← each write rest
      return b :: more

def analyzerHashOf (f : Finding) : Option String :=
  if f.provenance == .declared && f.diagnostic.hasEmbeddedHash then f.diagnostic.embeddedHash
  else none

def ofFinding (files : List String) (f : Finding) (identity : Identity) :
    Except Error Report := do
  let d := f.diagnostic
  let path ← each (ofElement files) d.path
  let notes ← each (ofEvent files) d.notes
  let location ← locate files d.location
  return {
    checker := f.checker
    provenance := f.provenance
    category := d.category
    type := d.type
    description := d.description
    location
    contextName := d.contextName
    contextKind := d.contextKind
    identity
    analyzerHash := analyzerHashOf f
    path
    notes }

end Report

end FindingLedger
