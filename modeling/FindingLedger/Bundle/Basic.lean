import FindingLedger.Text.Blank

/-!
# Bundles of diagnostics

A bundle is what one run of an analyzer writes: the files it names and the diagnostics
it found, each with the path that leads to the defect. Files are named by their place in
the list of files.
-/

namespace FindingLedger

structure Location where
  fileIndex : Nat
  line : Nat
  column : Nat
  deriving DecidableEq, Repr

structure SourceRange where
  first : Location
  last : Location
  deriving DecidableEq, Repr

/-- A narrated step of a path: where it happens and what the analyzer says about it. -/
structure PathEvent where
  location : Location
  message : String
  extendedMessage : Option String
  depth : Nat
  ranges : List SourceRange
  deriving DecidableEq, Repr

inductive PathElement where
  | event (event : PathEvent)
  | point (location : Location)
  deriving DecidableEq, Repr

namespace PathElement

def location : PathElement → Location
  | event e => e.location
  | point l => l

def message? : PathElement → Option String
  | event e => some e.message
  | point _ => none

def ranges : PathElement → List SourceRange
  | event e => e.ranges
  | point _ => []

end PathElement

/-- One defect as the analyzer wrote it down. What some generation of analyzers leaves out
is optional. -/
structure Diagnostic where
  category : String
  type : String
  description : String
  checkerName : Option String
  location : Location
  contextName : Option String
  contextKind : Option String
  path : List PathElement
  notes : List PathEvent
  embeddedHash : Option String
  /-- The lines from the opening of the enclosing body to the defect. -/
  functionOffset : Option Int
  deriving DecidableEq, Repr

/-- The generations of analyzers, oldest first, told apart by what they write. -/
inductive Generation where
  | unnamed
  | namedUnhashed
  | namedHashed
  deriving DecidableEq, Repr

namespace Generation

def rank : Generation → Nat
  | unnamed => 0
  | namedUnhashed => 1
  | namedHashed => 2

def older (a b : Generation) : Generation :=
  if b.rank < a.rank then b else a

def oldest : List Generation → Option Generation
  | [] => none
  | g :: rest =>
      match oldest rest with
      | none => some g
      | some h => some (older g h)

end Generation

namespace Diagnostic

def hasEmbeddedHash (d : Diagnostic) : Bool :=
  match d.embeddedHash with
  | some hash => !Text.allBlank hash
  | none => false

def generation (d : Diagnostic) : Generation :=
  match d.checkerName, d.hasEmbeddedHash with
  | some _, true => .namedHashed
  | some _, false => .namedUnhashed
  | none, _ => .unnamed

def elementIndices (e : PathElement) : List Nat :=
  e.location.fileIndex ::
    e.ranges.flatMap fun r => [r.first.fileIndex, r.last.fileIndex]

def fileIndices (d : Diagnostic) : List Nat :=
  d.location.fileIndex :: d.path.flatMap elementIndices ++
    d.notes.map fun note => note.location.fileIndex

end Diagnostic

structure Bundle where
  files : List String
  diagnostics : List Diagnostic
  generation : Option Generation
  clangVersion : Option String
  deriving DecidableEq, Repr

namespace Bundle

def empty : Bundle :=
  ⟨[], [], none, none⟩

def isEmpty (b : Bundle) : Bool :=
  b.diagnostics.isEmpty

def filePath? (b : Bundle) (index : Nat) : Option String :=
  b.files[index]?

end Bundle

end FindingLedger
