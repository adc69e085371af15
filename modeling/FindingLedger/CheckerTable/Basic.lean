import FindingLedger.Entries
import FindingLedger.Pattern.Reader
import FindingLedger.Pattern.Search
import FindingLedger.Text.Blank

/-!
# Checker tables

A checker table names the checker of a diagnostic by its description. Descriptions that
are listed as they stand come first; after them patterns are tried in order.
-/

namespace FindingLedger

/-- A row of a table: a checker with a description, or with a pattern for descriptions. -/
structure CheckerEntry where
  checker : String
  description : Option String
  pattern : Option String
  deriving DecidableEq, Repr

structure CheckerTable where
  exact : List (String × String)
  /-- The checkers of patterns, in the order in which they are tried. -/
  patterns : List (Pattern × String)

namespace CheckerTable

inductive Error where
  | form
  | blankChecker (index : Nat)
  /-- A row has neither or both of a description and a pattern. -/
  | needsOne (index : Nat)
  | badPattern
  deriving DecidableEq, Repr

/-- The wording of a fault. What the readers of JSON and of patterns have to say about a document
or a pattern that they refuse is no part of it. -/
def Error.message : Error → String
  | .form => "checker table"
  | .blankChecker index =>
      "checker table entry " ++ toString index ++ " has an empty checker name"
  | .needsOne index =>
      "checker table entry " ++ toString index ++
        " needs exactly one of description or pattern"
  | .badPattern => "invalid checker pattern"

def empty : CheckerTable :=
  ⟨[], []⟩

def addDescription (t : CheckerTable) (description checker : String) : CheckerTable :=
  { t with exact := Entries.putNew t.exact description checker }

def addPattern (t : CheckerTable) (pattern : Pattern) (checker : String) : CheckerTable :=
  { t with patterns := t.patterns ++ [(pattern, checker)] }

def addEntry (t : CheckerTable) (index : Nat) (e : CheckerEntry) : Except Error CheckerTable :=
  let checker := Text.trim e.checker
  if checker.isEmpty then
    .error (.blankChecker index)
  else
    match e.description, e.pattern with
    | some description, none => .ok (t.addDescription description checker)
    | none, some pattern =>
        match Pattern.read? pattern with
        | some p => .ok (t.addPattern p checker)
        | none => .error .badPattern
    | _, _ => .error (.needsOne index)

def addEntries (t : CheckerTable) (index : Nat) : List CheckerEntry → Except Error CheckerTable
  | [] => .ok t
  | e :: rest =>
      match t.addEntry index e with
      | .ok t => addEntries t (index + 1) rest
      | .error fault => .error fault

def ofEntries (entries : List CheckerEntry) : Except Error CheckerTable :=
  empty.addEntries 0 entries

/-- The checker of a description. Blanks around the description do not count. -/
def lookup? (t : CheckerTable) (description : String) : Option String :=
  let description := Text.trim description
  match Entries.get? t.exact description with
  | some checker => some checker
  | none =>
      (t.patterns.find? fun row => row.1.occursIn description.toList).map Prod.snd

def size (t : CheckerTable) : Nat :=
  t.exact.length + t.patterns.length

def isEmpty (t : CheckerTable) : Bool :=
  t.size == 0

end CheckerTable

end FindingLedger
