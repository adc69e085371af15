import FindingLedger.Text.Blank
import FindingLedger.Text.Decimal
import FindingLedger.Text.Quoted
import FindingLedger.Volume.Path

/-!
# Settings

What can be set for taking in bundles, by hand or through named variables.
-/

namespace FindingLedger

structure Settings where
  /-- How many bundles of a batch are taken in at once; as many as the machine can run
  side by side if nothing is set. -/
  workers : Option Nat := none
  /-- How many lines on each side of a defect identify it. -/
  contextWindow : Nat := 1
  /-- How many lines are looked through for the beginning of a context. -/
  maxContextScan : Nat := 2000
  sourceRoot : Option Path := none
  /-- The file of a checker table in place of the built-in one. -/
  checkerTable : Option Path := none
  deriving DecidableEq, Repr

namespace Settings

def maxContextWindow : Nat := 8

inductive Error where
  | notNumber (name value : String)
  | noWorkers
  | wideWindow (window : Nat)
  deriving DecidableEq, Repr

def Error.message : Error → String
  | .notNumber name value =>
      name ++ "=" ++ Text.quoted value ++ " is not a non-negative integer"
  | .noWorkers => "workers must be at least 1"
  | .wideWindow window =>
      "context_window " ++ toString window ++ " exceeds maximum " ++ toString maxContextWindow

def check (s : Settings) : Except Error Unit :=
  if s.workers == some 0 then .error .noWorkers
  else if maxContextWindow < s.contextWindow then .error (.wideWindow s.contextWindow)
  else .ok ()

/-- The trimmed value of a variable. A blank value counts as none. -/
def valueOf? (lookup : String → Option String) (name : String) : Option String :=
  ((lookup name).map Text.trim).filter fun value => !value.isEmpty

def count? (lookup : String → Option String) (name : String) : Except Error (Option Nat) :=
  match valueOf? lookup name with
  | none => .ok none
  | some value =>
      match Text.readCount? value.toList with
      | some n => .ok (some n)
      | none => .error (.notNumber name value)

/-- The settings that variables make, checked. Fewer than one worker count as one. -/
def ofVariables (lookup : String → Option String) : Except Error Settings := do
  let workers ← count? lookup "DIAG_INGEST_WORKERS"
  let contextWindow ← count? lookup "DIAG_INGEST_CONTEXT_WINDOW"
  let maxContextScan ← count? lookup "DIAG_INGEST_MAX_CONTEXT_SCAN"
  let settings : Settings := {
    workers := workers.map (max 1)
    contextWindow := contextWindow.getD 1
    maxContextScan := maxContextScan.getD 2000
    sourceRoot := (valueOf? lookup "DIAG_INGEST_SOURCE_ROOT").map Path.ofText
    checkerTable := (valueOf? lookup "DIAG_INGEST_CHECKER_TABLE").map Path.ofText }
  settings.check
  return settings

end Settings

end FindingLedger
