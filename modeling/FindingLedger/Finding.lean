import FindingLedger.Bundle.Basic
import FindingLedger.CheckerTable.Basic

/-!
# Findings

A finding is a diagnostic whose checker is settled: declared in the bundle, inferred from
the description, or left unresolved under a name that stands for none.
-/

namespace FindingLedger

inductive Provenance where
  | declared
  | inferred
  | unresolved
  deriving DecidableEq, Repr

def unresolvedChecker : String := "NOT FOUND"

structure Finding where
  diagnostic : Diagnostic
  checker : String
  provenance : Provenance
  deriving DecidableEq, Repr

namespace Finding

def isUnresolved (f : Finding) : Bool :=
  f.provenance == .unresolved

/-- Settles the checker of a diagnostic. A declared name goes before the table. -/
def ofDiagnostic (table : CheckerTable) (d : Diagnostic) : Finding :=
  match d.checkerName with
  | some name => ⟨d, Text.trim name, .declared⟩
  | none =>
      match table.lookup? d.description with
      | some checker => ⟨d, checker, .inferred⟩
      | none => ⟨d, unresolvedChecker, .unresolved⟩

/-- The context of the finding; none counts as the empty name. -/
def context (f : Finding) : String :=
  f.diagnostic.contextName.getD ""

def location (f : Finding) : Location :=
  f.diagnostic.location

end Finding

end FindingLedger
