import FindingLedger.Settings
import FindingLedger.Source.Sources

/-!
# The lines around a finding

The nearest lines above and below a finding that are not blank, up to a number and within
a distance. A line that cannot be read ends the search on its side.
-/

namespace FindingLedger
namespace Identity

/-- The greatest number of 32 bits. No distance between lines is greater. -/
def maxLine : Nat := 4294967295

/-- The first lines that are not blank, so many at most, within so many steps from a
distance on. -/
def gather (read? : Nat → Option String) : Nat → Nat → Nat → List String
  | _, 0, _ => []
  | wanted, steps + 1, distance =>
      if wanted = 0 then
        []
      else
        match read? distance with
        | none => []
        | some text =>
            let line := Text.squeeze text
            if line.isEmpty then
              gather read? wanted steps (distance + 1)
            else
              line :: gather read? (wanted - 1) steps (distance + 1)

def reach (settings : Settings) : Nat :=
  max (min settings.maxContextScan maxLine) (min settings.contextWindow maxLine)

/-- The lines above a line of a file, in the order of the file. -/
def linesAbove (sources : Sources) (settings : Settings) (path : String) (line : Nat) :
    List String :=
  (gather (fun distance => sources.line? path (line - distance)) settings.contextWindow
    (min (line - 1) (reach settings)) 1).reverse

def linesBelow (sources : Sources) (settings : Settings) (path : String) (line : Nat) :
    List String :=
  gather (fun distance => sources.line? path (line + distance)) settings.contextWindow
    (reach settings) 1

end Identity
end FindingLedger
