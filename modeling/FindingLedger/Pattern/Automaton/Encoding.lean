import FindingLedger.Pattern.CharSet

/-!
# Encoded runs

An automaton reads bytes. A run of characters is cut into pieces of which the encodings are
all combinations of bytes from one run for each place.
-/

namespace FindingLedger
namespace Encoding

open Text

def lengthCuts : List Nat :=
  [0x80, 0x800, 0x10000]

/-- The numbers of code points that share all but the last one, two or three bytes. -/
def blocks : List Nat :=
  [64, 64 * 64, 64 * 64 * 64]

/-- Where to cut a run that reaches over several blocks and does not fill them: after the
block with which it begins, or else before the one with which it ends. -/
def blockCut? (first last block : Nat) : Option Nat :=
  if first / block == last / block then none
  else if first % block != 0 then some ((first / block + 1) * block)
  else if last % block != block - 1 then some (last / block * block)
  else none

def cut? (first last : Nat) : Option Nat :=
  match lengthCuts.find? fun cut => first < cut && cut ≤ last with
  | some cut => some cut
  | none => if last < 0x80 then none else blocks.findSome? (blockCut? first last)

def bytesOf (n : Nat) : List Nat :=
  (String.utf8EncodeChar (Char.ofNat n)).map UInt8.toNat

/-- The encodings of a run of characters, each as a run of bytes for every place. -/
def ofRun (first last : Nat) : List (List Span) :=
  match cut? first last with
  | some cut =>
      if first < cut ∧ cut ≤ last then ofRun first (cut - 1) ++ ofRun cut last else []
  | none => [List.zipWith Span.mk (bytesOf first) (bytesOf last)]
  termination_by last - first

def ofSet (s : CharSet) : List (List Span) :=
  s.runs.flatMap fun r => ofRun r.first r.last

end Encoding
end FindingLedger
