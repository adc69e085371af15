import FindingLedger.Text.Blank

/-!
# Runs of code points

Tables of characters are written as runs of consecutive code points in hexadecimal,
such as `41-5A 61-7A AA`, parted by blanks. A set of code points has one list of longest
runs in ascending order.
-/

namespace FindingLedger
namespace Text

def hexDigit? (c : Char) : Option Nat :=
  let n := c.toNat
  if 48 ≤ n && n ≤ 57 then some (n - 48)
  else if 65 ≤ n && n ≤ 70 then some (n - 55)
  else if 97 ≤ n && n ≤ 102 then some (n - 87)
  else none

def hexValue (cs : List Char) : Nat :=
  cs.foldl (fun n c => match hexDigit? c with | some d => 16 * n + d | none => n) 0

structure Span where
  first : Nat
  last : Nat
  deriving DecidableEq, Repr

namespace Span

def contains (s : Span) (n : Nat) : Bool :=
  s.first ≤ n && n ≤ s.last

def anyContains (spans : List Span) (n : Nat) : Bool :=
  spans.any fun s => s.contains n

/-!
# Lists of runs in ascending order
-/

/-- Whether a code point lies in one of the runs, which are given in ascending order. -/
def holdsCode : List Span → Nat → Bool
  | [], _ => false
  | s :: rest, n => s.first ≤ n && (n ≤ s.last || holdsCode rest n)

/-- A run, lengthened by those of the following runs that overlap or touch it, and the
longest runs of the others. -/
def joinOnto (s : Span) : List Span → List Span
  | [] => [s]
  | t :: rest =>
      if t.first ≤ s.last + 1 then joinOnto ⟨s.first, max s.last t.last⟩ rest
      else s :: joinOnto t rest

/-- The longest runs of a list that is in the order of first code points. -/
def join : List Span → List Span
  | [] => []
  | s :: rest => joinOnto s rest

def normalize (spans : List Span) : List Span :=
  join (spans.mergeSort fun s t => s.first ≤ t.first)

def unite (a b : List Span) : List Span :=
  join (a.merge b fun s t => s.first ≤ t.first)

def gaps (last : Nat) : Nat → List Span → List Span
  | start, [] => if start ≤ last then [⟨start, last⟩] else []
  | start, s :: rest =>
      if start < s.first then ⟨start, s.first - 1⟩ :: gaps last (s.last + 1) rest
      else gaps last (s.last + 1) rest

/-!
# Tables
-/

def ofWord (word : List Char) : Span :=
  match word.dropWhile (· != '-') with
  | [] => ⟨hexValue word, hexValue word⟩
  | _ :: last => ⟨hexValue (word.takeWhile (· != '-')), hexValue last⟩

def ofText (table : String) : List Span :=
  (wordsOf table.toList).map ofWord

end Span

end Text
end FindingLedger
