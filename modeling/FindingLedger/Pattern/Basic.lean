import FindingLedger.Pattern.CharSet
import FindingLedger.Text.Word

/-!
# Patterns

A pattern says which stretches of a text match. It is built from single characters and
places by sequence, choice, repetition and grouping. The relation `Matches` gives the meaning of a
pattern as the pairs of places between which it matches.
-/

namespace FindingLedger

/-- What a place says about the words on either side of it. -/
inductive WordEdge where
  | boundary
  | inside
  | start
  | stop
  | startHalf
  | stopHalf
  deriving DecidableEq, Repr

inductive Anchor where
  | textStart
  | textEnd
  | lineStart
  | lineEnd
  /-- A line begins here, lines ending in a carriage return, a line feed, or both. -/
  | anyLineStart
  | anyLineEnd
  /-- Words begin or end here, words being of ASCII characters only or of any. -/
  | wordEdge (edge : WordEdge) (asciiOnly : Bool)
  deriving DecidableEq, Repr

def WordEdge.holds (edge : WordEdge) (before after : Bool) : Bool :=
  match edge with
  | .boundary => before != after
  | .inside => before == after
  | .start => !before && after
  | .stop => before && !after
  | .startHalf => !before
  | .stopHalf => !after

namespace Anchor

def before? (text : Array Char) (place : Nat) : Option Char :=
  if place = 0 then none else text[place - 1]?

/-- Whether a word of the text reaches a place from one side, given the character there. -/
def wordSide (asciiOnly : Bool) : Option Char → Bool
  | some c => if asciiOnly then Text.isAsciiWord c else Text.isWord c
  | none => false

def holds (a : Anchor) (text : Array Char) (place : Nat) : Bool :=
  match a with
  | .textStart => place == 0
  | .textEnd => place == text.size
  | .lineStart => before? text place == none || before? text place == some '\n'
  | .lineEnd => place == text.size || text[place]? == some '\n'
  | .anyLineStart =>
      before? text place == none || before? text place == some '\n' ||
        (before? text place == some '\r' && text[place]? != some '\n')
  | .anyLineEnd =>
      place == text.size || text[place]? == some '\r' ||
        (text[place]? == some '\n' && before? text place != some '\r')
  | .wordEdge edge asciiOnly =>
      edge.holds (wordSide asciiOnly (before? text place)) (wordSide asciiOnly text[place]?)

end Anchor

inductive Pattern where
  | one (set : CharSet)
  | anchor (a : Anchor)
  | group (p : Pattern)
  /-- A pattern so many times, and up to so many times more, or any number of times more. -/
  | repeated (p : Pattern) (least : Nat) (more : Option Nat)
  | seq (ps : List Pattern)
  | choice (ps : List Pattern)

namespace Pattern

def empty : Pattern :=
  .seq []

/-- `Matches text p i j` says that the pattern matches the stretch from place `i` to
place `j`. -/
inductive Matches (text : Array Char) : Pattern → Nat → Nat → Prop where
  | one {set : CharSet} {i : Nat} {c : Char} (here : text[i]? = some c) (mem : set.has c) :
      Matches text (.one set) i (i + 1)
  | anchor {a : Anchor} {i : Nat} (holds : a.holds text i) :
      Matches text (.anchor a) i i
  | group {p : Pattern} {i j : Nat} (inner : Matches text p i j) :
      Matches text (.group p) i j
  | done (p : Pattern) (more : Option Nat) (i : Nat) :
      Matches text (.repeated p 0 more) i i
  | least {p : Pattern} {least : Nat} {more : Option Nat} {i j k : Nat}
      (head : Matches text p i j) (tail : Matches text (.repeated p least more) j k) :
      Matches text (.repeated p (least + 1) more) i k
  | more {p : Pattern} {more i j k : Nat} (head : Matches text p i j)
      (tail : Matches text (.repeated p 0 (some more)) j k) :
      Matches text (.repeated p 0 (some (more + 1))) i k
  | further {p : Pattern} {i j k : Nat} (head : Matches text p i j)
      (tail : Matches text (.repeated p 0 none) j k) :
      Matches text (.repeated p 0 none) i k
  | nil (i : Nat) : Matches text (.seq []) i i
  | cons {p : Pattern} {ps : List Pattern} {i j k : Nat} (head : Matches text p i j)
      (tail : Matches text (.seq ps) j k) : Matches text (.seq (p :: ps)) i k
  | choice {p : Pattern} {ps : List Pattern} {i j : Nat} (mem : p ∈ ps)
      (branch : Matches text p i j) : Matches text (.choice ps) i j

end Pattern

end FindingLedger
