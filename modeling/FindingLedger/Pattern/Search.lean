import FindingLedger.NatSet
import FindingLedger.Pattern.Basic

/-!
# Searching for patterns

A pattern carries each set of places to the set of places that a match from one of them
can reach. Searching a text follows all matches at once, from every place, so that its
time does not depend on the order in which choices are tried. Sets of places are sorted
lists without repetition.
-/

namespace FindingLedger
namespace Pattern

/-!
# Repeated steps
-/

/-- All places reached from a set by going on from the frontier any number of times. The
number of rounds is bounded by the number of places. -/
def close (f : List Nat → List Nat) : Nat → List Nat → List Nat → List Nat
  | 0, seen, _ => seen
  | rounds + 1, seen, frontier =>
      let fresh := NatSet.minus (f frontier) seen
      if fresh.isEmpty then seen else close f rounds (NatSet.union seen fresh) fresh

/-- The set reached by so many steps. Once a step changes nothing the rest can be
left out. -/
def iterate (f : List Nat → List Nat) : Nat → List Nat → List Nat
  | 0, places => places
  | count + 1, places =>
      let next := f places
      if next == places then places else iterate f count next

def upTo (f : List Nat → List Nat) : Nat → List Nat → List Nat → List Nat
  | 0, seen, _ => seen
  | count + 1, seen, frontier =>
      let fresh := NatSet.minus (f frontier) seen
      if fresh.isEmpty then seen else upTo f count (NatSet.union seen fresh) fresh

/-- Whether what a pattern reaches in two steps it also reaches in one, so that there is
no use in repeating it. -/
def settles : Pattern → Bool
  | .anchor _ => true
  | .group p => settles p
  | .repeated _ least none => least ≤ 1
  | .repeated p least (some more) => least + more ≤ 1 && settles p
  | _ => false

/-!
# Matching
-/

def stepOver (text : Array Char) (set : CharSet) (place : Nat) : Option Nat :=
  match text[place]? with
  | some c => if set.has c then some (place + 1) else none
  | none => none

mutual

/-- The places where a match can end that begins in one of the given places. -/
def reach (text : Array Char) : Pattern → List Nat → List Nat
  | .one set, places => places.filterMap (stepOver text set)
  | .anchor a, places => places.filter fun place => a.holds text place
  | .group p, places => reach text p places
  | .repeated p least more, places =>
      let start := iterate (reach text p) least places
      if 0 < least && settles p then start
      else
        match more with
        | some count => upTo (reach text p) count start start
        | none => close (reach text p) (text.size + 1) start start
  | .seq ps, places => reachAll text ps places
  | .choice ps, places => reachAny text ps places

def reachAll (text : Array Char) : List Pattern → List Nat → List Nat
  | [], places => places
  | p :: ps, places => reachAll text ps (reach text p places)

def reachAny (text : Array Char) : List Pattern → List Nat → List Nat
  | [], _ => []
  | p :: ps, places => NatSet.union (reach text p places) (reachAny text ps places)

end

def occursIn (p : Pattern) (text : List Char) : Bool :=
  let chars := text.toArray
  !(reach chars p (List.range (chars.size + 1))).isEmpty

end Pattern
end FindingLedger
