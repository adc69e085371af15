import Std.Data.HashMap
import FindingLedger.Pattern.Automaton.Encoding

/-!
# Layouts of automata

The states of an automaton are laid out one after another and numbered in this order. Each
takes the same room, and some of it more for every way that leads on from it where there can
be several. Only the room is kept, not the states. There is a bound on it.

A set of characters is laid out as its encodings, in the direction in which the automaton
reads. Reading forward, states that lead on in the same way are laid out once; reading
backward, so are states that read the same byte on the way to the same state. States laid
out before are looked for in a table in which a newer state takes the place of an older one
that falls on the same place, so that some are laid out again.
-/

namespace FindingLedger

open Text

structure Layout where
  /-- The number of states, which is also the number of the next one. -/
  states : Nat
  room : Nat
  /-- Whether the last part ends with a fork, to which one more way is added if something
  follows. -/
  forked : Bool
  deriving DecidableEq, Repr

namespace Layout

def stateRoom : Nat := 32

/-- The room of a byte run that leads on from a state, where there can be several. -/
def arcRoom : Nat := 8

def wayRoom : Nat := 4

def maxRoom : Nat := 10485760

def start : Layout :=
  ⟨0, 0, false⟩

def add (extra : Nat) (l : Layout) : Option Layout :=
  let room := l.room + stateRoom + extra
  if room ≤ maxRoom then some ⟨l.states + 1, room, false⟩ else none

def addMany : Nat → Layout → Option Layout
  | 0, l => some l
  | count + 1, l =>
      match l.add 0 with
      | some l => addMany count l
      | none => none

def addFork (ways : Nat) (l : Layout) : Option Layout :=
  (l.add (ways * wayRoom)).map fun l => { l with forked := true }

def leadOn (l : Layout) : Layout :=
  if l.forked then { l with room := l.room + wayRoom, forked := false } else l

/-!
# Places of states
-/

def mixStart : UInt64 := 14695981039346656037

def mixPrime : UInt64 := 1099511628211

def mix (mixture : UInt64) (n : Nat) : UInt64 :=
  (mixture ^^^ n.toUInt64) * mixPrime

/-- The place of a list of numbers in a table of some size. Mixing spreads lists over the
whole table. -/
def placeOf (size : Nat) (numbers : List Nat) : Nat :=
  (numbers.foldl mix mixStart).toNat % size

/-- States by their places, each with what it was laid out for. -/
abbrev Known := Std.HashMap Nat (List Nat × Nat)

/-- The state that was laid out for a list of numbers, if the table still holds it. -/
def known? (known : Known) (place : Nat) (numbers : List Nat) : Option Nat :=
  match known[place]? with
  | some (held, state) => if held == numbers then some state else none
  | none => none

structure Sharing where
  layout : Layout
  known : Known

/-- The state for a list of numbers, laid out with some extra room unless it is known. -/
def share (size extra : Nat) (numbers : List Nat) (s : Sharing) : Option (Nat × Sharing) :=
  let place := placeOf size numbers
  match known? s.known place numbers with
  | some state => some (state, s)
  | none => do
      let layout ← s.layout.add extra
      return (s.layout.states, ⟨layout, s.known.insert place (numbers, s.layout.states)⟩)

/-!
# Sets, read forward
-/

def forwardPlaces : Nat := 10000

/-- The state from which some encodings lead to a target, for encodings of no more bytes
than the depth. It has an arc for each run of first bytes, written as the two ends of the
run and the state that follows, which is laid out before. -/
def shareFront (target : Nat) :
    Nat → List (List Span) → Sharing → Option (Nat × Sharing)
  | 0, _, s => some (target, s)
  | depth + 1, encodings, s => do
      let groups := encodings.splitBy fun a b => a.head? == b.head?
      let (arcs, s) ← groups.foldlM (fun (arcs, s) group =>
        match group with
        | (run :: rest) :: _ => do
            let (next, s) ←
              if rest.isEmpty then some (target, s)
              else shareFront target depth (group.map (List.drop 1)) s
            return (arcs ++ [run.first, run.last, next], s)
        | _ => some (arcs, s)) (([] : List Nat), s)
      share forwardPlaces (arcs.length / 3 * arcRoom) arcs s

def maxBytes : Nat := 4

/-- A set of characters that is read forward: a common end, and the states that lead to
it. -/
def addForward (s : CharSet) (l : Layout) : Option Layout := do
  let target := l.states
  let l ← l.add 0
  let (_, shared) ← shareFront target maxBytes (Encoding.ofSet s) ⟨l, ∅⟩
  return shared.layout

/-!
# Sets, read backward
-/

def backwardPlaces : Nat := 1000

def shareBack : Nat → List Span → Sharing → Option Sharing
  | _, [], s => some s
  | next, run :: rest, s => do
      let (state, s) ← share backwardPlaces 0 [next, run.first, run.last] s
      shareBack state rest s

/-- A set of characters that is read backward: a fork with a way for each encoding. -/
def addBackward (s : CharSet) (l : Layout) : Option Layout := do
  let encodings := Encoding.ofSet s
  let l ← l.add (encodings.length * wayRoom)
  let target := l.states
  let l ← l.add 0
  let shared ← encodings.foldlM (fun shared encoding => shareBack target encoding shared)
    ⟨l, ∅⟩
  return shared.layout

/-!
# Sets
-/

/-- A set of characters. The runs of ASCII characters lead on from one state. -/
def addSet (backward : Bool) (s : CharSet) (l : Layout) : Option Layout :=
  if s.isAscii then do
    let l ← l.add 0
    l.add (s.runs.length * arcRoom)
  else if backward then l.addBackward s
  else l.addForward s

end Layout

end FindingLedger
