import FindingLedger.Pattern.Basic

/-!
# Plans of automata

An automaton is built from a plan, which is a pattern in a plain form: characters that
follow each other are joined to texts, sequences and choices are flattened, a choice between
characters is a set, and what all branches of a choice begin with stands in front of it.
-/

namespace FindingLedger

inductive Plan where
  | empty
  | text (cs : List Char)
  /-- Takes a character of a set that is not a single character. -/
  | set (s : CharSet)
  | anchor (a : Anchor)
  | group (p : Plan)
  | repeated (p : Plan) (least : Nat) (most : Option Nat)
  | seq (ps : List Plan)
  | choice (ps : List Plan)

namespace Plan

/-!
# Extents
-/

def byteLength (n : Nat) : Nat :=
  if n < 0x80 then 1 else if n < 0x800 then 2 else if n < 0x10000 then 3 else 4

/-- What the matches of a plan have in common. -/
structure Extent where
  least : Option Nat
  most : Option Nat
  /-- Whether an anchor holds every match to the start of the text. -/
  fromStart : Bool
  /-- Whether an anchor holds every match to the end of the text. -/
  toEnd : Bool

namespace Extent

def exactly (count : Nat) : Extent :=
  ⟨some count, some count, false, false⟩

def ofSet (s : CharSet) : Extent :=
  ⟨s.runs.head?.map fun r => byteLength r.first, s.runs.getLast?.map fun r => byteLength r.last,
    false, false⟩

def ofAnchor (a : Anchor) : Extent :=
  ⟨some 0, some 0, a == .textStart, a == .textEnd⟩

/-- The extent of one match after another. What takes nothing leaves the anchors of its
neighbour in their place. -/
def followedBy (a b : Extent) : Extent where
  least := do return (← a.least) + (← b.least)
  most := do return (← a.most) + (← b.most)
  fromStart := a.fromStart || (a.most == some 0 && b.fromStart)
  toEnd := b.toEnd || (b.most == some 0 && a.toEnd)

def orElse (a b : Extent) : Extent where
  least := do return min (← a.least) (← b.least)
  most := do return max (← a.most) (← b.most)
  fromStart := a.fromStart && b.fromStart
  toEnd := a.toEnd && b.toEnd

def times (e : Extent) (least : Nat) (most : Option Nat) : Extent where
  least := do return (← e.least) * least
  most := do return (← e.most) * (← most)
  fromStart := 0 < least && e.fromStart
  toEnd := 0 < least && e.toEnd

end Extent

mutual

def extent : Plan → Extent
  | empty => .exactly 0
  | text cs => .exactly (cs.map fun c => byteLength c.toNat).sum
  | set s => .ofSet s
  | anchor a => .ofAnchor a
  | group p => extent p
  | repeated p least most => (extent p).times least most
  | seq ps => extentOfSeq ps
  | choice ps => extentOfChoice ps

def extentOfSeq : List Plan → Extent
  | [] => .exactly 0
  | p :: ps => (extent p).followedBy (extentOfSeq ps)

def extentOfChoice : List Plan → Extent
  | [] => ⟨none, none, false, false⟩
  | [p] => extent p
  | p :: ps => (extent p).orElse (extentOfChoice ps)

end

/-!
# Comparing plans
-/

mutual

/-- Whether two plans are the same. A group is the same as no other, since it is kept what
each of them takes. -/
def same : Plan → Plan → Bool
  | empty, empty => true
  | text a, text b => a == b
  | set s, set t => s == t
  | anchor a, anchor b => a == b
  | repeated p least most, repeated q least' most' =>
      least == least' && most == most' && same p q
  | seq ps, seq qs => sameAll ps qs
  | choice ps, choice qs => sameAll ps qs
  | _, _ => false

def sameAll : List Plan → List Plan → Bool
  | [], [] => true
  | p :: ps, q :: qs => same p q && sameAll ps qs
  | _, _ => false

end

def sharedFront : List Plan → List Plan → List Plan
  | p :: ps, q :: qs => if same p q then p :: sharedFront ps qs else []
  | _, _ => []

mutual

def count : Plan → Nat
  | group p => count p + 1
  | repeated p _ _ => count p + 1
  | seq ps => countAll ps + 1
  | choice ps => countAll ps + 1
  | _ => 1

def countAll : List Plan → Nat
  | [] => 0
  | p :: ps => count p + countAll ps

end

/-!
# Building plans
-/

def ofSet (s : CharSet) : Plan :=
  match s.only? with
  | some c => .text [c]
  | none => .set s

/-- The plan of a repeated plan. What takes nothing is not repeated more than once. -/
def repeatedOf (p : Plan) (least : Nat) (most : Option Nat) : Plan :=
  let (least, most) :=
    if (extent p).most == some 0 then (min least 1, some (min (most.getD 1) 1))
    else (least, most)
  if most == some 0 then .empty
  else if least == 1 && most == some 1 then p
  else .repeated p least most

def parts : Plan → List Plan
  | empty => []
  | seq ps => ps
  | p => [p]

/-- A part before others. Texts that meet are joined. -/
def joinPart (p : Plan) (rest : List Plan) : List Plan :=
  match p, rest with
  | text a, text b :: more => .text (a ++ b) :: more
  | _, _ => p :: rest

def seqOf (ps : List Plan) : Plan :=
  match (ps.flatMap parts).foldr joinPart [] with
  | [] => .empty
  | [p] => p
  | ps => .seq ps

def branches : Plan → List Plan
  | choice ps => ps
  | p => [p]

def ofOneChar? : Plan → Option CharSet
  | text [c] => some (.single c)
  | _ => none

def ofSet? : Plan → Option CharSet
  | set s => some s
  | _ => none

def ofSeq? : Plan → Option (List Plan)
  | seq ps => some ps
  | _ => none

/-- What all branches of a choice begin with, and how each of them goes on, if they are
sequences that begin alike. -/
def splitFront? (ps : List Plan) : Option (List Plan × List Plan) :=
  match ps.mapM ofSeq? with
  | some (first :: others) =>
      match others.foldl sharedFront first with
      | [] => none
      | front => some (front, (first :: others).map fun ps => seqOf (ps.drop front.length))
  | _ => none

/-- The plan of one of several plans. The fuel bounds how often something can be taken out
in front. -/
def choiceWithin : Nat → List Plan → Plan
  | fuel, ps =>
      match ps.flatMap branches with
      | [] => .set .none
      | [p] => p
      | ps =>
          match ps.mapM ofOneChar?, ps.mapM ofSet? with
          | some sets, _ => ofSet (.unions sets)
          | none, some sets => ofSet (.unions sets)
          | none, none =>
              match fuel, splitFront? ps with
              | fuel + 1, some (front, rests) => seqOf (front ++ [choiceWithin fuel rests])
              | _, _ => .choice ps

def choiceOf (ps : List Plan) : Plan :=
  choiceWithin (countAll ps) ps

mutual

def ofPattern : Pattern → Plan
  | .one s => ofSet s
  | .anchor a => .anchor a
  | .group p => .group (ofPattern p)
  | .repeated p least more => repeatedOf (ofPattern p) least (more.map (least + ·))
  | .seq ps => seqOf (ofPatterns ps)
  | .choice ps => choiceOf (ofPatterns ps)

def ofPatterns : List Pattern → List Plan
  | [] => []
  | p :: ps => ofPattern p :: ofPatterns ps

end

end Plan

end FindingLedger
