import FindingLedger.Pattern.Reader.Escape

/-!
# Sets in brackets

A set in brackets lists characters, ranges, classes and further sets. The marks `&&`, `--` and
`~~` between lists take what both have, what only the first has, and what just one of them has;
several of them group to the left.
-/

namespace FindingLedger
namespace Pattern

/-- A set, with the levels of nesting that it takes to write it. -/
structure SetPart where
  set : CharSet
  depth : Nat

def joinSets (members : List SetPart) : SetPart :=
  match members with
  | [] => ⟨.none, 0⟩
  | [member] => member
  | _ =>
      ⟨CharSet.unions (members.map SetPart.set),
        1 + (members.map SetPart.depth).foldl max 0⟩

inductive SetOperation where
  | inter
  | minus
  | differ

def SetOperation.apply (operation : SetOperation) (flags : Flags) (a b : SetPart) : SetPart :=
  let fold (s : CharSet) : CharSet := if flags.anyCase then .anyCase s else s
  let set :=
    match operation with
    | .inter => CharSet.inter (fold a.set) (fold b.set)
    | .minus => .minus (fold a.set) (fold b.set)
    | .differ => .differ (fold a.set) (fold b.set)
  ⟨set, 1 + max a.depth b.depth⟩

/-- The members read so far, combined with the set to the left of the last operator. -/
def closeOperand (flags : Flags) (left : Option (SetPart × SetOperation))
    (members : List SetPart) : SetPart :=
  let right := joinSets members
  match left with
  | none => right
  | some (a, operation) => operation.apply flags a right

def readAsciiClass (flags : Flags) : Read (Option CharSet) := do
  match ← rest with
  | '[' :: ':' :: more =>
      let negated := more.head? == some '^'
      let more := if negated then more.drop 1 else more
      let name := more.takeWhile fun c => c != ':'
      match more.drop name.length, CharSet.asciiClass? name with
      | ':' :: ']' :: after, some set =>
          goTo after
          pure (some (← finishSet flags true negated set))
      | _, _ => pure none
  | _ => pure none

/-- The character after the next one, blanks and the mark of a comment passed over where
the flags say so. -/
def peekBeyond? (flags : Flags) (cs : List Char) : Option Char :=
  let after := cs.drop 1
  if flags.spaced then
    let next :=
      match after.dropWhile Text.isBlank with
      | '#' :: more => more.dropWhile Text.isBlank
      | next => next
    if next.isEmpty then after.head? else next.head?
  else
    after.head?

def readSetAtom (flags : Flags) : Read Atom := do
  match ← peek? with
  | some '\\' => readEscape flags
  | some c =>
      skip
      pure (.char c false)
  | none => refuse

/-- The code point that a character stands for inside brackets. Where sets are written in
terms of bytes it has to be an ASCII character. -/
def setCode (flags : Flags) : Atom → Read Nat
  | .char c _ => do
      require (flags.unicode || c.toNat < 128)
      pure c.toNat
  | _ => refuse

/-- A member of a set: a range, a character or a class. -/
def readMember (flags : Flags) : Read CharSet := do
  let first ← readSetAtom flags
  skipSpace flags
  let here ← rest
  let beyond := peekBeyond? flags here
  require !here.isEmpty
  if here.head? != some '-' || beyond == some ']' || beyond == some '-' then
    match first with
    | .set s => pure s
    | .char _ _ => do
        let n ← setCode flags first
        pure (.range n n)
    | .anchor _ => refuse
  else
    let _ ← advanceTo flags
    let last ← readSetAtom flags
    let low ← setCode flags first
    let high ← setCode flags last
    require (low ≤ high)
    pure (.range low high)

def readHyphens (flags : Flags) : Nat → Read (List SetPart)
  | 0 => pure []
  | rounds + 1 => do
      if (← peek?) == some '-' then
        let _ ← advanceTo flags
        let more ← readHyphens flags rounds
        pure (⟨.single '-', 0⟩ :: more)
      else
        pure []

/-- The opening of a set: whether it is negated, and what stands for itself at its front. -/
def readOpening (flags : Flags) : Read (Bool × List SetPart) := do
  let c ← advanceTo flags
  let negated := c == '^'
  if negated then
    let _ ← advanceTo flags
  let hyphens ← readHyphens flags (← rest).length
  if hyphens.isEmpty && (← peek?) == some ']' then
    let _ ← advanceTo flags
    pure (negated, [⟨.single ']', 0⟩])
  else
    pure (negated, hyphens)

/-- The rest of a set in brackets after some members, up to its closing bracket. -/
def readMembers (flags : Flags) (negated : Bool) :
    Nat → Option (SetPart × SetOperation) → List SetPart → Read SetPart
  | 0, _, _ => refuse
  | rounds + 1, left, members => do
      skipSpace flags
      let operator (operation : SetOperation) : Read SetPart := do
        skip
        skip
        readMembers flags negated rounds (some (closeOperand flags left members, operation)) []
      match ← rest with
      | [] => refuse
      | '[' :: _ =>
          match ← readAsciiClass flags with
          | some set => readMembers flags negated rounds left (⟨set, 0⟩ :: members)
          | none =>
              let (innerNegated, front) ← readOpening flags
              let inner ← readMembers flags innerNegated rounds none front
              readMembers flags negated rounds left (inner :: members)
      | ']' :: _ =>
          skip
          let whole := closeOperand flags left members
          let set ← finishSet flags true negated whole.set
          pure ⟨set, 1 + whole.depth⟩
      | '&' :: '&' :: _ => operator .inter
      | '-' :: '-' :: _ => operator .minus
      | '~' :: '~' :: _ => operator .differ
      | _ :: _ =>
          let set ← readMember flags
          readMembers flags negated rounds left (⟨set, 0⟩ :: members)

def readSet (flags : Flags) : Read SetPart := do
  let (negated, front) ← readOpening flags
  readMembers flags negated ((← rest).length + 1) none front

end Pattern
end FindingLedger
