import FindingLedger.Pattern.Automaton.Room
import FindingLedger.Pattern.Reader.Bracket
import FindingLedger.Pattern.Reader.Group
import FindingLedger.Text.Decimal

/-!
# Reading patterns

A pattern is written as an expression in which most characters stand for themselves.
Brackets hold sets of characters, parentheses hold groups, and flags in front of a group
or in a group of their own change how the rest of the group around them is read. Whatever
is not well-formed is refused, and so is a pattern that is nested too deep or takes too much
room.
-/

namespace FindingLedger
namespace Pattern

structure Part where
  pattern : Pattern
  depth : Nat
  /-- Whether the part can be repeated: flags cannot. -/
  repeatable : Bool

def joinParts (parts : List Part) : Part :=
  match parts with
  | [] => ⟨.empty, 0, true⟩
  | [part] => part
  | _ =>
      ⟨.seq (parts.reverse.map Part.pattern), 1 + (parts.map Part.depth).foldl max 0, true⟩

def joinBranches (first : Part) (others : List Part) : Part :=
  match others with
  | [] => first
  | _ =>
      ⟨.choice ((first :: others).reverse.map Part.pattern),
        1 + ((first :: others).map Part.depth).foldl max 0, true⟩

def dotSet (flags : Flags) : CharSet :=
  if flags.dotAll then .any
  else if flags.anyLineEnd then .compl (.union (.single '\n') (.single '\r'))
  else .compl (.single '\n')

def literalSet (flags : Flags) (c : Char) : CharSet :=
  if flags.anyCase then
    if flags.unicode then .anyCase (.single c)
    else if Text.isAsciiLetter c then
      .inter (.anyCase (.single c)) .ascii
    else .single c
  else .single c

def partOf (flags : Flags) : Atom → Read Part
  | .char c twoDigits => do
      require (flags.unicode || !twoDigits || c.toNat < 128)
      pure ⟨.one (literalSet flags c), 0, true⟩
  | .set s => pure ⟨.one s, 0, true⟩
  | .anchor a => pure ⟨.anchor a, 0, true⟩

def caretAnchor (flags : Flags) : Anchor :=
  if !flags.multiLine then .textStart
  else if flags.anyLineEnd then .anyLineStart
  else .lineStart

def dollarAnchor (flags : Flags) : Anchor :=
  if !flags.multiLine then .textEnd
  else if flags.anyLineEnd then .anyLineEnd
  else .lineEnd

/-- A single part: an escape, a dot, an anchor, or a character that stands for itself. -/
def readPrimitive (flags : Flags) : Read Part := do
  match ← peek? with
  | none => refuse
  | some '\\' => partOf flags (← readEscape flags)
  | some '.' =>
      require flags.unicode
      skip
      pure ⟨.one (dotSet flags), 0, true⟩
  | some '^' =>
      skip
      pure ⟨.anchor (caretAnchor flags), 0, true⟩
  | some '$' =>
      skip
      pure ⟨.anchor (dollarAnchor flags), 0, true⟩
  | some c =>
      skip
      partOf flags (.char c false)

def repeatLast (parts : List Part) (repeated : Pattern → Pattern) : Read (List Part) :=
  match parts with
  | part :: before => do
      require part.repeatable
      pure (⟨repeated part.pattern, part.depth + 1, true⟩ :: before)
  | [] => refuse

/-- A question mark after a repetition makes it prefer few rounds, which does not change
what it matches. -/
def skipPreference : Read Unit := do
  if (← peek?) == some '?' then skip

/-- A number of repetitions: digits with blanks around them. -/
def readRepeatCount (flags : Flags) : Read (Option Nat) := do
  goTo ((← rest).dropWhile Text.isBlank)
  let digits ← gatherAll flags Text.isAsciiDigit
  goTo ((← rest).dropWhile Text.isBlank)
  skipSpace flags
  match Text.readNat? digits with
  | some n => do
      require (n ≤ 4294967295)
      pure (some n)
  | none => pure none

def readCounted (flags : Flags) : Read (Pattern → Pattern) := do
  let _ ← advanceTo flags
  let least? ← readRepeatCount flags
  let repeated : Pattern → Pattern ←
    if (← peek?) == some ',' then do
      let c ← advanceTo flags
      match least? with
      | none => refuse
      | some least =>
          if c == '\x7d' then
            pure fun p => .repeated p least none
          else
            match ← readRepeatCount flags with
            | some most => do
                require (least ≤ most)
                pure fun p => .repeated p least (some (most - least))
            | none => refuse
    else
      match least? with
      | some count => pure fun p => .repeated p count (some 0)
      | none => refuse
  require ((← peek?) == some '\x7d')
  advance flags
  pure repeated

/-- The rest of an expression up to the end of its group. Parts and branches read so far
are given last first. -/
def readBranches : Nat → Flags → Bool → List Part → List Part → Read Part
  | 0, _, _, _, _ => refuse
  | rounds + 1, flags, nested, branches, parts => do
      let goOn (parts : List Part) : Read Part := readBranches rounds flags nested branches parts
      skipSpace flags
      match ← peek? with
      | none => do
          require !nested
          pure (joinBranches (joinParts parts) branches)
      | some ')' => do
          require nested
          skip
          pure (joinBranches (joinParts parts) branches)
      | some '|' =>
          skip
          readBranches rounds flags nested (joinParts parts :: branches) []
      | some '(' =>
          match ← readGroupOpening flags with
          | .flags flags =>
              readBranches rounds flags nested branches (⟨.empty, 0, false⟩ :: parts)
          | .group inner kept =>
              let group ← readBranches rounds inner true [] []
              let pattern := if kept then .group group.pattern else group.pattern
              goOn (⟨pattern, group.depth + 1, true⟩ :: parts)
      | some '[' =>
          let set ← readSet flags
          goOn (⟨.one set.set, set.depth, true⟩ :: parts)
      | some '?' =>
          skip
          skipPreference
          goOn (← repeatLast parts fun p => .repeated p 0 (some 1))
      | some '*' =>
          skip
          skipPreference
          goOn (← repeatLast parts fun p => .repeated p 0 none)
      | some '+' =>
          skip
          skipPreference
          goOn (← repeatLast parts fun p => .repeated p 1 none)
      | some '\x7b' =>
          let repeated ← readCounted flags
          skipPreference
          goOn (← repeatLast parts repeated)
      | some _ =>
          let part ← readPrimitive flags
          goOn (part :: parts)

def maxDepth : Nat := 250

/-- Reads an expression. A pattern that is nested too deep or takes too much room is
refused too. -/
def read? (expression : String) : Option Pattern :=
  let cs := expression.toList
  match readBranches (cs.length + 1) .start false [] [] ⟨cs, []⟩ with
  | some (part, _) =>
      if part.depth ≤ maxDepth && part.pattern.fits then some part.pattern
      else none
  | none => none

end Pattern
end FindingLedger
