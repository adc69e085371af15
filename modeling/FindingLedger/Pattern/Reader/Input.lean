import FindingLedger.Text.Blank

/-!
# Input of the pattern reader

An expression is read from its front. What is read takes its characters from what is left,
or refuses the expression; why it is refused is not told apart. Flags say how the characters
are understood. A loop over characters has as many rounds to go as there are characters, of
which each round takes at least one.
-/

namespace FindingLedger
namespace Pattern

structure Flags where
  anyCase : Bool
  multiLine : Bool
  dotAll : Bool
  unicode : Bool
  anyLineEnd : Bool
  spaced : Bool
  deriving DecidableEq, Repr

def Flags.start : Flags :=
  ⟨false, false, false, true, false, false⟩

/-- What is left of an expression, and the names of the groups read so far. -/
structure Input where
  rest : List Char
  names : List (List Char)

/-- A part of an expression is read from the front of the input, or refused. -/
abbrev Read (α : Type) := StateT Input Option α

def refuse {α : Type} : Read α :=
  fun _ => none

def require (condition : Bool) : Read Unit :=
  if condition then pure () else refuse

def peek? : Read (Option Char) :=
  fun input => some (input.rest.head?, input)

def rest : Read (List Char) :=
  fun input => some (input.rest, input)

def goTo (rest : List Char) : Read Unit :=
  fun input => some ((), { input with rest })

def dropSpace : Bool → List Char → List Char
  | _, [] => []
  | true, c :: rest => dropSpace (c != '\n') rest
  | false, c :: rest =>
      if Text.isBlank c then dropSpace false rest
      else if c == '#' then dropSpace true rest
      else c :: rest

def skipSpace (flags : Flags) : Read Unit := do
  if flags.spaced then goTo (dropSpace false (← rest))

def skip : Read Unit := do
  goTo ((← rest).drop 1)

def advance (flags : Flags) : Read Unit := do
  skip
  skipSpace flags

/-- Passes over one character and the blanks after it; something has to follow. -/
def advanceTo (flags : Flags) : Read Char := do
  advance flags
  match ← peek? with
  | some c => pure c
  | none => refuse

/-- The characters of a class from here on, with blanks between them passed over. -/
def gather (flags : Flags) (accepts : Char → Bool) : Nat → Read (List Char)
  | 0 => pure []
  | rounds + 1 => do
      match ← peek? with
      | some c =>
          if accepts c then
            advance flags
            let more ← gather flags accepts rounds
            pure (c :: more)
          else
            pure []
      | none => pure []

def gatherAll (flags : Flags) (accepts : Char → Bool) : Read (List Char) := do
  gather flags accepts (← rest).length

/-- Whether the input goes on with some characters; if so they are passed over. -/
def skipText (text : List Char) : Read Bool := do
  let cs ← rest
  if text.isPrefixOf cs then
    goTo (cs.drop text.length)
    pure true
  else
    pure false

end Pattern
end FindingLedger
