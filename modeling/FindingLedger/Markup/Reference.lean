import FindingLedger.Text.Utf8

/-!
# References in text

In text a character may be written as a reference: one of five names or a number,
between an ampersand and a semicolon. Places in a chunk of text are counted in bytes.
-/

namespace FindingLedger
namespace Markup

inductive NumberFault where
  | signed
  | noDigits
  | badDigit
  | tooLarge
  | zero
  | noCharacter (code : Nat)
  deriving DecidableEq, Repr

def NumberFault.message : NumberFault → String
  | .signed => "unexpected number sign"
  | .noDigits => "cannot parse integer from empty string"
  | .badDigit => "invalid digit found in string"
  | .tooLarge => "number too large to fit in target type"
  | .zero => "0x0 character is not permitted in XML"
  | .noCharacter code => "`" ++ toString code ++ "` is not a valid codepoint"

inductive TextFault where
  | encoding (error : Text.Utf8Error)
  | unknownName (first last : Nat) (name : List Char)
  /-- An ampersand at a byte place of a chunk of some size has no semicolon. -/
  | unterminated (first size : Nat)
  | number (fault : NumberFault)
  deriving DecidableEq, Repr

def TextFault.message : TextFault → String
  | .encoding error => "cannot decode input using UTF-8: " ++ error.message
  | .unknownName first last name =>
      "at " ++ toString first ++ ".." ++ toString last ++ ": unrecognized entity `" ++
        String.ofList name ++ "`"
  | .unterminated first size =>
      "Error while escaping character at range " ++ toString first ++ ".." ++ toString size ++
        ": Cannot find ';' after '&'"
  | .number fault => "invalid character reference: " ++ fault.message

namespace Reference

def digit? (base : Nat) (c : Char) : Option Nat :=
  let n := c.toNat
  let value :=
    if 48 ≤ n && n ≤ 57 then n - 48
    else if 65 ≤ n && n ≤ 70 then n - 55
    else if 97 ≤ n && n ≤ 102 then n - 87
    else 16
  if value < base then some value else none

/-- The number that digits spell after those already read. The first fault from the left
counts. -/
def readDigits (base : Nat) : Nat → List Char → Except NumberFault Nat
  | n, [] => .ok n
  | n, c :: rest =>
      match digit? base c with
      | none => .error .badDigit
      | some d =>
          if 4294967295 < base * n + d then .error .tooLarge
          else readDigits base (base * n + d) rest

def readNumber (base : Nat) (cs : List Char) : Except NumberFault Nat :=
  match cs with
  | [] => .error .noDigits
  | c :: _ => if c == '+' || c == '-' then .error .signed else readDigits base 0 cs

def charOf (code : Nat) : Except NumberFault Char :=
  if code == 0 then .error .zero
  else if code.isValidChar then .ok (Char.ofNat code)
  else .error (.noCharacter code)

/-- The character that a number sign and digits refer to. The letter `x` before the digits
makes them hexadecimal. -/
def ofDigits : List Char → Except NumberFault Char
  | 'x' :: cs => readNumber 16 cs >>= charOf
  | cs => readNumber 10 cs >>= charOf

def ofName? (name : List Char) : Option Char :=
  if name == ['l', 't'] then some '<'
  else if name == ['g', 't'] then some '>'
  else if name == ['a', 'm', 'p'] then some '&'
  else if name == ['a', 'p', 'o', 's'] then some '\''
  else if name == ['q', 'u', 'o', 't'] then some '"'
  else none

/-- The character that a reference stands for. The byte places are those of the text
between the ampersand and the semicolon. -/
def resolve (first last : Nat) (name : List Char) : Except TextFault Char :=
  match name with
  | '#' :: digits => (ofDigits digits).mapError TextFault.number
  | _ =>
      match ofName? name with
      | some c => .ok c
      | none => .error (.unknownName first last name)

/-- Replaces references in a chunk of some size from a byte place on. Inside a reference
its place and the characters read of it are known, the last one first. -/
def replaceFrom (size : Nat) :
    Nat → Option (Nat × List Char) → List Char → Except TextFault (List Char)
  | _, none, [] => .ok []
  | _, some (first, _), [] => .error (.unterminated first size)
  | place, none, c :: rest =>
      if c == '&' then
        replaceFrom size (place + 1) (some (place, [])) rest
      else
        (replaceFrom size (place + c.utf8Size) none rest).map (c :: ·)
  | place, some (first, name), c :: rest =>
      if c == ';' then
        match resolve (first + 1) place name.reverse with
        | .ok r => (replaceFrom size (place + 1) none rest).map (r :: ·)
        | .error fault => .error fault
      else if c == '&' then
        .error (.unterminated first size)
      else
        replaceFrom size (place + c.utf8Size) (some (first, c :: name)) rest

end Reference

/-- The text of a chunk, its references replaced by the characters they stand for. -/
def textOf (chunk : Bytes) : Except TextFault (List Char) :=
  match Text.decode chunk with
  | .error error => .error (.encoding error)
  | .ok cs => Reference.replaceFrom chunk.length 0 none cs

end Markup
end FindingLedger
