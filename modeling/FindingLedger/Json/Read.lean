import FindingLedger.Json.Basic
import FindingLedger.Text.Ascii
import FindingLedger.Text.Span

/-!
# Reading JSON

A document holds one value with nothing but blanks around it. Each part is read from the
front of what is left, and what follows it is given back. Nested values are read with as
many rounds to go as there are characters.
-/

namespace FindingLedger
namespace Json

def isSpace (c : Char) : Bool :=
  c == ' ' || c == '\t' || c == '\n' || c == '\r'

def dropSpace (cs : List Char) : List Char :=
  cs.dropWhile isSpace

/-!
# Texts
-/

def escaped? (c : Char) : Option Nat :=
  if c == '"' || c == '\\' || c == '/' then some c.toNat
  else if c == 'b' then some 0x08
  else if c == 'f' then some 0x0C
  else if c == 'n' then some 0x0A
  else if c == 'r' then some 0x0D
  else if c == 't' then some 0x09
  else none

/-- The units of a text after its opening quote, and what follows its closing one. -/
def readUnits : List Char → Option (JsonText × List Char)
  | [] => none
  | '"' :: rest => some ([], rest)
  | '\\' :: 'u' :: a :: b :: c :: d :: rest =>
      match Text.hexDigit? a, Text.hexDigit? b, Text.hexDigit? c, Text.hexDigit? d with
      | some a, some b, some c, some d =>
          (readUnits rest).map fun r => ((4096 * a + 256 * b + 16 * c + d) :: r.1, r.2)
      | _, _, _, _ => none
  | '\\' :: c :: rest =>
      match escaped? c with
      | some n => (readUnits rest).map fun r => (n :: r.1, r.2)
      | none => none
  | c :: rest =>
      if c.toNat < 0x20 || c == '\\' then none
      else (readUnits rest).map fun r => (c.toNat :: r.1, r.2)

/-- Joins the two halves of a pair into the character that they stand for. -/
def joinPairs : JsonText → JsonText
  | [] => []
  | n :: rest =>
      match joinPairs rest with
      | m :: more =>
          if 0xD800 ≤ n && n < 0xDC00 && 0xDC00 ≤ m && m < 0xE000 then
            (0x10000 + 0x400 * (n - 0xD800) + (m - 0xDC00)) :: more
          else
            n :: m :: more
      | [] => [n]

def readText (cs : List Char) : Option (JsonText × List Char) :=
  (readUnits cs).map fun r => (joinPairs r.1, r.2)

/-!
# Numbers
-/

def readDigits (cs : List Char) : Option (List Char × List Char) :=
  match cs.takeWhile Text.isAsciiDigit with
  | [] => none
  | digits => some (digits, cs.drop digits.length)

def readFraction : List Char → Option (List Char × List Char)
  | '.' :: rest => (readDigits rest).map fun r => ('.' :: r.1, r.2)
  | cs => some ([], cs)

def readSign : List Char → List Char × List Char
  | '+' :: rest => (['+'], rest)
  | '-' :: rest => (['-'], rest)
  | cs => ([], cs)

def readExponent : List Char → Option (List Char × List Char)
  | c :: rest =>
      if c == 'e' || c == 'E' then
        let (sign, rest) := readSign rest
        (readDigits rest).map fun r => (c :: sign ++ r.1, r.2)
      else some ([], c :: rest)
  | [] => some ([], [])

/-- The number at the front, without its sign. Only zero begins with the digit zero. -/
def readMagnitude (cs : List Char) : Option (List Char × List Char) := do
  let (whole, rest) ← readDigits cs
  if whole.head? == some '0' && whole.length != 1 then none
  else
    let (fraction, rest) ← readFraction rest
    let (exponent, rest) ← readExponent rest
    return (whole ++ fraction ++ exponent, rest)

def readNumber : List Char → Option (List Char × List Char)
  | '-' :: rest => (readMagnitude rest).map fun r => ('-' :: r.1, r.2)
  | cs => readMagnitude cs

/-!
# Values
-/

def expect (word cs : List Char) : Option (List Char) :=
  if word.isPrefixOf cs then some (cs.drop word.length) else none

mutual

def readValue : Nat → List Char → Option (Json × List Char)
  | 0, _ => none
  | rounds + 1, cs =>
      match dropSpace cs with
      | [] => none
      | '"' :: rest => (readText rest).map fun r => (.string r.1, r.2)
      | '[' :: rest =>
          match dropSpace rest with
          | ']' :: after => some (.array [], after)
          | _ => (readItems rounds rest).map fun r => (.array r.1, r.2)
      | '\x7b' :: rest =>
          match dropSpace rest with
          | '\x7d' :: after => some (.object [], after)
          | _ => (readMembers rounds rest).map fun r => (.object r.1, r.2)
      | 'n' :: rest => (expect ['u', 'l', 'l'] rest).map fun after => (.null, after)
      | 't' :: rest => (expect ['r', 'u', 'e'] rest).map fun after => (.boolean true, after)
      | 'f' :: rest =>
          (expect ['a', 'l', 's', 'e'] rest).map fun after => (.boolean false, after)
      | rest => (readNumber rest).map fun r => (.number r.1, r.2)

def readItems : Nat → List Char → Option (List Json × List Char)
  | 0, _ => none
  | rounds + 1, cs =>
      match readValue rounds cs with
      | none => none
      | some (item, rest) =>
          match dropSpace rest with
          | ',' :: rest => (readItems rounds rest).map fun r => (item :: r.1, r.2)
          | ']' :: after => some ([item], after)
          | _ => none

def readMembers : Nat → List Char → Option (List (JsonText × Json) × List Char)
  | 0, _ => none
  | rounds + 1, cs =>
      match dropSpace cs with
      | '"' :: rest =>
          match readText rest with
          | none => none
          | some (name, rest) =>
              match dropSpace rest with
              | ':' :: rest =>
                  match readValue rounds rest with
                  | none => none
                  | some (value, rest) =>
                      match dropSpace rest with
                      | ',' :: rest =>
                          (readMembers rounds rest).map fun r => ((name, value) :: r.1, r.2)
                      | '\x7d' :: after => some ([(name, value)], after)
                      | _ => none
              | _ => none
      | _ => none

end

def read? (document : String) : Option Json :=
  let cs := document.toList
  match readValue (2 * cs.length + 2) cs with
  | some (value, rest) => if (dropSpace rest).isEmpty then some value else none
  | none => none

end Json
end FindingLedger
