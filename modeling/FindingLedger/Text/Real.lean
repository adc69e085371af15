import FindingLedger.Text.Ascii
import FindingLedger.Text.Decimal

/-!
# Decimal fractions

A real number is read as a whole number times a power of ten and rounded once, to the
nearest double. Beyond the range of doubles it is infinite or zero.
-/

namespace FindingLedger
namespace Text

/-- A decimal number: `mantissa` times ten to the power `exponent`. -/
structure Decimal where
  mantissa : Nat
  exponent : Int
  deriving DecidableEq, Repr

namespace Decimal

/-- The exponent part of a number; nothing at all counts as zero. -/
def readExponent? : List Char → Option Int
  | [] => some 0
  | c :: rest => if c == 'e' || c == 'E' then readSigned? rest else none

/-- Reads digits with at most one point among them and an exponent after them. At least
one digit stands beside the point. -/
def read? (cs : List Char) : Option Decimal :=
  let isDigit (c : Char) : Bool := (digit? c).isSome
  let whole := cs.takeWhile isDigit
  let rest := cs.dropWhile isDigit
  let (fraction, rest) :=
    match rest with
    | '.' :: more => (more.takeWhile isDigit, more.dropWhile isDigit)
    | _ => ([], rest)
  match readNat? (whole ++ fraction), readExponent? rest with
  | some mantissa, some exponent => some ⟨mantissa, exponent - fraction.length⟩
  | _, _ => none

def digitCount (n : Nat) : Nat :=
  (Nat.toDigits 10 n).length

def toFloat (d : Decimal) : Float :=
  let size := d.exponent + digitCount d.mantissa
  if d.mantissa == 0 || size < -400 then 0.0
  else if 400 < size then 1.0 / 0.0
  else if d.exponent < 0 then Float.ofScientific d.mantissa true d.exponent.natAbs
  else Float.ofScientific d.mantissa false d.exponent.natAbs

end Decimal

def readMagnitude? (cs : List Char) : Option Float :=
  let name := String.ofList (cs.map lowerAscii)
  if name == "inf" || name == "infinity" then some (1.0 / 0.0)
  else if name == "nan" then some (0.0 / 0.0)
  else (Decimal.read? cs).map Decimal.toFloat

/-- Reads a real number: an optional sign, then digits or the name of infinity or of no
number. -/
def readReal? : List Char → Option Float
  | '-' :: rest => (readMagnitude? rest).map fun x => -x
  | '+' :: rest => readMagnitude? rest
  | cs => readMagnitude? cs

end Text
end FindingLedger
