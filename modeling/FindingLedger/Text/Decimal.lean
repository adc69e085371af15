/-!
# Decimal integers

Reading whole numbers from their decimal digits within the bounds of a field.
-/

namespace FindingLedger
namespace Text

def digit? (c : Char) : Option Nat :=
  if 48 ≤ c.toNat && c.toNat ≤ 57 then some (c.toNat - 48) else none

def readDigits? : Nat → List Char → Option Nat
  | n, [] => some n
  | n, c :: rest =>
      match digit? c with
      | some d => readDigits? (10 * n + d) rest
      | none => none

def readNat? : List Char → Option Nat
  | [] => none
  | cs => readDigits? 0 cs

def readUnsigned? : List Char → Option Nat
  | '+' :: rest => readNat? rest
  | cs => readNat? cs

def readSigned? : List Char → Option Int
  | '-' :: rest => (readNat? rest).map fun n => -(n : Int)
  | cs => (readUnsigned? cs).map fun n => (n : Int)

def fitsInt64 (n : Int) : Bool :=
  -9223372036854775808 ≤ n && n ≤ 9223372036854775807

def readInt64? (cs : List Char) : Option Int :=
  (readSigned? cs).filter fitsInt64

def readCount? (cs : List Char) : Option Nat :=
  (readUnsigned? cs).filter fun n => n ≤ 18446744073709551615

end Text
end FindingLedger
