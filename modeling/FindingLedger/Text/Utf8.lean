/-!
# UTF-8

Bytes are read as UTF-8 either strictly, where the first fault is reported with its
place, or leniently, where every faulty stretch counts as one replacement character.
Both readings are views of the same division of the bytes into characters and faults.
-/

namespace FindingLedger

abbrev Bytes := List UInt8

namespace Text

/-- A character of which the last bytes have still to come. -/
structure Utf8Pending where
  bits : Nat
  seen : Nat
  missing : Nat
  low : UInt8
  high : UInt8

def Utf8Pending.start? (b : UInt8) : Option Utf8Pending :=
  if b < 0xC2 then none
  else if b < 0xE0 then some ⟨b.toNat - 0xC0, 1, 1, 0x80, 0xBF⟩
  else if b == 0xE0 then some ⟨0, 1, 2, 0xA0, 0xBF⟩
  else if b == 0xED then some ⟨0xD, 1, 2, 0x80, 0x9F⟩
  else if b < 0xF0 then some ⟨b.toNat - 0xE0, 1, 2, 0x80, 0xBF⟩
  else if b == 0xF0 then some ⟨0, 1, 3, 0x90, 0xBF⟩
  else if b < 0xF4 then some ⟨b.toNat - 0xF0, 1, 3, 0x80, 0xBF⟩
  else if b == 0xF4 then some ⟨4, 1, 3, 0x80, 0x8F⟩
  else none

def Utf8Pending.accepts (p : Utf8Pending) (b : UInt8) : Bool :=
  p.low ≤ b && b ≤ p.high

def Utf8Pending.bitsWith (p : Utf8Pending) (b : UInt8) : Nat :=
  64 * p.bits + (b.toNat - 0x80)

def Utf8Pending.next (p : Utf8Pending) (b : UInt8) : Utf8Pending :=
  ⟨p.bitsWith b, p.seen + 1, p.missing - 1, 0x80, 0xBF⟩

inductive Utf8Piece where
  | char (c : Char)
  | malformed (length : Nat)
  | truncated
  deriving DecidableEq, Repr

/-- Reads a byte that begins a character or none: what is finished, and what has yet to
be finished. -/
def beginUtf8 (b : UInt8) : List Utf8Piece × Option Utf8Pending :=
  if b < 0x80 then
    ([.char (Char.ofNat b.toNat)], none)
  else
    match Utf8Pending.start? b with
    | some p => ([], some p)
    | none => ([.malformed 1], none)

/-- Reads the next byte. A faulty stretch is the longest one that could still have begun
a character, or a single byte. -/
def feedUtf8 : Option Utf8Pending → UInt8 → List Utf8Piece × Option Utf8Pending
  | none, b => beginUtf8 b
  | some p, b =>
      if p.accepts b then
        if p.missing == 1 then
          ([.char (Char.ofNat (p.bitsWith b))], none)
        else
          ([], some (p.next b))
      else
        let (pieces, pending) := beginUtf8 b
        (.malformed p.seen :: pieces, pending)

def utf8PiecesAfter (pending : Option Utf8Pending) : Bytes → List Utf8Piece
  | [] => if pending.isSome then [.truncated] else []
  | b :: rest =>
      let step := feedUtf8 pending b
      step.1 ++ utf8PiecesAfter step.2 rest

def utf8Pieces (bytes : Bytes) : List Utf8Piece :=
  utf8PiecesAfter none bytes

inductive Utf8Error where
  | malformed (length index : Nat)
  | truncated (index : Nat)
  deriving DecidableEq, Repr

def Utf8Error.message : Utf8Error → String
  | .malformed length index =>
      "invalid utf-8 sequence of " ++ toString length ++ " bytes from index " ++ toString index
  | .truncated index =>
      "incomplete utf-8 byte sequence from index " ++ toString index

/-- The characters of pieces that start at a byte index, or the first fault. -/
def charsOfPieces : Nat → List Utf8Piece → Except Utf8Error (List Char)
  | _, [] => .ok []
  | index, .char c :: rest => (charsOfPieces (index + c.utf8Size) rest).map (c :: ·)
  | index, .malformed length :: _ => .error (.malformed length index)
  | index, .truncated :: _ => .error (.truncated index)

def decode (bytes : Bytes) : Except Utf8Error (List Char) :=
  charsOfPieces 0 (utf8Pieces bytes)

def Utf8Piece.lenient : Utf8Piece → Char
  | .char c => c
  | _ => '\uFFFD'

def decodeLenient (bytes : Bytes) : String :=
  String.ofList ((utf8Pieces bytes).map Utf8Piece.lenient)

def encode (cs : List Char) : Bytes :=
  cs.flatMap String.utf8EncodeChar

def bytesOf (s : String) : Bytes :=
  encode s.toList

end Text
end FindingLedger
