import FindingLedger.Text.Utf8

/-!
# Lines of source files

A file is divided after every line feed. A line is known without the line feed at its end
and without one carriage return before it, read leniently as UTF-8. A line feed at the
end of the file begins no further line.
-/

namespace FindingLedger
namespace Source

def lineFeed : UInt8 := 10

def carriageReturn : UInt8 := 13

/-- The pieces of a file, each up to a line feed and with it. -/
def pieces : Bytes → List Bytes
  | [] => []
  | b :: rest =>
      if b == lineFeed then
        [b] :: pieces rest
      else
        match pieces rest with
        | [] => [[b]]
        | piece :: more => (b :: piece) :: more

theorem flatten_pieces (bytes : Bytes) : (pieces bytes).flatten = bytes := by
  induction bytes with
  | nil => rfl
  | cons b rest ih =>
      unfold pieces
      split
      · simp [ih]
      · split
        · rename_i h
          rw [h] at ih
          simp at ih
          simp [← ih]
        · rename_i piece more h
          rw [h] at ih
          simpa using ih

def dropLast (b : UInt8) (bytes : Bytes) : Bytes :=
  if bytes.getLast? == some b then bytes.dropLast else bytes

def lineText (piece : Bytes) : String :=
  Text.decodeLenient (dropLast carriageReturn (dropLast lineFeed piece))

structure File where
  bytes : Bytes
  pieces : List Bytes

def File.ofBytes (bytes : Bytes) : File :=
  ⟨bytes, Source.pieces bytes⟩

def File.line? (f : File) (n : Nat) : Option String :=
  if n = 0 then none else f.pieces[n - 1]?.map lineText

end Source
end FindingLedger
