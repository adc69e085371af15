import FindingLedger.Markup.Scanner
import FindingLedger.Plist.Builder

/-!
# Reading property lists

A document is read byte by byte: the scanner divides it into items and the builder takes
each item as soon as it is finished. Faults are therefore found in the order of the
document, whichever of the two finds them.
-/

namespace FindingLedger
namespace Plist

structure Reader where
  scanner : Markup.Scanner
  builder : Builder

namespace Reader

def start : Reader :=
  ⟨.start, .start⟩

def take (b : Builder) : Option Markup.Item → Except Error Builder
  | none => .ok b
  | some item => b.step item

def step (r : Reader) (b : UInt8) : Except Error Reader :=
  match r.scanner.step b with
  | .error fault => .error (.markup fault)
  | .ok (scanner, item) => (take r.builder item).map fun builder => ⟨scanner, builder⟩

def run (r : Reader) : Bytes → Except Error Reader
  | [] => .ok r
  | b :: rest =>
      match r.step b with
      | .ok r => run r rest
      | .error e => .error e

def finish (r : Reader) : Except Error (Option Value) :=
  match r.scanner.finish with
  | .error fault => .error (.markup fault)
  | .ok item => take r.builder item >>= Builder.finish

end Reader

def isAsciiBlank (b : UInt8) : Bool :=
  b == 0x20 || b == 0x09 || b == 0x0A || b == 0x0C || b == 0x0D

/-- A document without the mark that may say at its front that it is UTF-8. -/
def dropMark : Bytes → Bytes
  | 0xEF :: 0xBB :: 0xBF :: rest => rest
  | bytes => bytes

/-- Reads a whole document. A document of blanks has no value. -/
def read (document : Bytes) : Except Error (Option Value) :=
  if document.all isAsciiBlank then
    .ok none
  else
    Reader.start.run (dropMark document) >>= Reader.finish

end Plist
end FindingLedger
