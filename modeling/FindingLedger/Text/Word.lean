import FindingLedger.Text.Ascii
import FindingLedger.Text.Property
import FindingLedger.Text.Recent

/-!
# Words and letters

The characters that make up words, for word boundaries, and the letters and numbers
that may occur in names.
-/

namespace FindingLedger
namespace Text

def isAlphabetic (c : Char) : Bool :=
  if c.toNat < 128 then isAsciiLetter c
  else Property.alphabetic.holds c || Span.anyContains Recent.letters c.toNat

def isNumeric (c : Char) : Bool :=
  if c.toNat < 128 then isAsciiDigit c
  else
    [Category.decimalNumber, .letterNumber, .otherNumber].contains (Category.of c) ||
      Span.anyContains Recent.numbers c.toNat

/-- Characters that make up words: letters, marks, decimal digits, connectors such as
the underscore, and the two joiners. -/
def isWord (c : Char) : Bool :=
  if c.toNat < 128 then
    isAsciiWord c
  else
    Property.alphabetic.holds c ||
      [Category.nonspacingMark, .spacingMark, .enclosingMark, .decimalNumber,
        .connectorPunctuation].contains (Category.of c) ||
      c.toNat == 0x200C || c.toNat == 0x200D

end Text
end FindingLedger
