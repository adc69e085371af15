import FindingLedger.Text.Property
import FindingLedger.Text.Recent

/-!
# Quoted text

A text is shown to a reader in double quotes. Whatever cannot be seen on a page, or
would merge with the character before it, is written by its number.
-/

namespace FindingLedger
namespace Text

def hexDigit (n : Nat) : Char :=
  if n < 10 then Char.ofNat (48 + n) else Char.ofNat (87 + n)

def hexDigits (n : Nat) : List Char :=
  Nat.toDigits 16 n

def hiddenCategories : List Category :=
  [.control, .format, .privateUse, .unassigned, .spaceSeparator, .lineSeparator,
    .paragraphSeparator]

/-- Characters that show on a page. Fillers are letters that do not. -/
def isPrintable (c : Char) : Bool :=
  if c.toNat < 128 then
    32 ≤ c.toNat && c.toNat < 127
  else if hiddenCategories.contains (Category.of c) then
    Span.anyContains Recent.shown c.toNat
  else
    !Property.ignorable.holds c

/-- The halfwidth sound marks, which continue the written unit before them but do not
merge with it. -/
def isHalfwidthMark (c : Char) : Bool :=
  c == '\uff9e' || c == '\uff9f'

def isMerging (c : Char) : Bool :=
  if c.toNat < 128 then false else Property.graphemeExtend.holds c && !isHalfwidthMark c

def quotedChar (c : Char) : List Char :=
  if c == '"' then ['\\', '"']
  else if c == '\\' then ['\\', '\\']
  else if c == '\n' then ['\\', 'n']
  else if c == '\r' then ['\\', 'r']
  else if c == '\t' then ['\\', 't']
  else if c.toNat == 0 then ['\\', '0']
  else if isMerging c || !isPrintable c then
    ['\\', 'u', '\x7b'] ++ hexDigits c.toNat ++ ['\x7d']
  else [c]

def quoted (s : String) : String :=
  String.ofList ('"' :: s.toList.flatMap quotedChar ++ ['"'])

end Text
end FindingLedger
