import FindingLedger.Json.Basic
import FindingLedger.Text.Quoted

/-!
# Writing JSON

A value is written either in one line without blanks, or with every item and member on a
line of its own, indented by two spaces for each level.
-/

namespace FindingLedger
namespace Json

/-- How a code point is written inside a text: the quote, the backslash and the control
characters are escaped, and so is what is no character. -/
def writeCode (n : Nat) : List Char :=
  if n == 0x22 then ['\\', '"']
  else if n == 0x5C then ['\\', '\\']
  else if n == 0x08 then ['\\', 'b']
  else if n == 0x09 then ['\\', 't']
  else if n == 0x0A then ['\\', 'n']
  else if n == 0x0C then ['\\', 'f']
  else if n == 0x0D then ['\\', 'r']
  else if n < 0x20 || !n.isValidChar then
    ['\\', 'u', Text.hexDigit (n / 4096 % 16), Text.hexDigit (n / 256 % 16),
      Text.hexDigit (n / 16 % 16), Text.hexDigit (n % 16)]
  else [Char.ofNat n]

def writeText (text : JsonText) : List Char :=
  '"' :: text.flatMap writeCode ++ ['"']

/-!
# In one line
-/

mutual

def compact : Json → List Char
  | .null => ['n', 'u', 'l', 'l']
  | .boolean true => ['t', 'r', 'u', 'e']
  | .boolean false => ['f', 'a', 'l', 's', 'e']
  | .number spelling => spelling
  | .string text => writeText text
  | .array items => '[' :: compactItems items ++ [']']
  | .object members => '\x7b' :: compactMembers members ++ ['\x7d']

def compactItems : List Json → List Char
  | [] => []
  | [item] => compact item
  | item :: rest => compact item ++ ',' :: compactItems rest

def compactMembers : List (JsonText × Json) → List Char
  | [] => []
  | [(name, value)] => writeText name ++ ':' :: compact value
  | (name, value) :: rest =>
      writeText name ++ ':' :: compact value ++ ',' :: compactMembers rest

end

/-!
# With one item to a line
-/

def newLine (level : Nat) : List Char :=
  '\n' :: List.replicate (2 * level) ' '

mutual

def pretty (level : Nat) : Json → List Char
  | .null => ['n', 'u', 'l', 'l']
  | .boolean true => ['t', 'r', 'u', 'e']
  | .boolean false => ['f', 'a', 'l', 's', 'e']
  | .number spelling => spelling
  | .string text => writeText text
  | .array [] => ['[', ']']
  | .array (item :: rest) =>
      '[' :: newLine (level + 1) ++ pretty (level + 1) item ++ prettyItems (level + 1) rest ++
        newLine level ++ [']']
  | .object [] => ['\x7b', '\x7d']
  | .object ((name, value) :: rest) =>
      '\x7b' :: newLine (level + 1) ++ writeText name ++ ':' :: ' ' ::
        pretty (level + 1) value ++ prettyMembers (level + 1) rest ++ newLine level ++ ['\x7d']

def prettyItems (level : Nat) : List Json → List Char
  | [] => []
  | item :: rest => ',' :: newLine level ++ pretty level item ++ prettyItems level rest

def prettyMembers (level : Nat) : List (JsonText × Json) → List Char
  | [] => []
  | (name, value) :: rest =>
      ',' :: newLine level ++ writeText name ++ ':' :: ' ' :: pretty level value ++
        prettyMembers level rest

end

end Json
end FindingLedger
