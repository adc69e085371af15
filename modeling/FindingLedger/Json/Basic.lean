/-!
# JSON values

A JSON value with its members in the order in which they are written. A text is a list of
code points: an escape can name one half of a pair that no character has, so that not
every text of a document is a text of characters.
-/

namespace FindingLedger

abbrev JsonText := List Nat

namespace JsonText

def ofString (s : String) : JsonText :=
  s.toList.map Char.toNat

def toString? (text : JsonText) : Option String :=
  if text.all Nat.isValidChar then some (String.ofList (text.map Char.ofNat)) else none

end JsonText

/-- A JSON value. Numbers are kept as they are spelled. -/
inductive Json where
  | null
  | boolean (value : Bool)
  | number (spelling : List Char)
  | string (text : JsonText)
  | array (items : List Json)
  | object (members : List (JsonText × Json))
  deriving Inhabited

namespace Json

def ofString (s : String) : Json :=
  .string (JsonText.ofString s)

def ofOption : Option String → Json
  | some s => .ofString s
  | none => .null

def ofNat (n : Nat) : Json :=
  .number (Nat.toDigits 10 n)

def ofMembers (members : List (String × Json)) : Json :=
  .object (members.map fun m => (JsonText.ofString m.1, m.2))

end Json

end FindingLedger
