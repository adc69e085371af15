/-!
# Property lists

A property list is a tree of dictionaries and arrays over texts, numbers, truth values,
dates and data. Dates and data stay the text they were written as.
-/

namespace FindingLedger
namespace Plist

/-- A property list. The entries of a dictionary stand in the order of their keys'
first occurrence. -/
inductive Value where
  | dict (entries : List (String × Value))
  | array (items : List Value)
  | string (text : String)
  | integer (number : Int)
  | real (number : Float)
  | boolean (value : Bool)
  | date (text : String)
  | data (text : String)
  deriving Inhabited

def Value.typeName : Value → String
  | .dict _ => "dict"
  | .array _ => "array"
  | .string _ => "string"
  | .integer _ => "integer"
  | .real _ => "real"
  | .boolean _ => "boolean"
  | .date _ => "date"
  | .data _ => "data"

def maxDepth : Nat := 64

end Plist
end FindingLedger
