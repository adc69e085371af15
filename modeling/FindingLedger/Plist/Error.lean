import FindingLedger.Markup.Reference
import FindingLedger.Markup.Item
import FindingLedger.Text.Quoted
import FindingLedger.Plist.Value

/-!
# Faults of property lists

What can be wrong with a document that should hold a property list, and how it is told.
-/

namespace FindingLedger
namespace Plist

inductive Container where
  | dict
  | array
  deriving DecidableEq, Repr

def Container.name : Container → String
  | .dict => "dict"
  | .array => "array"

def tagText (name : String) (selfClosing : Bool) : String :=
  if selfClosing then "<" ++ name ++ "/>" else "<" ++ name ++ ">"

inductive Error where
  | markup (fault : Markup.Fault)
  | text (fault : Markup.TextFault)
  | secondValue (name : String) (selfClosing : Bool)
  | outsideText
  | strayText (container : Container)
  | emptyElement (name : String)
  | tooDeep
  | keyWithoutValue (key : String)
  | valueWithoutKey (name : String) (selfClosing : Bool)
  | unknownElement (name : String)
  | elementInText (name : String)
  | badInteger (spelling : String)
  | badReal (spelling : String)
  | unterminated (name : String)
  deriving DecidableEq, Repr

def Error.message : Error → String
  | .markup fault => "XML syntax: " ++ fault.message
  | .text fault => fault.message
  | .secondValue name selfClosing =>
      "unexpected " ++ tagText name selfClosing ++ " after the root value"
  | .outsideText => "text outside of a plist value"
  | .strayText container => "stray text inside <" ++ container.name ++ ">"
  | .emptyElement name => tagText name true ++ " cannot be empty"
  | .tooDeep => "nesting deeper than " ++ toString maxDepth ++ " levels"
  | .keyWithoutValue key => "dict key " ++ Text.quoted key ++ " has no value"
  | .valueWithoutKey name selfClosing => tagText name selfClosing ++ " in dict without a key"
  | .unknownElement name => "unknown plist element <" ++ name ++ ">"
  | .elementInText name => "<" ++ name ++ "> must only contain text"
  | .badInteger spelling => "invalid integer " ++ Text.quoted spelling
  | .badReal spelling => "invalid real " ++ Text.quoted spelling
  | .unterminated name => "unterminated <" ++ name ++ ">"

end Plist
end FindingLedger
