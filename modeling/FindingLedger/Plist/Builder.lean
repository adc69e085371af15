import FindingLedger.Entries
import FindingLedger.Plist.Error
import FindingLedger.Text.Blank
import FindingLedger.Text.Real

/-!
# Building property lists

The builder turns the items of a document into a property list. It keeps the containers
that are open, innermost first, and the text of the leaf that is being read. The scanner
has already matched closing tags with opening ones, so a closing tag always closes what
the builder has open.
-/

namespace FindingLedger
namespace Plist

inductive Leaf where
  | key
  | string
  | date
  | data
  | integer
  | real
  | boolean (value : Bool)
  deriving DecidableEq, Repr

def Leaf.name : Leaf → String
  | .key => "key"
  | .string => "string"
  | .date => "date"
  | .data => "data"
  | .integer => "integer"
  | .real => "real"
  | .boolean true => "true"
  | .boolean false => "false"

/-- The leaf that an element of this name begins where a value is due. -/
def Leaf.ofName? (name : String) : Option Leaf :=
  [Leaf.string, .date, .data, .integer, .real, .boolean true, .boolean false].find? fun leaf =>
    leaf.name == name

inductive Frame where
  /-- The entries read so far, and the key whose value is due. -/
  | dict (entries : List (String × Value)) (key : Option String)
  | array (items : List Value)

def Frame.container : Frame → Container
  | .dict _ _ => .dict
  | .array _ => .array

structure Builder where
  inPlist : Bool
  root : Option Value
  frames : List Frame
  leaf : Option (Leaf × String)

namespace Builder

def start : Builder :=
  ⟨false, none, [], none⟩

def place (b : Builder) (v : Value) : Builder :=
  match b.frames with
  | [] => { b with root := some v }
  | .dict entries key :: outer =>
      { b with frames := .dict (Entries.put entries (key.getD "") v) none :: outer }
  | .array items :: outer => { b with frames := .array (items ++ [v]) :: outer }

def emptyValue (name : String) : Except Error Value :=
  if name == "dict" then .ok (.dict [])
  else if name == "array" then .ok (.array [])
  else if name == "string" then .ok (.string "")
  else if name == "data" then .ok (.data "")
  else if name == "true" then .ok (.boolean true)
  else if name == "false" then .ok (.boolean false)
  else .error (.emptyElement name)

def beginValue (b : Builder) (name : String) : Except Error Builder :=
  if maxDepth ≤ b.frames.length then .error .tooDeep
  else if name == "dict" then .ok { b with frames := .dict [] none :: b.frames }
  else if name == "array" then .ok { b with frames := .array [] :: b.frames }
  else
    match Leaf.ofName? name with
    | some leaf => .ok { b with leaf := some (leaf, "") }
    | none => .error (.unknownElement name)

def emptyElement (b : Builder) (name : String) : Except Error Builder :=
  (emptyValue name).map b.place

def leafValue (leaf : Leaf) (text : String) : Except Error Value :=
  match leaf with
  | .key | .string => .ok (.string text)
  | .date => .ok (.date (Text.trim text))
  | .data => .ok (.data (String.ofList (text.toList.filter fun c => !Text.isBlank c)))
  | .integer =>
      match Text.readInt64? (Text.trimChars text.toList) with
      | some n => .ok (.integer n)
      | none => .error (.badInteger (Text.trim text))
  | .real =>
      match Text.readReal? (Text.trimChars text.toList) with
      | some x => .ok (.real x)
      | none => .error (.badReal (Text.trim text))
  | .boolean value => .ok (.boolean value)

def setKey (b : Builder) (key : String) : Builder :=
  match b.frames with
  | .dict entries _ :: outer => { b with frames := .dict entries (some key) :: outer }
  | _ => b

def endLeaf (b : Builder) (leaf : Leaf) (text : String) : Except Error Builder :=
  let b := { b with leaf := none }
  match leaf with
  | .key => .ok (b.setKey text)
  | _ => (leafValue leaf text).map b.place

def stepLeaf (b : Builder) (leaf : Leaf) (text : String) (item : Markup.Item) :
    Except Error Builder :=
  match item with
  | .text chunk =>
      match Markup.textOf chunk with
      | .ok cs => .ok { b with leaf := some (leaf, text ++ String.ofList cs) }
      | .error fault => .error (.text fault)
  | .cdata content => .ok { b with leaf := some (leaf, text ++ Text.decodeLenient content) }
  | .closing _ => b.endLeaf leaf text
  | .opening _ | .selfClosing _ => .error (.elementInText leaf.name)
  | .silent => .ok b

def stepText (b : Builder) (chunk : Bytes) (fault : Error) : Except Error Builder :=
  match Markup.textOf chunk with
  | .ok cs => if cs.all Text.isBlank then .ok b else .error fault
  | .error fault => .error (.text fault)

def stepTop (b : Builder) (item : Markup.Item) : Except Error Builder :=
  match item with
  | .text chunk => b.stepText chunk .outsideText
  | .opening bytes =>
      let name := Text.decodeLenient bytes
      if name == "plist" && !b.inPlist then .ok { b with inPlist := true }
      else if b.root.isSome then .error (.secondValue name false)
      else b.beginValue name
  | .selfClosing bytes =>
      let name := Text.decodeLenient bytes
      if name == "plist" && !b.inPlist then .ok b
      else if b.root.isSome then .error (.secondValue name true)
      else b.emptyElement name
  | .closing _ => .ok { b with inPlist := false }
  | .cdata _ | .silent => .ok b

def stepDict (b : Builder) (entries : List (String × Value)) (key : Option String)
    (outer : List Frame) (item : Markup.Item) : Except Error Builder :=
  match item with
  | .text chunk => b.stepText chunk (.strayText .dict)
  | .opening bytes =>
      let name := Text.decodeLenient bytes
      match name == "key", key with
      | true, some key => .error (.keyWithoutValue key)
      | true, none => .ok { b with leaf := some (.key, "") }
      | false, some _ => b.beginValue name
      | false, none => .error (.valueWithoutKey name false)
  | .selfClosing bytes =>
      let name := Text.decodeLenient bytes
      match name == "key", key with
      | true, some key => .error (.keyWithoutValue key)
      | true, none => .ok (b.setKey "")
      | false, some _ => b.emptyElement name
      | false, none => .error (.valueWithoutKey name true)
  | .closing _ =>
      match key with
      | some key => .error (.keyWithoutValue key)
      | none => .ok ({ b with frames := outer }.place (.dict entries))
  | .cdata _ | .silent => .ok b

def stepArray (b : Builder) (items : List Value) (outer : List Frame) (item : Markup.Item) :
    Except Error Builder :=
  match item with
  | .text chunk => b.stepText chunk (.strayText .array)
  | .opening bytes => b.beginValue (Text.decodeLenient bytes)
  | .selfClosing bytes => b.emptyElement (Text.decodeLenient bytes)
  | .closing _ => .ok ({ b with frames := outer }.place (.array items))
  | .cdata _ | .silent => .ok b

def step (b : Builder) (item : Markup.Item) : Except Error Builder :=
  match b.leaf, b.frames with
  | some (leaf, text), _ => b.stepLeaf leaf text item
  | none, [] => b.stepTop item
  | none, .dict entries key :: outer => b.stepDict entries key outer item
  | none, .array items :: outer => b.stepArray items outer item

/-- The document ends: its value, if it has one and nothing is open. -/
def finish (b : Builder) : Except Error (Option Value) :=
  match b.leaf, b.frames with
  | some (leaf, _), _ => .error (.unterminated leaf.name)
  | none, frame :: _ => .error (.unterminated frame.container.name)
  | none, [] => if b.inPlist then .error (.unterminated "plist") else .ok b.root

end Builder

end Plist
end FindingLedger
