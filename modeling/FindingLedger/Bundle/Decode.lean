import FindingLedger.Bundle.Basic
import FindingLedger.Bundle.Error
import FindingLedger.Entries
import FindingLedger.Plist.Read

/-!
# Decoding bundles

A bundle is decoded from a property list field by field. A field that is absent is never
an error, one of the wrong type is, and entries that are not known are passed over. Every
file that a diagnostic refers to has to be listed.
-/

namespace FindingLedger
namespace Bundle

open Plist (Value)

/-!
# Typed access
-/

def asDict (field : String) : Value → Except FieldFault (List (String × Value))
  | .dict entries => .ok entries
  | v => .error (.wrongType field "dict" v.typeName)

def asArray (field : String) : Value → Except FieldFault (List Value)
  | .array items => .ok items
  | v => .error (.wrongType field "array" v.typeName)

def asString (field : String) : Value → Except FieldFault String
  | .string text => .ok text
  | v => .error (.wrongType field "string" v.typeName)

def asInteger (field : String) : Value → Except FieldFault Int
  | .integer number => .ok number
  | v => .error (.wrongType field "integer" v.typeName)

def optionalString (entries : List (String × Value)) (key : String) :
    Except FieldFault (Option String) :=
  match Entries.get? entries key with
  | none => .ok none
  | some v => (asString key v).map some

def optionalArray (entries : List (String × Value)) (key : String) :
    Except FieldFault (List Value) :=
  match Entries.get? entries key with
  | none => .ok []
  | some v => asArray key v

def decodeEach {ε : Type u} {α : Type v} {β : Type w} (decode : Nat → α → Except ε β) :
    Nat → List α → Except ε (List β)
  | _, [] => .ok []
  | index, item :: rest =>
      match decode index item with
      | .error e => .error e
      | .ok b => (decodeEach decode (index + 1) rest).map (b :: ·)

/-!
# Places
-/

def asWord? (number : Int) : Option Nat :=
  if 0 ≤ number && number ≤ 4294967295 then some number.toNat else none

def decodeNumber (field : String) (entries : List (String × Value)) (key : String) :
    Except FieldFault Nat :=
  match Entries.get? entries key with
  | none => .error (.missingNumber field key)
  | some v => do
      let number ← asInteger (field ++ "." ++ key) v
      match asWord? number with
      | some n => .ok n
      | none => .error (.badNumber field key number)

def decodeLocation (field : String) (v : Value) : Except FieldFault Location := do
  let entries ← asDict field v
  let line ← decodeNumber field entries "line"
  let column ← decodeNumber field entries "col"
  let fileIndex ← decodeNumber field entries "file"
  return { fileIndex, line, column }

/-- A range: both its ends, or one place for both. -/
def decodeRange (field : String) (v : Value) : Except FieldFault SourceRange := do
  match ← asArray field v with
  | [first, last] =>
      let first ← decodeLocation field first
      let last ← decodeLocation field last
      return ⟨first, last⟩
  | [single] =>
      let place ← decodeLocation field single
      return ⟨place, place⟩
  | bounds => .error (.rangeSize field bounds.length)

/-!
# Paths
-/

def decodeEvent (entries : List (String × Value)) : Except FieldFault PathEvent := do
  let location ←
    match Entries.get? entries "location" with
    | none => .error .eventWithoutLocation
    | some v => decodeLocation "location" v
  let ranges ← decodeEach (fun _ v => decodeRange "ranges[]" v) 0
    (← optionalArray entries "ranges")
  let depth ←
    match Entries.get? entries "depth" with
    | none => .ok 0
    | some v => do
        match asWord? (← asInteger "depth" v) with
        | some n => .ok n
        | none => .error .badDepth
  let message ← optionalString entries "message"
  let extendedMessage ← optionalString entries "extended_message"
  return { location, message := message.getD "", extendedMessage, depth, ranges }

/-- One side of an edge: the start of its range, if it has one. -/
def decodeSide (entries : List (String × Value)) (side : String) :
    Except FieldFault (List PathElement) :=
  match Entries.get? entries side with
  | none => .ok []
  | some v => do
      let range ← decodeRange side v
      return [.point range.first]

def decodeEdge (index : Nat) (v : Value) : Except FieldFault (List PathElement) := do
  let entries ← asDict (indexed "edges" index) v
  let first ← decodeSide entries "start"
  let last ← decodeSide entries "end"
  return first ++ last

/-- The steps of one piece of a path. A piece of a kind that is not known has none. -/
def decodePiece (index : Nat) (v : Value) : Except FieldFault (List PathElement) := do
  let entries ← asDict (indexed "path" index) v
  match ← optionalString entries "kind" with
  | some "event" => return [.event (← decodeEvent entries)]
  | some "control" =>
      let edges ← decodeEach decodeEdge 0 (← optionalArray entries "edges")
      return edges.flatten
  | _ => return []

/-- Whether a step is the same place as the one before it, as where two edges meet. -/
def isJoint (previous : Option PathElement) (e : PathElement) : Bool :=
  match e with
  | .point _ => previous == some e
  | .event _ => false

/-- The steps after a given one, without those that repeat the place just passed. -/
def mergeJoints (previous : Option PathElement) : List PathElement → List PathElement
  | [] => []
  | e :: rest =>
      if isJoint previous e then mergeJoints previous rest else e :: mergeJoints (some e) rest

def decodePath (pieces : List Value) : Except FieldFault (List PathElement) := do
  let steps ← decodeEach decodePiece 0 pieces
  return mergeJoints none steps.flatten

/-!
# Diagnostics
-/

/-- The offset of a defect, written as a number or as the text of one. -/
def decodeOffset (entries : List (String × Value)) : Except FieldFault (Option Int) :=
  match Entries.get? entries "issue_hash_function_offset" with
  | none => .ok none
  | some (.integer number) => .ok (some number)
  | some (.string text) =>
      match Text.readInt64? (Text.trimChars text.toList) with
      | some number => .ok (some number)
      | none => .error (.badOffset text)
  | some v => .error (.wrongType "issue_hash_function_offset" "string" v.typeName)

/-- The place of a defect. Where it is not written the path leads to it. -/
def decodePlace (entries : List (String × Value)) (path : List PathElement) :
    Except FieldFault Location :=
  match Entries.get? entries "location", path.getLast? with
  | some v, _ => decodeLocation "location" v
  | none, some e => .ok e.location
  | none, none => .error .nowhere

def decodeNote (index : Nat) (v : Value) : Except FieldFault PathEvent := do
  decodeEvent (← asDict (indexed "notes" index) v)

/-- One diagnostic. A checker name that is blank counts as absent. -/
def decodeDiagnostic (entries : List (String × Value)) : Except FieldFault Diagnostic := do
  let path ← decodePath (← optionalArray entries "path")
  let notes ← decodeEach decodeNote 0 (← optionalArray entries "notes")
  let location ← decodePlace entries path
  let functionOffset ← decodeOffset entries
  let category ← optionalString entries "category"
  let type ← optionalString entries "type"
  let description ← optionalString entries "description"
  let checkerName ← optionalString entries "check_name"
  let contextName ← optionalString entries "issue_context"
  let contextKind ← optionalString entries "issue_context_kind"
  let embeddedHash ← optionalString entries "issue_hash_content_of_line_in_context"
  return {
    category := category.getD ""
    type := type.getD ""
    description := description.getD ""
    checkerName := checkerName.filter fun name => !Text.allBlank name
    location, contextName, contextKind, path, notes, embeddedHash, functionOffset }

/-!
# Bundles
-/

def decodeListed (count index : Nat) (v : Value) : Except Error Diagnostic := do
  let entries ← (asDict (indexed "diagnostics" index) v).mapError .field
  let d ← (decodeDiagnostic entries).mapError (.diagnostic index)
  match d.fileIndices.find? fun file => count ≤ file with
  | some file => .error (.unlistedFile index file count)
  | none => return d

def decodeRoot (entries : List (String × Value)) : Except Error Bundle := do
  let names ← (optionalArray entries "files").mapError .field
  let files ← (decodeEach (fun index v => asString (indexed "files" index) v) 0 names).mapError
    .field
  let items ← (optionalArray entries "diagnostics").mapError .field
  let diagnostics ← decodeEach (decodeListed files.length) 0 items
  let clangVersion ← (optionalString entries "clang_version").mapError .field
  return {
    files, diagnostics, clangVersion
    generation := Generation.oldest (diagnostics.map Diagnostic.generation) }

def ofValue : Option Value → Except Error Bundle
  | none => .ok empty
  | some (.dict entries) => decodeRoot entries
  | some v => .error (.rootType v.typeName)

/-- Reads a bundle. A document without a value is an empty bundle. -/
def read (document : Bytes) : Except Error Bundle :=
  match Plist.read document with
  | .error e => .error (.document e)
  | .ok v => ofValue v

end Bundle
end FindingLedger
