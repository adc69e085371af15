import FindingLedger.CheckerTable.Basic
import FindingLedger.Json.Read

/-!
# Reading checker tables

A table is written as a JSON object whose member `checkers` lists the rows. A row is an
object with the members `checker`, `description` and `pattern`, the latter two optional
and allowed to be null; it has no other member and none twice. Both the table and a row
may also be written as an array of the values of their members in this order.
-/

namespace FindingLedger
namespace CheckerTable

def asText : Json → Option String
  | .string text => text.toString?
  | _ => none

def asOptionalText : Json → Option (Option String)
  | .null => some none
  | .string text => text.toString?.map some
  | _ => none

def membersOf (members : List (JsonText × Json)) (name : String) : List Json :=
  (members.filter fun m => m.1 == JsonText.ofString name).map Prod.snd

def requiredMember (members : List (JsonText × Json)) (name : String) : Option Json :=
  match membersOf members name with
  | [value] => some value
  | _ => none

def optionalMember (members : List (JsonText × Json)) (name : String) :
    Option (Option String) :=
  match membersOf members name with
  | [] => some none
  | [value] => asOptionalText value
  | _ => none

def isEntryMember (name : JsonText) : Bool :=
  ["checker", "description", "pattern"].any fun known => JsonText.ofString known == name

def entryOfJson? : Json → Option CheckerEntry
  | .object members => do
      if members.all fun m => isEntryMember m.1 then
        let checker ← asText (← requiredMember members "checker")
        let description ← optionalMember members "description"
        let pattern ← optionalMember members "pattern"
        return { checker, description, pattern }
      else none
  | .array [checker] => do
      return { checker := ← asText checker, description := none, pattern := none }
  | .array [checker, description] => do
      return {
        checker := ← asText checker
        description := ← asOptionalText description
        pattern := none }
  | .array [checker, description, pattern] => do
      return {
        checker := ← asText checker
        description := ← asOptionalText description
        pattern := ← asOptionalText pattern }
  | _ => none

def entriesOfList? : Json → Option (List CheckerEntry)
  | .array rows => rows.mapM entryOfJson?
  | _ => none

/-- The rows of a document. The names of the members of the table itself are texts of
characters too. -/
def entriesOfJson? : Json → Option (List CheckerEntry)
  | .object members =>
      if members.all fun m => m.1.toString?.isSome then
        requiredMember members "checkers" >>= entriesOfList?
      else none
  | .array [rows] => entriesOfList? rows
  | _ => none

def read (document : String) : Except Error CheckerTable :=
  match Json.read? document >>= entriesOfJson? with
  | some entries => ofEntries entries
  | none => .error .form

end CheckerTable
end FindingLedger
