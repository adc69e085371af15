import FindingLedger.Plist.Error

/-!
# Faults of bundles

What keeps a property list from being a bundle, and how it is told.
-/

namespace FindingLedger
namespace Bundle

inductive FieldFault where
  | wrongType (field expected found : String)
  /-- A diagnostic says neither where it is nor how it is reached. -/
  | nowhere
  | badOffset (spelling : String)
  | eventWithoutLocation
  | badDepth
  | rangeSize (field : String) (count : Nat)
  | missingNumber (field key : String)
  | badNumber (field key : String) (number : Int)
  deriving DecidableEq, Repr

def FieldFault.message : FieldFault → String
  | .wrongType field expected found => field ++ " must be " ++ expected ++ ", found " ++ found
  | .nowhere => "diagnostic has neither location nor path"
  | .badOffset spelling =>
      "issue_hash_function_offset " ++ Text.quoted spelling ++ " is not a number"
  | .eventWithoutLocation => "event without location"
  | .badDepth => "depth out of range"
  | .rangeSize field count =>
      field ++ " must hold one or two locations, found " ++ toString count
  | .missingNumber field key => field ++ " is missing " ++ key
  | .badNumber field key number => field ++ "." ++ key ++ " out of range: " ++ toString number

inductive Error where
  | document (error : Plist.Error)
  | rootType (found : String)
  | field (fault : FieldFault)
  | diagnostic (index : Nat) (fault : FieldFault)
  | unlistedFile (index file count : Nat)
  deriving DecidableEq, Repr

def indexed (field : String) (index : Nat) : String :=
  field ++ "[" ++ toString index ++ "]"

def Error.message : Error → String
  | .document error => error.message
  | .rootType found => "bundle root must be a dict, found " ++ found
  | .field fault => fault.message
  | .diagnostic index fault => indexed "diagnostics" index ++ ": " ++ fault.message
  | .unlistedFile index file count =>
      indexed "diagnostics" index ++ " references file index " ++ toString file ++
        " but the bundle lists " ++ toString count ++ " files"

end Bundle
end FindingLedger
