import FindingLedger.Text.Ascii
import FindingLedger.Volume.Basic

/-!
# Discovering bundles

Bundles are the files below a folder with the extension of bundles, in any case of its
letters. They are given in the order of their paths, name by name.
-/

namespace FindingLedger

def bundleExtension : Bytes := Path.ofText "plist"

def isBundleName (name : Bytes) : Bool :=
  match Path.nameExtension? name with
  | some ending => ending.map Text.lowerByte == bundleExtension
  | none => false

namespace Volume

/-- Whether the names below a path lead to a bundle. The path itself may be one. -/
def leadsToBundle (start : Path) (names : List Bytes) : Bool :=
  match names.getLast? with
  | some name => isBundleName name
  | none =>
      match (Path.steps start).getLast? with
      | some name => isBundleName name
      | none => false

def pathBelow (start : Path) (names : List Bytes) : Path :=
  names.foldl Path.join start

def discover (v : Volume) (start : Path) : Except IoFault (List Path) :=
  match v.node start with
  | .ok node =>
      let bundles := (node.fileNames.filter (leadsToBundle start)).mergeSort Path.namesLe
      .ok (bundles.map (pathBelow start))
  | .error fault => .error fault

end Volume

end FindingLedger
