import FindingLedger.Text.Utf8

/-!
# Paths

A path is a sequence of bytes whose parts are separated by slashes. The empty part and the part
of one dot stay where they are, the part of two dots leads to the folder above. No part has to
be the encoding of a text.
-/

namespace FindingLedger

abbrev Path := Bytes

namespace Path

def slash : UInt8 := 0x2F

def dot : UInt8 := 0x2E

def dots : Bytes := [dot, dot]

def ofText (text : String) : Path :=
  Text.bytesOf text

def isAbsolute (path : Path) : Bool :=
  path.head? == some slash

def holdsNul (path : Path) : Bool :=
  path.contains 0

/-- A path that starts from a folder. An absolute path stays as it is. -/
def join (folder path : Path) : Path :=
  if isAbsolute path || folder.isEmpty then path
  else if folder.getLast? == some slash then folder ++ path
  else folder ++ slash :: path

/-- The path that a text stands for, relative ones starting from a folder if one is given. -/
def resolve (folder : Option Path) (text : String) : Path :=
  match folder with
  | some folder => join folder (ofText text)
  | none => ofText text

def segments : Path → List Bytes
  | [] => [[]]
  | b :: rest =>
      if b == slash then
        [] :: segments rest
      else
        match segments rest with
        | [] => [[b]]
        | part :: more => (b :: part) :: more

def isIdle (segment : Bytes) : Bool :=
  segment.isEmpty || segment == [dot]

def steps (path : Path) : List Bytes :=
  (segments path).filter fun segment => !isIdle segment

def endsInDot (path : Path) : Bool :=
  ((segments path).filter fun segment => !segment.isEmpty).getLast? == some [dot]

/-- What follows the last dot of a name. A dot that begins the name does not count. -/
def nameExtension? (name : Bytes) : Option Bytes :=
  let reversed := name.reverse
  let ending := reversed.takeWhile fun b => b != dot
  match reversed.drop ending.length with
  | [] => none
  | [_] => none
  | _ => some ending.reverse

/-- Whether one list of names comes before another or is the same, name by name. -/
def namesLe : List Bytes → List Bytes → Bool
  | [], _ => true
  | _ :: _, [] => false
  | a :: as, b :: bs => if a == b then namesLe as bs else decide (a < b)

end Path
end FindingLedger
