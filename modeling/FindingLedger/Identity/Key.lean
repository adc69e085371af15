import FindingLedger.Digest

/-!
# Identity keys

A finding is identified by two keys, one of its content and one of its place in its
context. A key is a list of fields written as one text, each field after its length in
bytes, so that no content of a field can be mistaken for the end of one. What is stored is
the first half of the digest of that text.
-/

namespace FindingLedger
namespace Identity

/-!
# Fields as one text
-/

def writeField (field : String) : List Char :=
  Nat.toDigits 10 field.utf8ByteSize ++ ':' :: field.toList

def writeFields : List String → List Char
  | [] => []
  | [field] => writeField field
  | field :: next :: more => writeField field ++ '|' :: writeFields (next :: more)

def canonical (fields : List String) : String :=
  String.ofList (writeFields fields)

def hashLength : Nat := 32

def hashText (text : String) : String :=
  String.ofList ((Digest.hex (Text.bytesOf text)).take hashLength)

/-!
# Keys
-/

/-- The number of the rules by which keys are made. It goes into every key. -/
def schemeVersion : Nat := 1

def joinLines : List String → String
  | [] => ""
  | [line] => line
  | line :: next :: more => line ++ "\n" ++ joinLines (next :: more)

inductive ContentKey where
  /-- The line of the finding and the lines around it, when the source text is known. -/
  | text (checker context line : String) (above below : List String)
  /-- The place of the finding, when the source text is not known. -/
  | place (checker context file : String) (line column : Nat)
  deriving DecidableEq, Repr

def ContentKey.fields : ContentKey → List String
  | .text checker context line above below =>
      ["content", toString schemeVersion, checker, context, line, joinLines above,
        joinLines below]
  | .place checker context file line column =>
      ["degraded", toString schemeVersion, checker, context, file, toString line,
        toString column]

def ContentKey.isDegraded : ContentKey → Bool
  | .text .. => false
  | .place .. => true

/-- How far a finding lies below the beginning of its context. -/
inductive Offset where
  | declared (lines : Int)
  | scanned (lines : Int)
  /-- The beginning is not known; this is the line of the finding itself. -/
  | absolute (line : Nat)
  deriving DecidableEq, Repr

/-- The text of an offset. An absolute line is marked as such. -/
def Offset.text : Offset → String
  | .declared lines | .scanned lines => toString lines
  | .absolute line => "@" ++ toString line

/-- What identifies the place of a finding in its context. -/
structure ContextKey where
  checker : String
  context : String
  offset : Offset
  deriving DecidableEq, Repr

def ContextKey.fields (k : ContextKey) : List String :=
  ["context", toString schemeVersion, k.checker, k.context, k.offset.text]

end Identity
end FindingLedger
