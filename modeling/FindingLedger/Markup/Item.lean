import FindingLedger.Text.Utf8

/-!
# Items of markup

A document is a sequence of items: text, tags, marked sections, and what carries no
content, such as comments and declarations. This module holds the items and the faults
that a document can have before any meaning is given to its elements.
-/

namespace FindingLedger
namespace Markup

/-- A part of a document. Names and text are kept as the bytes that were written. -/
inductive Item where
  | text (chunk : Bytes)
  | opening (name : Bytes)
  | selfClosing (name : Bytes)
  | closing (name : Bytes)
  | cdata (content : Bytes)
  | silent
  deriving DecidableEq, Repr

/-- Why the markup of a document cannot be divided into items. -/
inductive Fault where
  | unclosedTag
  | unclosedComment
  | unclosedCdata
  | unclosedDoctype
  | unclosedInstruction
  | unknownMarkup
  | namelessDoctype
  | strayClosing (name : Bytes)
  /-- A closing tag that names another element than the innermost open one. -/
  | mismatchedClosing (expected found : Bytes)
  deriving DecidableEq, Repr

/-- A name as it is shown in messages: empty unless it is well-formed text. -/
def shownName (name : Bytes) : String :=
  match Text.decode name with
  | .ok cs => String.ofList cs
  | .error _ => ""

def Fault.message : Fault → String
  | .unclosedTag => "syntax error: tag not closed: `>` not found before end of input"
  | .unclosedComment => "syntax error: comment not closed: `-->` not found before end of input"
  | .unclosedCdata => "syntax error: CDATA not closed: `]]>` not found before end of input"
  | .unclosedDoctype => "syntax error: DOCTYPE not closed: `>` not found before end of input"
  | .unclosedInstruction =>
      "syntax error: processing instruction or xml declaration not closed: " ++
        "`?>` not found before end of input"
  | .unknownMarkup => "syntax error: unknown or missed symbol in markup"
  | .namelessDoctype =>
      "ill-formed document: `<!DOCTYPE>` declaration does not contain a name of a document type"
  | .strayClosing name =>
      "ill-formed document: close tag `</" ++ shownName name ++ ">` does not match any open tag"
  | .mismatchedClosing expected found =>
      "ill-formed document: expected `</" ++ shownName expected ++ ">`, but `</" ++
        shownName found ++ ">` was found"

end Markup
end FindingLedger
