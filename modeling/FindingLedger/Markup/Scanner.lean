import FindingLedger.Markup.Item

/-!
# Scanning markup

The scanner reads a document one byte at a time. After each byte it knows what kind of
markup it is in and which elements are open, and it gives out at most one finished item.
Reading a document in two parts is therefore reading the first part and then going on
with the second.
-/

namespace FindingLedger
namespace Markup

/-- What the scanner is in the middle of. Collected bytes stand last first. -/
inductive Mode where
  | text (chunk : Bytes)
  | begun
  /-- Inside an opening tag, and inside quotes if a quote mark is given. -/
  | tag (content : Bytes) (quote : Option UInt8)
  | closingTag (content : Bytes) (quote : Option UInt8)
  | bang
  /-- Inside the opening of a marked section, with the bytes still to come. -/
  | cdataOpening (missing : Bytes)
  | cdata (content : Bytes)
  | commentOpening
  /-- Inside a comment, after so many hyphens in a row, two counting as many. -/
  | comment (hyphens : Nat)
  /-- Inside the keyword of a document type declaration, with its bytes still to come. -/
  | doctypeOpening (missing : Bytes)
  /-- Inside a document type declaration, with the brackets open in it and whether its
  name has begun. -/
  | doctype (depth : Nat) (named : Bool)
  /-- Inside an instruction, with whether nothing has been read after the opening question
  mark, and whether the last byte is a question mark. -/
  | instruction (fresh : Bool) (question : Bool)
  deriving DecidableEq, Repr

structure Scanner where
  mode : Mode
  openNames : List Bytes
  deriving DecidableEq, Repr

namespace Scanner

def start : Scanner :=
  ⟨.text [], []⟩

def isTagBlank (b : UInt8) : Bool :=
  b == 0x20 || b == 0x09 || b == 0x0A || b == 0x0D

def tagName (content : Bytes) : Bytes :=
  content.takeWhile fun b => !isTagBlank b

/-- The name in a closing tag: blanks after it do not belong to it. -/
def closingName (reversed : Bytes) : Bytes :=
  match reversed.dropWhile isTagBlank with
  | [] => reversed.reverse
  | name => name.reverse

def quoteAfter (quote : Option UInt8) (b : UInt8) : Option UInt8 :=
  match quote with
  | some q => if b == q then none else some q
  | none => if b == 0x22 || b == 0x27 then some b else none

def doctypeKeyword : Bytes :=
  [0x4F, 0x43, 0x54, 0x59, 0x50, 0x45]

def cdataKeyword : Bytes :=
  [0x43, 0x44, 0x41, 0x54, 0x41, 0x5B]

def upperByte (b : UInt8) : UInt8 :=
  if 0x61 ≤ b && b ≤ 0x7A then b - 0x20 else b

def goOn (s : Scanner) (mode : Mode) : Except Fault (Scanner × Option Item) :=
  .ok ({ s with mode }, none)

def emit (s : Scanner) (item : Item) : Except Fault (Scanner × Option Item) :=
  .ok ({ s with mode := .text [] }, some item)

/-- An opening tag ends. A slash at its end makes it self-closing. -/
def endTag (s : Scanner) (reversed : Bytes) : Except Fault (Scanner × Option Item) :=
  match reversed with
  | 0x2F :: before => s.emit (.selfClosing (tagName before.reverse))
  | _ =>
      let name := tagName reversed.reverse
      { s with openNames := name :: s.openNames }.emit (.opening name)

/-- A closing tag ends. It has to name the innermost open element. -/
def endClosingTag (s : Scanner) (reversed : Bytes) : Except Fault (Scanner × Option Item) :=
  let name := closingName reversed
  match s.openNames with
  | [] => .error (.strayClosing name)
  | expected :: outer =>
      if name == expected then
        { s with openNames := outer }.emit (.closing name)
      else
        .error (.mismatchedClosing expected name)

def stepTag (s : Scanner) (content : Bytes) (quote : Option UInt8) (b : UInt8) :
    Except Fault (Scanner × Option Item) :=
  if b == 0x3E && quote.isNone then
    s.endTag content
  else
    s.goOn (.tag (b :: content) (quoteAfter quote b))

def step (s : Scanner) (b : UInt8) : Except Fault (Scanner × Option Item) :=
  match s.mode with
  | .text chunk =>
      if b == 0x3C then
        .ok ({ s with mode := .begun }, if chunk.isEmpty then none else some (.text chunk.reverse))
      else
        s.goOn (.text (b :: chunk))
  | .begun =>
      if b == 0x21 then s.goOn .bang
      else if b == 0x2F then s.goOn (.closingTag [] none)
      else if b == 0x3F then s.goOn (.instruction true true)
      else s.stepTag [] none b
  | .tag content quote => s.stepTag content quote b
  | .closingTag content quote =>
      if b == 0x3E && quote.isNone then
        s.endClosingTag content
      else
        s.goOn (.closingTag (b :: content) (quoteAfter quote b))
  | .bang =>
      if b == 0x5B then s.goOn (.cdataOpening cdataKeyword)
      else if b == 0x2D then s.goOn .commentOpening
      else if upperByte b == 0x44 then s.goOn (.doctypeOpening doctypeKeyword)
      else .error .unknownMarkup
  | .cdataOpening missing =>
      match missing with
      | [] => .error .unclosedCdata
      | [c] => if b == c then s.goOn (.cdata []) else .error .unclosedCdata
      | c :: more => if b == c then s.goOn (.cdataOpening more) else .error .unclosedCdata
  | .cdata content =>
      match b == 0x3E, content with
      | true, 0x5D :: 0x5D :: before => s.emit (.cdata before.reverse)
      | _, _ => s.goOn (.cdata (b :: content))
  | .commentOpening =>
      if b == 0x2D then s.goOn (.comment 0) else .error .unclosedComment
  | .comment hyphens =>
      if b == 0x2D then s.goOn (.comment (min 2 (hyphens + 1)))
      else if b == 0x3E && hyphens == 2 then s.emit .silent
      else s.goOn (.comment 0)
  | .doctypeOpening missing =>
      match missing with
      | [] => .error .unclosedDoctype
      | [c] => if upperByte b == c then s.goOn (.doctype 0 false) else .error .unclosedDoctype
      | c :: more =>
          if upperByte b == c then s.goOn (.doctypeOpening more) else .error .unclosedDoctype
  | .doctype depth named =>
      if b == 0x3C then s.goOn (.doctype (depth + 1) true)
      else if b == 0x3E then
        match depth with
        | 0 => if named then s.emit .silent else .error .namelessDoctype
        | depth + 1 => s.goOn (.doctype depth true)
      else s.goOn (.doctype depth (named || !isTagBlank b))
  | .instruction fresh question =>
      if b == 0x3E && question then
        if fresh then .error .unclosedInstruction else s.emit .silent
      else
        s.goOn (.instruction false (b == 0x3F))

/-- The input ends: the last text, if there is any. -/
def finish (s : Scanner) : Except Fault (Option Item) :=
  match s.mode with
  | .text [] => .ok none
  | .text chunk => .ok (some (.text chunk.reverse))
  | .begun | .tag _ _ | .closingTag _ _ => .error .unclosedTag
  | .bang => .error .unknownMarkup
  | .cdataOpening _ | .cdata _ => .error .unclosedCdata
  | .commentOpening | .comment _ => .error .unclosedComment
  | .doctypeOpening _ | .doctype _ _ => .error .unclosedDoctype
  | .instruction _ _ => .error .unclosedInstruction

end Scanner

end Markup
end FindingLedger
