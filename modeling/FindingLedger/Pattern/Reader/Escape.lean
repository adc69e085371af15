import FindingLedger.Pattern.Basic
import FindingLedger.Pattern.Named
import FindingLedger.Pattern.Reader.Input

/-!
# Escapes in patterns

What begins with a backslash: a character with a meaning of its own that stands for itself,
a character by its number, a class of characters, or a condition on a place.
-/

namespace FindingLedger
namespace Pattern

inductive Atom where
  | char (c : Char) (twoDigits : Bool)
  | set (s : CharSet)
  | anchor (a : Anchor)

def charOfHex (digits : List Char) : Read Char := do
  let code := Text.hexValue digits
  require (!digits.isEmpty && code.isValidChar)
  pure (Char.ofNat code)

def isHexDigit (c : Char) : Bool :=
  (Text.hexDigit? c).isSome

def fixedHex (flags : Flags) : Nat → Read (List Char)
  | 0 => pure []
  | count + 1 => do
      match ← peek? with
      | some c =>
          require (isHexDigit c)
          advance flags
          let more ← fixedHex flags count
          pure (c :: more)
      | none => refuse

/-- A character by its number, after the letter that says how it is written. -/
def readHex (flags : Flags) (digits : Nat) : Read Atom := do
  let c ← advanceTo flags
  if c == '\x7b' then
    advance flags
    let spelled ← gatherAll flags isHexDigit
    require ((← peek?) == some '\x7d')
    advance flags
    pure (.char (← charOfHex spelled) false)
  else
    let spelled ← fixedHex flags digits
    pure (.char (← charOfHex spelled) (digits == 2))

def asciiOnly (s : CharSet) : Read CharSet := do
  require s.isAsciiBytes
  pure (.inter s .ascii)

/-- A set as the flags want it: with both cases, then negated. -/
def finishSet (flags : Flags) (fold negated : Bool) (s : CharSet) : Read CharSet :=
  let s := if fold && flags.anyCase then .anyCase s else s
  let s := if negated then .compl s else s
  if flags.unicode then pure s else asciiOnly s

/-- The place of a text in another, with what stands before and after it. -/
def splitAt? (mark : List Char) : List Char → Option (List Char × List Char)
  | [] => none
  | c :: cs =>
      if mark.isPrefixOf (c :: cs) then
        some ([], (c :: cs).drop mark.length)
      else
        (splitAt? mark cs).map fun parts => (c :: parts.1, parts.2)

def readNamedSet (flags : Flags) (negated : Bool) : Read Atom := do
  require flags.unicode
  let c ← advanceTo flags
  let (set?, negated) ←
    if c == '\x7b' then do
      advance flags
      let name ← gatherAll flags fun c => c != '\x7d'
      require ((← peek?) == some '\x7d')
      skip
      match splitAt? ['!', '='] name with
      | some (name, value) => pure (CharSet.ofNameAndValue? name value, !negated)
      | none =>
          match splitAt? [':'] name with
          | some (name, value) => pure (CharSet.ofNameAndValue? name value, negated)
          | none =>
              match splitAt? ['='] name with
              | some (name, value) => pure (CharSet.ofNameAndValue? name value, negated)
              | none => pure (CharSet.ofName? name, negated)
    else do
      require (c != '\\')
      advance flags
      pure (CharSet.ofName? [c], negated)
  match set? with
  | some set => pure (.set (← finishSet flags true negated set))
  | none => refuse

def classOf (flags : Flags) (letter : Char) : CharSet :=
  if letter == 'd' then
    if flags.unicode then .digit else CharSet.between '0' '9'
  else if letter == 's' then
    if flags.unicode then .blank else CharSet.asciiSpace
  else
    if flags.unicode then .word else CharSet.asciiWord

def edgeOfName? (name : List Char) : Option WordEdge :=
  match String.ofList name with
  | "start" => some .start
  | "end" => some .stop
  | "start-half" => some .startHalf
  | "end-half" => some .stopHalf
  | _ => none

/-- A word boundary, of a special kind if a name in braces follows. Braces that hold
something else are left for a repetition. -/
def readBoundary (flags : Flags) : Read Atom := do
  let here ← rest
  if here.head? == some '\x7b' then
    let isNameChar (c : Char) : Bool := Text.isAsciiLetter c || c == '-'
    let c ← advanceTo flags
    if isNameChar c then
      let name ← gatherAll flags isNameChar
      require ((← peek?) == some '\x7d')
      skip
      match edgeOfName? name with
      | some edge => pure (.anchor (.wordEdge edge !flags.unicode))
      | none => refuse
    else
      goTo here
      pure (.anchor (.wordEdge .boundary !flags.unicode))
  else
    pure (.anchor (.wordEdge .boundary !flags.unicode))

def isMeta (c : Char) : Bool :=
  ['\\', '.', '+', '*', '?', '(', ')', '|', '[', ']', '\x7b', '\x7d', '^', '$', '#', '&', '-',
    '~'].contains c

def standsForItself (c : Char) : Bool :=
  isMeta c ||
    (c.toNat < 128 && !Text.isAsciiLetter c && !Text.isAsciiDigit c && c != '<' && c != '>')

def readEscape (flags : Flags) : Read Atom := do
  skip
  let plain (c : Char) : Read Atom := pure (.char c false)
  let edge (e : WordEdge) : Read Atom := pure (.anchor (.wordEdge e !flags.unicode))
  match ← peek? with
  | none => refuse
  | some 'x' => readHex flags 2
  | some 'u' => readHex flags 4
  | some 'U' => readHex flags 8
  | some 'p' => readNamedSet flags false
  | some 'P' => readNamedSet flags true
  | some c =>
      skip
      if ['d', 's', 'w'].contains c then
        pure (.set (← finishSet flags false false (classOf flags c)))
      else if ['D', 'S', 'W'].contains c then
        pure (.set (← finishSet flags false true (classOf flags (Text.lowerAscii c))))
      else if standsForItself c then plain c
      else
        match c with
        | 'a' => plain '\x07'
        | 'f' => plain '\x0c'
        | 't' => plain '\t'
        | 'n' => plain '\n'
        | 'r' => plain '\r'
        | 'v' => plain '\x0b'
        | 'A' => pure (.anchor .textStart)
        | 'z' => pure (.anchor .textEnd)
        | 'b' => readBoundary flags
        | 'B' => edge .inside
        | '<' => edge .start
        | '>' => edge .stop
        | _ => refuse

end Pattern
end FindingLedger
