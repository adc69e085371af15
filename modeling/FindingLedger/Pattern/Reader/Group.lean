import FindingLedger.Pattern.Reader.Input
import FindingLedger.Text.Ascii
import FindingLedger.Text.Word

/-!
# Openings of groups

A parenthesis opens a group, which may have a name or flags of its own, or sets flags for
the rest of the group around it.
-/

namespace FindingLedger
namespace Pattern

def Flags.set (flags : Flags) (letter : Char) (value : Bool) : Flags :=
  match letter with
  | 'i' => { flags with anyCase := value }
  | 'm' => { flags with multiLine := value }
  | 's' => { flags with dotAll := value }
  | 'u' => { flags with unicode := value }
  | 'R' => { flags with anyLineEnd := value }
  | 'x' => { flags with spaced := value }
  | _ => flags

/-- Flag letters and the hyphen before those that are switched off, none of them twice. -/
def applyFlags (flags : Flags) (value : Bool) (seen : List Char) :
    List Char → Option Flags
  | [] => some flags
  | c :: cs =>
      if seen.contains c then none
      else if c == '-' then
        if cs.isEmpty then none else applyFlags flags false (c :: seen) cs
      else if ['i', 'm', 's', 'U', 'u', 'R', 'x'].contains c then
        applyFlags (flags.set c value) value (c :: seen) cs
      else none

/-- Whether a group begins with a condition on its surroundings, which no pattern has. -/
def isSurrounding (cs : List Char) : Bool :=
  [['?', '='], ['?', '!'], ['?', '<', '='], ['?', '<', '!']].any fun mark => mark.isPrefixOf cs

def isNameChar (first : Bool) (c : Char) : Bool :=
  c == '_' || Text.isAlphabetic c ||
    (!first && (c == '.' || c == '[' || c == ']' || Text.isNumeric c))

/-- The name of a group up to its closing angle bracket. No two groups have one name. -/
def readGroupName : Read Unit := do
  let cs ← rest
  let name := cs.takeWhile fun c => c != '>'
  match name, cs.drop name.length with
  | c :: more, _ :: after =>
      require (isNameChar true c && more.all (isNameChar false))
      fun input =>
        if input.names.contains name then none
        else some ((), ⟨after, name :: input.names⟩)
  | _, _ => refuse

inductive Opening where
  | flags (flags : Flags)
  /-- A group, with the flags inside it, and whether it is kept what it takes. -/
  | group (flags : Flags) (kept : Bool)

def readGroupOpening (flags : Flags) : Read Opening := do
  advance flags
  require !(isSurrounding (← rest))
  if (← skipText ['?', 'P', '<']) || (← skipText ['?', '<']) then
    readGroupName
    pure (.group flags true)
  else if ← skipText ['?'] then
    let cs ← rest
    let letters := cs.takeWhile fun c => c != ':' && c != ')'
    match applyFlags flags true [] letters, cs.drop letters.length with
    | some inner, c :: after =>
        goTo after
        if c == ')' then
          require !letters.isEmpty
          pure (.flags inner)
        else
          pure (.group inner false)
    | _, _ => refuse
  else
    pure (.group flags true)

end Pattern
end FindingLedger
