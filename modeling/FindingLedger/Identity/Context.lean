import FindingLedger.Finding
import FindingLedger.Identity.Key
import FindingLedger.Identity.Surroundings
import FindingLedger.Pattern.Automaton.Room
import FindingLedger.Pattern.Search

/-!
# The beginning of a context

A finding lies in a context, such as a function. The context begins with the opening of
its body, which is looked for in two steps: upwards from the finding for the nearest line
that declares the context, and from there downwards for the first brace.
-/

namespace FindingLedger
namespace Identity

/-!
# Declarations
-/

def afterColons? : List Char → Option (List Char)
  | [] => none
  | c :: rest =>
      match afterColons? rest with
      | some name => some name
      | none =>
          match c, rest with
          | ':', ':' :: name => some name
          | _, _ => none

/-- The name of a context without what qualifies it, which ends with the last pair of
colons of its first line. -/
def bareName (context : String) : List Char :=
  let name := Text.trimChars context.toList
  match afterColons? (name.takeWhile fun c => c != '\n') with
  | some bare => bare ++ name.dropWhile fun c => c != '\n'
  | none => name

/-- The pattern of a declaration: a name that begins at the edge of a word, and a
parenthesis after it. -/
def declarationOf (name : List Char) : Pattern :=
  .seq (.anchor (.wordEdge .boundary false) :: name.map (fun c => .one (.single c)) ++
    [.repeated (.one .blank) 0 none, .one (.single '(')])

/-- The pattern of the declaration of a context. A context without a name has none, and
neither has one whose name is too long for a pattern. -/
def declaration? (context : String) : Option Pattern :=
  match bareName context with
  | [] => none
  | name => if (declarationOf name).fits then some (declarationOf name) else none

/-!
# Searching lines
-/

/-- The nearest of so many lines that meets a condition, upwards from a line. -/
def nearestAbove? (p : Nat → Bool) : Nat → Nat → Option Nat
  | _, 0 => none
  | line, count + 1 => if p line then some line else nearestAbove? p (line - 1) count

/-- The nearest of so many lines that meets a condition, downwards from a line. -/
def nearestBelow? (p : Nat → Bool) : Nat → Nat → Option Nat
  | _, 0 => none
  | line, count + 1 => if p line then some line else nearestBelow? p (line + 1) count

def lineMeets (sources : Sources) (path : String) (p : List Char → Bool) (line : Nat) : Bool :=
  match sources.line? path line with
  | some text => p text.toList
  | none => false

/-- The line with which a context begins that holds a line of a file: its first brace, or
its declaration if there is no brace up to the line. -/
def contextStart? (sources : Sources) (settings : Settings) (context path : String)
    (line : Nat) : Option Nat :=
  match declaration? context with
  | none => none
  | some pattern =>
      let lowest := max 1 (line - min settings.maxContextScan maxLine)
      match nearestAbove? (lineMeets sources path pattern.occursIn) line (line + 1 - lowest) with
      | none => none
      | some declared =>
          let holdsBrace (text : List Char) : Bool := text.contains '\x7b'
          some ((nearestBelow? (lineMeets sources path holdsBrace) declared
            (line + 1 - declared)).getD declared)

def offsetOf (sources : Sources) (settings : Settings) (f : Finding) (path : String) : Offset :=
  let line := f.location.line
  match f.diagnostic.functionOffset, f.diagnostic.contextName with
  | some lines, _ => .declared lines
  | none, none => .absolute line
  | none, some context =>
      match contextStart? sources settings context path line with
      | some start => .scanned ((line : Int) - start)
      | none => .absolute line

end Identity
end FindingLedger
