import FindingLedger.Text.Break
import FindingLedger.Text.Casing
import FindingLedger.Text.Edition
import FindingLedger.Text.Script

/-!
# Sets of characters

A pattern describes one character by a set, which is held as its longest runs of code
points in ascending order. So two sets with the same members are equal, and each set has
one size.
-/

namespace FindingLedger

open Text

structure CharSet where
  runs : List Span
  deriving DecidableEq, Repr

namespace CharSet

def hasCode (s : CharSet) (n : Nat) : Bool :=
  Span.holdsCode s.runs n

def has (s : CharSet) (c : Char) : Bool :=
  s.hasCode c.toNat

/-!
# Building sets
-/

def maxCode : Nat := 0x10FFFF

def surrogates : Span :=
  ⟨0xD800, 0xDFFF⟩

def none : CharSet :=
  ⟨[]⟩

def range (first last : Nat) : CharSet :=
  if first < surrogates.first && surrogates.last < last then
    ⟨[⟨first, surrogates.first - 1⟩, ⟨surrogates.last + 1, last⟩]⟩
  else
    ⟨[⟨first, last⟩]⟩

def single (c : Char) : CharSet :=
  .range c.toNat c.toNat

def any : CharSet :=
  .range 0 maxCode

def ascii : CharSet :=
  .range 0 0x7F

def ofSpans (spans : List Span) : CharSet :=
  ⟨Span.normalize spans⟩

def ofCodes (codes : List Nat) : CharSet :=
  ofSpans (codes.map fun n => ⟨n, n⟩)

def union (a b : CharSet) : CharSet :=
  ⟨Span.unite a.runs b.runs⟩

def unions (sets : List CharSet) : CharSet :=
  ofSpans (sets.flatMap runs)

def compl (a : CharSet) : CharSet :=
  ⟨Span.gaps maxCode 0 (Span.unite a.runs [surrogates])⟩

def inter (a b : CharSet) : CharSet :=
  compl (union (compl a) (compl b))

def minus (a b : CharSet) : CharSet :=
  compl (union (compl a) b)

def differ (a b : CharSet) : CharSet :=
  union (minus a b) (minus b a)

/-- The characters that differ from one of a set at most in case. Each group of such
characters has a head; the heads of the members are added first, then all their
spellings. -/
def anyCase (a : CharSet) : CharSet :=
  let heads := (casePairs.filter fun pair => a.hasCode pair.2).map Prod.fst
  let headed := union a (ofCodes heads)
  let images := (casePairs.filter fun pair => headed.hasCode pair.1).map Prod.snd
  union headed (ofCodes images)

/-!
# Sets of Unicode
-/

def ofCategories (categories : List Category) : CharSet :=
  let assigned (some : List Category) : CharSet :=
    unions ((Category.table.filter fun row => some.contains row.1).map fun row => ⟨row.2⟩)
  if categories.contains .unassigned then
    compl (assigned ((Category.table.map Prod.fst).filter fun g => !categories.contains g))
  else
    assigned categories

def ofProperty (p : Property) : CharSet :=
  differ (ofCategories p.categories) (ofSpans p.exceptions)

def ofScript (s : Script) : CharSet :=
  ofSpans s.members

def ofScriptUse (s : Script) : CharSet :=
  differ (ofSpans s.members) (ofSpans s.extensions)

def ofEditions (editions : List Edition) : CharSet :=
  ofSpans (editions.flatMap Edition.added)

def blank : CharSet :=
  ⟨[⟨9, 13⟩, ⟨0x20, 0x20⟩, ⟨0x85, 0x85⟩, ⟨0xA0, 0xA0⟩, ⟨0x1680, 0x1680⟩, ⟨0x2000, 0x200A⟩,
    ⟨0x2028, 0x2029⟩, ⟨0x202F, 0x202F⟩, ⟨0x205F, 0x205F⟩, ⟨0x3000, 0x3000⟩]⟩

def digit : CharSet :=
  ofCategories [.decimalNumber]

def word : CharSet :=
  unions [ofProperty Property.alphabetic,
    ofCategories [.nonspacingMark, .spacingMark, .enclosingMark, .decimalNumber,
      .connectorPunctuation],
    .range 0x200C 0x200D]

/-!
# Members
-/

theorem range_single (n : Nat) : range n n = ⟨[⟨n, n⟩]⟩ := by
  have apart : ¬(n < surrogates.first ∧ surrogates.last < n) := by
    show ¬(n < 0xD800 ∧ 0xDFFF < n)
    omega
  simp [range, apart]

theorem has_single (c d : Char) : (single c).has d = (d.toNat == c.toNat) := by
  rw [Bool.eq_iff_iff]
  simp only [single, range_single, has, hasCode, Span.holdsCode, Bool.and_eq_true,
    decide_eq_true_eq, Bool.or_false, beq_iff_eq]
  omega

theorem has_blank (c : Char) : blank.has c = isBlank c := by
  rw [Bool.eq_iff_iff]
  simp [blank, has, hasCode, Span.holdsCode, isBlank]
  omega

/-!
# Sets of bytes
-/

/-- Whether a set of bytes, which are code points below 256, holds ASCII characters only. -/
def isAsciiBytes (s : CharSet) : Bool :=
  (List.range 128).all fun n => !s.hasCode (n + 128)

def isAscii (s : CharSet) : Bool :=
  s.runs.all fun r => r.last < 128

def only? (s : CharSet) : Option Char :=
  match s.runs with
  | [r] => if r.first == r.last then some (Char.ofNat r.first) else Option.none
  | _ => Option.none

end CharSet

end FindingLedger
