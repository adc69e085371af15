import Mathlib.Data.List.TakeWhile
import FindingLedger.Proofs.Identity.ContextSearch
import FindingLedger.Proofs.Text.Trimmed

/-!
# Declarations of names of any kind

A context is looked for under its name without what qualifies it. The pattern of its
declaration asks for the edge of a word in front of the name. That edge is where a word
begins if the name begins with a character of a word. Any other name, such as that of a
destructor, is found only right after a word, where it is not declared.
-/

namespace FindingLedger
namespace Identity

open Pattern

def HasColons (cs : List Char) : Prop :=
  [':', ':'] <:+: cs

/-- Whether a text is a name without what qualifies it, which ends with the last pair of
colons. -/
inductive Unqualified : List Char -> List Char -> Prop where
  | plain {name : List Char} (plain : ¬ HasColons name) : Unqualified name name
  | qualified (qualifier : List Char) {name : List Char} (last : ¬ HasColons (':' :: name)) :
      Unqualified (qualifier ++ ':' :: ':' :: name) name

/-- Whether a name begins with a character of a word. -/
def BeginsWord (name : List Char) : Prop :=
  exists c, name.head? = some c ∧ Text.isWord c = true

/-- Whether a name stands in a line right after a character of a word, with a parenthesis
after it. -/
def FollowsWord (name line : List Char) : Prop :=
  exists left gap right, line = left ++ name ++ gap ++ '(' :: right ∧
    (exists c, left.getLast? = some c ∧ Text.isWord c = true) ∧
    forall c, c ∈ gap -> Text.isBlank c = true

/-!
# Names without what qualifies them
-/

theorem not_hasColons_of_cons {c : Char} {cs : List Char} (h : ¬ HasColons (c :: cs)) :
    ¬ HasColons cs := by
  intro hcs
  exact h (hcs.trans (List.suffix_cons c cs).isInfix)

theorem afterColons?_of_not_hasColons {cs : List Char} (h : ¬ HasColons cs) :
    afterColons? cs = none := by
  induction cs with
  | nil =>
      rfl
  | cons c rest ih =>
      rw [afterColons?, ih (not_hasColons_of_cons h)]
      intro name hc hrest
      rw [hc, hrest] at h
      exact h ⟨[], name, rfl⟩

theorem afterColons?_append_colons (qualifier : List Char) {name : List Char}
    (h : ¬ HasColons (':' :: name)) :
    afterColons? (qualifier ++ ':' :: ':' :: name) = some name := by
  induction qualifier with
  | nil =>
      rw [List.nil_append, afterColons?, afterColons?_of_not_hasColons h]
  | cons c rest ih =>
      rw [List.cons_append, afterColons?.eq_def]
      simp only [ih]

theorem lineFeed_not_mem_trimChars {cs : List Char} (h : '\n' ∉ cs) :
    '\n' ∉ Text.trimChars cs := by
  rcases Text.eq_trimChars_between_blanks cs with ⟨before, after, _, _, hcs⟩
  intro hmem
  refine h ?_
  rw [hcs]
  exact List.mem_append_left _ (List.mem_append_right _ hmem)

theorem bareName_eq_of_unqualified {context : String} {name : List Char}
    (hline : '\n' ∉ context.toList)
    (hname : Unqualified (Text.trimChars context.toList) name) : bareName context = name := by
  have hfeed : forall c, c ∈ Text.trimChars context.toList -> (c != '\n') = true := by
    intro c hc
    refine bne_iff_ne.mpr fun heq => ?_
    exact lineFeed_not_mem_trimChars hline (heq ▸ hc)
  rw [bareName, List.takeWhile_eq_self_iff.mpr hfeed, List.dropWhile_eq_nil_iff.mpr hfeed]
  generalize Text.trimChars context.toList = whole at hname
  cases hname with
  | plain hplain =>
      rw [afterColons?_of_not_hasColons hplain]
  | qualified qualifier hlast =>
      rw [afterColons?_append_colons qualifier hlast]
      exact List.append_nil name

/-!
# Edges in front of names
-/

theorem BeginsWord.edgeBetween_iff {name : List Char} (h : BeginsWord name)
    {before : Option Char} :
    EdgeBetween before name.head? <-> forall c, before = some c -> Text.isWord c = false := by
  rcases h with ⟨first, hhead, hword⟩
  rw [EdgeBetween, hhead]
  cases before with
  | none =>
      simp [Anchor.wordSide, hword]
  | some c =>
      simp [Anchor.wordSide, hword]

theorem edgeBetween_iff_of_not_beginsWord {name : List Char} (hname : name ≠ [])
    (h : ¬ BeginsWord name) {before : Option Char} :
    EdgeBetween before name.head? <-> exists c, before = some c ∧ Text.isWord c = true := by
  rcases List.exists_cons_of_ne_nil hname with ⟨first, rest, hcons⟩
  have hword : Text.isWord first = false := by
    refine Bool.eq_false_iff.mpr fun hfirst => h ⟨first, ?_, hfirst⟩
    rw [hcons, List.head?_cons]
  rw [EdgeBetween, hcons, List.head?_cons]
  cases before with
  | none =>
      simp [Anchor.wordSide, hword]
  | some c =>
      simp [Anchor.wordSide, hword]

theorem BeginsWord.standsIn_iff {name line : List Char} (h : BeginsWord name) :
    StandsIn name line <-> Declares name line := by
  unfold StandsIn Declares
  simp only [h.edgeBetween_iff]

theorem standsIn_iff_followsWord {name line : List Char} (hname : name ≠ [])
    (h : ¬ BeginsWord name) : StandsIn name line <-> FollowsWord name line := by
  unfold StandsIn FollowsWord
  simp only [edgeBetween_iff_of_not_beginsWord hname h]

theorem declares_alone (name : List Char) : Declares name (name ++ ['(']) :=
  ⟨[], [], [], (List.append_assoc [] name _).symm ▸ by simp, by simp, by simp⟩

/-- At the beginning of a line there is an edge in front of a name only if it begins a
word. -/
theorem beginsWord_of_standsIn_alone {name : List Char} (hname : name ≠ [])
    (h : StandsIn name (name ++ ['('])) : BeginsWord name := by
  by_contra hnot
  rcases (standsIn_iff_followsWord hname hnot).mp h with
    ⟨left, gap, right, hline, ⟨c, hlast, _⟩, _⟩
  have hlength := congrArg List.length hline
  simp only [List.length_append, List.length_cons, List.length_nil] at hlength
  have hleft : left = [] := List.eq_nil_of_length_eq_zero (by omega)
  rw [hleft] at hlast
  cases hlast

/-!
# Lines found as declarations
-/

section Names

variable {context : String} {name : List Char} (hline : '\n' ∉ context.toList)
  (hname : Unqualified (Text.trimChars context.toList) name) (hne : name ≠ [])

include hline hname hne

theorem readsAsDeclaration_iff_standsIn {line : List Char} :
    ReadsAsDeclaration context line <->
      (declarationOf name).fits = true ∧ StandsIn name line := by
  unfold ReadsAsDeclaration
  rw [declaration?_eq_of_bareName hne (bareName_eq_of_unqualified hline hname),
    ← occursIn_declarationOf_iff_standsIn hne]
  split
  · rename_i hfits
    simp [hfits]
  · rename_i hfits
    simp [hfits]

/-- The lines that are found are those that declare the name exactly if the pattern is not
too large and the name begins with a character of a word. -/
theorem readsAsDeclaration_iff_declares_iff :
    (forall line, ReadsAsDeclaration context line <-> Declares name line) <->
      (declarationOf name).fits = true ∧ BeginsWord name := by
  simp only [readsAsDeclaration_iff_standsIn hline hname hne]
  constructor
  · intro h
    rcases (h _).mpr (declares_alone name) with ⟨hfits, hstands⟩
    exact ⟨hfits, beginsWord_of_standsIn_alone hne hstands⟩
  · rintro ⟨hfits, hbegins⟩ line
    rw [hbegins.standsIn_iff]
    exact and_iff_right hfits

theorem readsAsDeclaration_iff_followsWord (hfits : (declarationOf name).fits = true)
    (hnot : ¬ BeginsWord name) {line : List Char} :
    ReadsAsDeclaration context line <-> FollowsWord name line := by
  rw [readsAsDeclaration_iff_standsIn hline hname hne, standsIn_iff_followsWord hne hnot]
  exact and_iff_right hfits

end Names

namespace Occurrence

def search (o : Occurrence) (context : String) : Search where
  sources := o.sources
  settings := o.settings
  context := context
  path := o.path
  line := o.finding.location.line

/-- The lines in reach of a finding that declare a name. -/
def declaringLines (o : Occurrence) (name : List Char) : Set Nat :=
  linesWith o.sources o.path (inReach o.settings o.finding.location.line) (Declares name)

theorem offset_ne_absolute_iff {o : Occurrence} {context : String}
    (hfor : (o.search context).IsFor o.finding)
    (hmax : o.finding.location.line ≤ maxLine) :
    o.offset ≠ .absolute o.finding.location.line <->
      (o.search context).declarations.Nonempty := by
  have hoffset : o.offset = _ := hfor.offsetOf_eq
  have hnone := Search.found?_eq_none_iff (s := o.search context) hmax
  rw [Set.nonempty_iff_ne_empty, ne_eq, ne_eq, ← hnone, hoffset, hfor.line]
  cases (o.search context).found? with
  | none =>
      simp
  | some start =>
      simp

end Occurrence

/-- The lines that are found are those that declare the name exactly if the pattern is not
too large and the name begins with a character of a word, and then a finding has its offset
counted from a beginning exactly if such a line is in reach. Other names are found right
after words alone. -/
theorem readsAsDeclaration_iff_beginsWord {context : String} {name : List Char}
    (hline : '\n' ∉ context.toList)
    (hname : Unqualified (Text.trimChars context.toList) name) (hne : name ≠ []) :
    ((forall line, ReadsAsDeclaration context line <-> Declares name line) <->
      (declarationOf name).fits = true ∧ BeginsWord name) ∧
    ((declarationOf name).fits = true -> ¬ BeginsWord name ->
      forall line, ReadsAsDeclaration context line <-> FollowsWord name line) ∧
    ((declarationOf name).fits = true -> BeginsWord name -> forall o : Occurrence,
      (o.search context).IsFor o.finding -> o.finding.location.line ≤ maxLine ->
        ((o.declaringLines name).Nonempty <-> o.offset ≠ .absolute o.finding.location.line)) := by
  refine ⟨readsAsDeclaration_iff_declares_iff hline hname hne, ?_, ?_⟩
  · intro hfits hnot line
    exact readsAsDeclaration_iff_followsWord hline hname hne hfits hnot
  · intro hfits hbegins o hfor hmax
    have hsame : forall line, ReadsAsDeclaration context line <-> Declares name line :=
      (readsAsDeclaration_iff_declares_iff hline hname hne).mpr ⟨hfits, hbegins⟩
    have hlines : (o.search context).declarations = o.declaringLines name :=
      congrArg (linesWith o.sources o.path _) (funext fun line => propext (hsame line))
    rw [Occurrence.offset_ne_absolute_iff hfor hmax, hlines]

/-!
## A method and a destructor
-/

def inMember (text context : String) (line : Nat) : Occurrence where
  sources := .ofFiles [("a.cpp", Text.bytesOf text)]
  settings := {}
  finding := {
    diagnostic := {
      category := "", type := "", description := "", checkerName := none
      location := ⟨0, line, 3⟩, contextName := some context, contextKind := none, path := []
      notes := [], embeddedHash := none, functionOffset := none }
    checker := "core.DivideZero"
    provenance := .declared }
  path := "a.cpp"

def inMethod : Occurrence :=
  inMember "void Foo::bar(int a)\n\x7b\n  use(a);\n\x7d\n" "Foo::bar" 3

def inDestructor : Occurrence :=
  inMember "Foo::~Foo() \x7b\n  delete p;\n\x7d\n" "Foo::~Foo" 2

theorem readsAsDeclaration_iff_beginsWord_method :
    '\n' ∉ "Foo::bar".toList ∧
      Unqualified (Text.trimChars "Foo::bar".toList) ['b', 'a', 'r'] ∧
      inMethod.offset ≠ .absolute 3 := by
  have hline : '\n' ∉ "Foo::bar".toList := by decide
  have hname : Unqualified (Text.trimChars "Foo::bar".toList) ['b', 'a', 'r'] :=
    .qualified ['F', 'o', 'o'] (by unfold HasColons; decide)
  have hfits : (declarationOf ['b', 'a', 'r']).fits = true :=
    fits_declarationOf (by decide) (by decide)
  have hbegins : BeginsWord ['b', 'a', 'r'] := ⟨'b', rfl, Text.isWord_of_lt (by decide)⟩
  rcases readsAsDeclaration_iff_beginsWord hline hname (by decide) with ⟨_, _, hoffset⟩
  refine ⟨hline, hname, (hoffset hfits hbegins inMethod ⟨rfl, rfl, rfl⟩ (by decide)).mp ?_⟩
  refine ⟨1, ⟨by decide, by decide⟩, "void Foo::bar(int a)", by decide +kernel, ?_⟩
  refine ⟨"void Foo::".toList, [], "int a)".toList, by decide, ?_, List.forall_mem_nil _⟩
  intro c hc
  cases hc
  exact Text.isWord_of_lt (by decide)

/-- The pattern of a destructor is not found where the destructor is declared, so that the
line of a finding stands for its offset. -/
theorem not_readsAsDeclaration_of_declares :
    (¬ forall (context : String) (name : List Char), '\n' ∉ context.toList ->
        Unqualified (Text.trimChars context.toList) name -> name ≠ [] ->
        forall line, ReadsAsDeclaration context line <-> Declares name line) ∧
    ¬ forall (o : Occurrence) (context : String) (name : List Char),
        '\n' ∉ context.toList -> Unqualified (Text.trimChars context.toList) name ->
        name ≠ [] -> (o.search context).IsFor o.finding ->
        o.finding.location.line ≤ maxLine -> (o.declaringLines name).Nonempty ->
        o.offset ≠ .absolute o.finding.location.line := by
  have hline : '\n' ∉ "Foo::~Foo".toList := by decide
  have hname : Unqualified (Text.trimChars "Foo::~Foo".toList) ['~', 'F', 'o', 'o'] :=
    .qualified ['F', 'o', 'o'] (by unfold HasColons; decide)
  have hpattern : declaration? "Foo::~Foo" = some (declarationOf ['~', 'F', 'o', 'o']) := by
    rw [declaration?_eq_of_bareName (by decide) (bareName_eq_of_unqualified hline hname),
      if_pos (fits_declarationOf (by decide) (by decide))]
  have hdeclares : Declares ['~', 'F', 'o', 'o'] "Foo::~Foo() \x7b".toList := by
    refine ⟨"Foo::".toList, [], ") \x7b".toList, by decide, ?_, List.forall_mem_nil _⟩
    intro c hc
    cases hc
    exact Text.isWord_of_lt (by decide)
  constructor
  · intro hall
    have hreads := (hall _ _ hline hname (by decide) _).mpr hdeclares
    rw [← readsAsDeclaration_iff hpattern] at hreads
    exact absurd hreads (by decide +kernel)
  · intro hall
    have hmax : inDestructor.finding.location.line ≤ maxLine := by decide
    have hfor : (inDestructor.search "Foo::~Foo").IsFor inDestructor.finding := ⟨rfl, rfl, rfl⟩
    have hoffset := hall inDestructor _ _ hline hname (by decide) hfor hmax
      ⟨1, ⟨by decide, by decide⟩, "Foo::~Foo() \x7b", by decide +kernel, hdeclares⟩
    rcases (Occurrence.offset_ne_absolute_iff hfor hmax).mp hoffset with ⟨n, hn⟩
    rw [Search.declarations_eq hmax hpattern] at hn
    -- There are only two lines that the pattern could be found in.
    have hfound : forall m, m ∈ [1, 2] -> lineMeets inDestructor.sources inDestructor.path
        (declarationOf ['~', 'F', 'o', 'o']).occursIn m = false := by
      decide +kernel
    have hmem : n ∈ [1, 2] := by
      have hfirst : 1 ≤ n := Nat.le_trans (Nat.le_max_left _ _) hn.1.1
      have hlast : n ≤ 2 := hn.1.2
      simp only [List.mem_cons, List.not_mem_nil, or_false]
      omega
    have hmeets : lineMeets inDestructor.sources inDestructor.path
        (declarationOf ['~', 'F', 'o', 'o']).occursIn n = true := hn.2
    rw [hfound n hmem] at hmeets
    cases hmeets

end Identity
end FindingLedger
