import Mathlib.Data.Nat.SuccPred
import Mathlib.Order.SuccPred.Archimedean
import FindingLedger.Proofs.Identity.ContextStart
import FindingLedger.Proofs.Identity.Declarations
import FindingLedger.Proofs.Identity.Keys
import FindingLedger.Proofs.Source.Lines

/-!
# What the search for a context finds

The search is told apart from the way it goes about: the declaration of a context is the
greatest of the lines in reach that read as one, and the context begins with the least line
from there on that holds a brace. It does so for any sources, also for a line that does not
exist, and lines out of reach do not count.
-/

namespace FindingLedger
namespace Identity

/-- Whether a line is found by the pattern of the declaration of a context. -/
def ReadsAsDeclaration (context : String) (line : List Char) : Prop :=
  exists pattern, declaration? context = some pattern ∧ pattern.occursIn line = true

/-- The lines that are looked at for a finding on some line. -/
def inReach (settings : Settings) (line : Nat) : Set Nat :=
  Set.Icc (max 1 (line - settings.maxContextScan)) line

/-- Those of some lines of a file that can be read and have a property. -/
def linesWith (sources : Sources) (path : String) (lines : Set Nat)
    (property : List Char -> Prop) : Set Nat :=
  {n | n ∈ lines ∧ exists text, sources.line? path n = some text ∧ property text.toList}

/-- What a search is asked for: the beginning of a context for a line of a file. -/
structure Search where
  sources : Sources
  settings : Settings
  context : String
  path : String
  line : Nat

namespace Search

def found? (s : Search) : Option Nat :=
  contextStart? s.sources s.settings s.context s.path s.line

def declarations (s : Search) : Set Nat :=
  linesWith s.sources s.path (inReach s.settings s.line) (ReadsAsDeclaration s.context)

/-- The lines from a declaration on that hold an opening brace. -/
def braces (s : Search) (declared : Nat) : Set Nat :=
  linesWith s.sources s.path (Set.Icc declared s.line) fun text => '\x7b' ∈ text

/-- What a search has to answer. -/
inductive Answers (s : Search) : Option Nat -> Prop where
  | none (nowhere : s.declarations = ∅) : Answers s none
  | brace {declared start : Nat} (nearest : IsGreatest s.declarations declared)
      (first : IsLeast (s.braces declared) start) : Answers s (some start)
  | noBrace {declared : Nat} (nearest : IsGreatest s.declarations declared)
      (nowhere : s.braces declared = ∅) : Answers s (some declared)

end Search

/-!
# Lines with a property
-/

section Lines

variable {sources : Sources} {path : String} {lines : Set Nat} {property : List Char -> Prop}

theorem mem_linesWith_iff {p : List Char -> Bool} {n : Nat}
    (h : forall text, p text = true <-> property text) :
    n ∈ linesWith sources path lines property <->
      n ∈ lines ∧ lineMeets sources path p n = true := by
  unfold linesWith lineMeets
  rw [Set.mem_ofPred_eq]
  cases sources.line? path n with
  | none =>
      simp
  | some text =>
      simp [h]

theorem linesWith_congr {others : Sources}
    (h : forall n, n ∈ lines -> others.line? path n = sources.line? path n) :
    linesWith others path lines property = linesWith sources path lines property := by
  ext n
  constructor
  · rintro ⟨hn, hmeets⟩
    rw [h n hn] at hmeets
    exact ⟨hn, hmeets⟩
  · rintro ⟨hn, hmeets⟩
    rw [← h n hn] at hmeets
    exact ⟨hn, hmeets⟩

end Lines

theorem nearestAbove_iff_isGreatest {p : Nat -> Bool} {lowest line n : Nat} :
    NearestAbove p lowest line n <->
      IsGreatest {m | m ∈ Set.Icc lowest line ∧ p m = true} n := by
  constructor
  · rintro ⟨hlowest, hline, hmeets, hpassed⟩
    refine ⟨⟨⟨hlowest, hline⟩, hmeets⟩, ?_⟩
    rintro m ⟨hm, hmm⟩
    by_contra hlt
    rw [hpassed m (Nat.lt_of_not_le hlt) hm.2] at hmm
    cases hmm
  · rintro ⟨⟨hn, hmeets⟩, hgreatest⟩
    refine ⟨hn.1, hn.2, hmeets, ?_⟩
    intro m hnm hm
    refine Bool.eq_false_iff.mpr fun hmm => ?_
    have hle := hgreatest ⟨⟨Nat.le_trans hn.1 (Nat.le_of_lt hnm), hm⟩, hmm⟩
    exact absurd hnm (Nat.not_lt.mpr hle)

theorem opens_iff {brace : Nat -> Bool} {declared line start : Nat} :
    Opens brace declared line start <->
      IsLeast {m | m ∈ Set.Icc declared line ∧ brace m = true} start ∨
        {m | m ∈ Set.Icc declared line ∧ brace m = true} = ∅ ∧ start = declared := by
  constructor
  · intro h
    cases h with
    | brace hle hline hholds hpassed =>
        refine Or.inl ⟨⟨⟨hle, hline⟩, hholds⟩, ?_⟩
        rintro m ⟨hm, hmm⟩
        by_contra hlt
        rw [hpassed m hm.1 (Nat.lt_of_not_le hlt)] at hmm
        cases hmm
    | noBrace hpassed =>
        refine Or.inr ⟨Set.eq_empty_of_forall_notMem ?_, rfl⟩
        rintro m ⟨hm, hmm⟩
        rw [hpassed m hm.1 hm.2] at hmm
        cases hmm
  · rintro (⟨⟨hs, hholds⟩, hleast⟩ | ⟨hnone, rfl⟩)
    · refine Opens.brace hs.1 hs.2 hholds ?_
      intro m hm hlt
      refine Bool.eq_false_iff.mpr fun hmm => ?_
      exact absurd (hleast ⟨⟨hm, Nat.le_trans (Nat.le_of_lt hlt) hs.2⟩, hmm⟩)
        (Nat.not_le.mpr hlt)
    · refine Opens.noBrace ?_
      intro m hm hle
      exact Bool.eq_false_iff.mpr fun hmm => Set.notMem_empty m (hnone ▸ ⟨⟨hm, hle⟩, hmm⟩)

theorem readsAsDeclaration_iff {context : String} {pattern : Pattern}
    (h : declaration? context = some pattern) (line : List Char) :
    pattern.occursIn line = true <-> ReadsAsDeclaration context line := by
  simp [ReadsAsDeclaration, h]

/-!
# Answers
-/

namespace Search

variable {s : Search}

theorem lowestLine_eq (hline : s.line ≤ maxLine) :
    lowestLine s.settings s.line = max 1 (s.line - s.settings.maxContextScan) := by
  unfold lowestLine
  omega

theorem declarations_eq (hline : s.line ≤ maxLine) {pattern : Pattern}
    (hpattern : declaration? s.context = some pattern) :
    s.declarations = {n | n ∈ Set.Icc (lowestLine s.settings s.line) s.line ∧
      lineMeets s.sources s.path pattern.occursIn n = true} := by
  ext n
  rw [declarations, mem_linesWith_iff (readsAsDeclaration_iff hpattern), inReach,
    ← lowestLine_eq hline]
  exact Iff.rfl

theorem declarations_of_no_pattern (h : declaration? s.context = none) :
    s.declarations = ∅ := by
  refine Set.eq_empty_of_forall_notMem ?_
  rintro n ⟨_, _, _, pattern, hpattern, _⟩
  rw [h] at hpattern
  cases hpattern

theorem braces_eq (declared : Nat) :
    s.braces declared = {n | n ∈ Set.Icc declared s.line ∧
      holdsBrace s.sources s.path n = true} := by
  ext n
  exact mem_linesWith_iff fun _ => List.contains_iff_mem

theorem found?_eq_some_iff (hline : s.line ≤ maxLine) {start : Nat} :
    s.found? = some start <->
      exists declared, IsGreatest s.declarations declared ∧
        (IsLeast (s.braces declared) start ∨ s.braces declared = ∅ ∧ start = declared) := by
  rw [found?, contextStart?_eq_some_iff]
  cases hpattern : declaration? s.context with
  | none =>
      rw [declarations_of_no_pattern hpattern]
      constructor
      · rintro ⟨pattern, _, hsome, _⟩
        cases hsome
      · rintro ⟨declared, hnearest, _⟩
        exact absurd hnearest.1 (Set.notMem_empty declared)
  | some pattern =>
      rw [declarations_eq hline hpattern]
      simp only [Option.some.injEq, exists_and_left, exists_eq_left', braces_eq, opens_iff,
        nearestAbove_iff_isGreatest]

theorem exists_isGreatest_declarations (h : s.declarations ≠ ∅) :
    exists declared, IsGreatest s.declarations declared := by
  have hbound : BddAbove s.declarations := ⟨s.line, fun _ hn => hn.1.2⟩
  exact hbound.exists_isGreatest_of_nonempty (Set.nonempty_iff_ne_empty.mpr h)

theorem exists_isLeast_braces (declared : Nat) :
    exists start, IsLeast (s.braces declared) start ∨
      s.braces declared = ∅ ∧ start = declared := by
  by_cases h : s.braces declared = ∅
  · exact ⟨declared, Or.inr ⟨h, rfl⟩⟩
  · rcases (OrderBot.bddBelow (s.braces declared)).exists_isLeast_of_nonempty
      (Set.nonempty_iff_ne_empty.mpr h) with ⟨start, hfirst⟩
    exact ⟨start, Or.inl hfirst⟩

theorem found?_eq_none_iff (hline : s.line ≤ maxLine) :
    s.found? = none <-> s.declarations = ∅ := by
  constructor
  · intro hnone
    by_contra hne
    rcases exists_isGreatest_declarations hne with ⟨declared, hnearest⟩
    rcases s.exists_isLeast_braces declared with ⟨start, hstart⟩
    rw [(found?_eq_some_iff hline).mpr ⟨declared, hnearest, hstart⟩] at hnone
    cases hnone
  · intro hnowhere
    cases hfound : s.found? with
    | none =>
        rfl
    | some start =>
        rcases (found?_eq_some_iff hline).mp hfound with ⟨declared, hnearest, _⟩
        rw [hnowhere] at hnearest
        exact absurd hnearest.1 (Set.notMem_empty declared)

theorem found?_eq_iff_answers (hline : s.line ≤ maxLine) {start? : Option Nat} :
    s.found? = start? <-> s.Answers start? := by
  cases start? with
  | none =>
      rw [found?_eq_none_iff hline]
      constructor
      · exact Answers.none
      · intro h
        cases h with
        | none hnowhere =>
            exact hnowhere
  | some start =>
      rw [found?_eq_some_iff hline]
      constructor
      · rintro ⟨declared, hnearest, hfirst | ⟨hnowhere, rfl⟩⟩
        · exact Answers.brace hnearest hfirst
        · exact Answers.noBrace hnearest hnowhere
      · intro h
        cases h with
        | brace hnearest hfirst =>
            exact ⟨_, hnearest, Or.inl hfirst⟩
        | noBrace hnearest hnowhere =>
            exact ⟨_, hnearest, Or.inr ⟨hnowhere, rfl⟩⟩

theorem mem_inReach_of_answers {start : Nat} (h : s.Answers (some start)) :
    start ∈ inReach s.settings s.line := by
  cases h with
  | brace hnearest hfirst =>
      exact ⟨Nat.le_trans hnearest.1.1.1 hfirst.1.1.1, hfirst.1.1.2⟩
  | noBrace hnearest =>
      exact hnearest.1.1

theorem Answers.congr {others : Sources} {start? : Option Nat}
    (hothers : forall n, n ∈ inReach s.settings s.line ->
      others.line? s.path n = s.sources.line? s.path n)
    (h : s.Answers start?) : ({ s with sources := others } : Search).Answers start? := by
  have hdeclarations : ({ s with sources := others } : Search).declarations =
      s.declarations := linesWith_congr hothers
  have hbraces : forall declared, declared ∈ inReach s.settings s.line ->
      ({ s with sources := others } : Search).braces declared = s.braces declared := by
    intro declared hdeclared
    refine linesWith_congr ?_
    intro n hn
    exact hothers n ⟨Nat.le_trans hdeclared.1 hn.1, hn.2⟩
  cases h with
  | none hnowhere =>
      exact Answers.none (hdeclarations.trans hnowhere)
  | brace hnearest hfirst =>
      rw [← hbraces _ hnearest.1.1] at hfirst
      rw [← hdeclarations] at hnearest
      exact Answers.brace hnearest hfirst
  | noBrace hnearest hnowhere =>
      rw [← hbraces _ hnearest.1.1] at hnowhere
      rw [← hdeclarations] at hnearest
      exact Answers.noBrace hnearest hnowhere

/-- Whether a search is made for a finding, which it is if the finding has a context and
its offset is not declared. -/
structure IsFor (s : Search) (f : Finding) : Prop where
  context : f.diagnostic.contextName = some s.context
  offset : f.diagnostic.functionOffset = none
  line : f.location.line = s.line

theorem IsFor.offsetOf_eq {f : Finding} (h : s.IsFor f) :
    offsetOf s.sources s.settings f s.path =
      match s.found? with
      | none => .absolute s.line
      | some start => .scanned ((s.line : Int) - start) := by
  rw [offsetOf, h.context, h.offset, h.line, found?]
  dsimp only
  cases contextStart? s.sources s.settings s.context s.path s.line with
  | none =>
      rfl
  | some start =>
      rfl

/-- The search answers what it has to, for every line that there may be. What it finds is no
further above than the scan goes, and a finding has its distance from there for an offset,
or else its own line. Lines out of reach do not count. -/
theorem found?_answers (hline : s.line ≤ maxLine) :
    (forall start?, s.found? = start? <-> s.Answers start?) ∧
    (bareName s.context = [] -> s.found? = none) ∧
    (forall start, s.found? = some start ->
      1 ≤ start ∧ start ≤ s.line ∧
        s.line - start ≤ min s.settings.maxContextScan s.line) ∧
    (forall f : Finding, s.IsFor f -> offsetOf s.sources s.settings f s.path =
      match s.found? with
      | none => .absolute s.line
      | some start => .scanned ((s.line - start : Nat) : Int)) ∧
    (forall others : Sources, (forall n, n ∈ inReach s.settings s.line ->
        others.line? s.path n = s.sources.line? s.path n) ->
      ({ s with sources := others } : Search).found? = s.found?) := by
  have hreach : forall start, s.found? = some start ->
      start ∈ inReach s.settings s.line := by
    intro start hfound
    exact mem_inReach_of_answers ((found?_eq_iff_answers hline).mp hfound)
  refine ⟨fun _ => found?_eq_iff_answers hline, ?_, ?_, ?_, ?_⟩
  · intro hbare
    have hnone : declaration? s.context = none := by
      rw [declaration?, hbare]
    exact (found?_eq_none_iff hline).mpr (declarations_of_no_pattern hnone)
  · intro start hfound
    have hstart := hreach start hfound
    rw [inReach, Set.mem_Icc] at hstart
    omega
  · intro f hf
    rw [hf.offsetOf_eq]
    cases hfound : s.found? with
    | none =>
        rfl
    | some start =>
        have hle := (hreach start hfound).2
        exact congrArg Offset.scanned (Int.ofNat_sub hle).symm
  · intro others hothers
    have hsame := Answers.congr hothers ((found?_eq_iff_answers hline).mp rfl)
    exact (found?_eq_iff_answers (s := { s with sources := others }) hline).mpr hsame

def beyondEnd : Search where
  sources := .ofFiles [("a.c", Text.bytesOf "int f(int n)\n\x7b\n  return n;\n\x7d\n")]
  settings := { maxContextScan := 5 }
  context := "f"
  path := "a.c"
  line := 6

def findingBeyondEnd : Finding where
  diagnostic := {
    category := "", type := "", description := "", checkerName := none
    location := ⟨0, 6, 1⟩, contextName := some "f", contextKind := none, path := []
    notes := [], embeddedHash := none, functionOffset := none }
  checker := "core.DivideZero"
  provenance := .declared

theorem isGreatest_declarations_beyondEnd : IsGreatest beyondEnd.declarations 1 := by
  have hname : Identifier ['f'] :=
    identifier_of_isAsciiWord (by decide) (List.forall_mem_singleton.mpr rfl)
  have hpattern : declaration? "f" = some (declarationOf ['f']) :=
    declaration?_of_identifier hname (by decide)
  have hreads : forall line, ReadsAsDeclaration "f" line <-> Declares ['f'] line := by
    intro line
    rw [← readsAsDeclaration_iff hpattern, occursIn_declarationOf_iff hname]
  constructor
  · refine ⟨⟨by decide, by decide⟩, "int f(int n)", by decide +kernel, ?_⟩
    refine (hreads _).mpr ⟨"int ".toList, [], "int n)".toList, by decide, ?_, List.forall_mem_nil _⟩
    intro c hc
    cases hc
    exact Text.isWord_of_lt (by decide)
  · rintro n ⟨hn, text, htext, hreadsAs⟩
    have hmem : 'f' ∈ text.toList := ((hreads _).mp hreadsAs).subset List.mem_cons_self
    -- None of the lines below holds the letter.
    have hnot : forall m, m ∈ [2, 3, 4, 5, 6] ->
        (beyondEnd.sources.line? beyondEnd.path m).any (fun t => t.toList.contains 'f') =
          false := by
      decide +kernel
    by_contra hlt
    have hbelow : n ∈ [2, 3, 4, 5, 6] := by
      have hle : n ≤ 6 := hn.2
      simp only [List.mem_cons, List.not_mem_nil, or_false]
      omega
    have hfalse := hnot n hbelow
    rw [htext, Option.any_some, List.contains_iff_mem.mpr hmem] at hfalse
    cases hfalse

theorem isLeast_braces_beyondEnd : IsLeast (beyondEnd.braces 1) 2 := by
  constructor
  · exact ⟨⟨by decide, by decide⟩, "\x7b", by decide +kernel, by decide⟩
  · rintro n ⟨hn, text, htext, hbrace⟩
    by_contra hlt
    have hfirst : n = 1 := Nat.le_antisymm (Nat.le_of_lt_succ (Nat.not_le.mp hlt)) hn.1
    have hline : beyondEnd.sources.line? beyondEnd.path 1 = some "int f(int n)" := by
      decide +kernel
    rw [hfirst, hline] at htext
    rw [← Option.some.inj htext] at hbrace
    exact absurd hbrace (by decide)

theorem found?_answers_beyondEnd :
    beyondEnd.line ≤ maxLine ∧ beyondEnd.found? = some 2 ∧
      offsetOf beyondEnd.sources beyondEnd.settings findingBeyondEnd beyondEnd.path =
        .scanned 4 := by
  have hline : beyondEnd.line ≤ maxLine := by decide
  rcases found?_answers hline with ⟨hanswers, _, _, hoffset, _⟩
  have hfound : beyondEnd.found? = some 2 :=
    (hanswers _).mpr (.brace isGreatest_declarations_beyondEnd isLeast_braces_beyondEnd)
  have hfor : beyondEnd.IsFor findingBeyondEnd := ⟨rfl, rfl, rfl⟩
  refine ⟨hline, hfound, ?_⟩
  rw [hoffset _ hfor, hfound]
  rfl

end Search
end Identity
end FindingLedger
