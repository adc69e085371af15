import FindingLedger.Proofs.Identity.BodyOffset
import FindingLedger.Proofs.Source.LineEnds

/-!
# Files that are laid out differently

A finding keeps its identity when its file is laid out differently: with other ends of lines,
other indentation or blanks at the ends of lines. Blanks between the words of a line count only
for the search of declarations, where they can make a difference in front of the name.
-/

namespace FindingLedger
namespace Identity

/-!
# Names between blanks

A blank belongs to no word. So where the line begins or ends with one, the edges of words and
the gaps before parentheses are as they would be without it.
-/

section Names

variable {name line left : List Char} {c : Char}

theorem wordSide_of_blank (hc : Text.isBlank c = true) :
    Anchor.wordSide false (some c) = false := by
  rw [Anchor.wordSide, if_neg Bool.false_ne_true]
  exact Text.isWord_of_isBlank hc

theorem edgeBetween_cons_of_blank (hc : Text.isBlank c = true) (after : Option Char) :
    EdgeBetween (c :: left).getLast? after <-> EdgeBetween left.getLast? after := by
  cases left with
  | nil =>
      rw [List.getLast?_singleton, List.getLast?_nil, EdgeBetween, EdgeBetween,
        wordSide_of_blank hc, Anchor.wordSide]
  | cons d left =>
      rw [List.getLast?_cons_cons]

theorem not_edgeBetween_of_blank (hc : Text.isBlank c = true) :
    ¬ EdgeBetween none (some c) := by
  rw [EdgeBetween, wordSide_of_blank hc, Anchor.wordSide]
  exact not_not_intro rfl

theorem standsIn_cons_of_blank (hname : name ≠ []) (hc : Text.isBlank c = true) :
    StandsIn name (c :: line) <-> StandsIn name line := by
  constructor
  · rintro ⟨left, gap, right, hline, hedge, hgap⟩
    cases left with
    | nil =>
        -- The name would begin with the blank, where no word begins or ends.
        rcases List.exists_cons_of_ne_nil hname with ⟨d, ds, rfl⟩
        cases (List.cons.inj hline).1
        exact absurd hedge (not_edgeBetween_of_blank hc)
    | cons d left =>
        cases (List.cons.inj hline).1
        rw [edgeBetween_cons_of_blank hc] at hedge
        exact ⟨left, gap, right, (List.cons.inj hline).2, hedge, hgap⟩
  · rintro ⟨left, gap, right, rfl, hedge, hgap⟩
    rw [← edgeBetween_cons_of_blank hc] at hedge
    exact ⟨c :: left, gap, right, rfl, hedge, hgap⟩

theorem standsIn_concat_of_blank (hc : Text.isBlank c = true) :
    StandsIn name (line ++ [c]) <-> StandsIn name line := by
  constructor
  · rintro ⟨left, gap, right, hline, hedge, hgap⟩
    rcases List.eq_nil_or_concat right with rfl | ⟨front, d, rfl⟩
    · -- The line would end with the parenthesis.
      cases (List.append_inj' hline rfl).2
      cases hc
    · rw [List.concat_eq_append, ← List.cons_append, ← List.append_assoc] at hline
      exact ⟨left, gap, front, (List.append_inj' hline rfl).1, hedge, hgap⟩
  · rintro ⟨left, gap, right, rfl, hedge, hgap⟩
    refine ⟨left, gap, right ++ [c], ?_, hedge, hgap⟩
    rw [List.append_assoc, List.cons_append]

theorem occursIn_declarationOf_trimChars (hname : name ≠ []) :
    (declarationOf name).occursIn (Text.trimChars line) = (declarationOf name).occursIn line := by
  rw [Bool.eq_iff_iff, occursIn_declarationOf_iff_standsIn hname,
    occursIn_declarationOf_iff_standsIn hname]
  apply (Text.iff_trimChars (StandsIn name) ?_ ?_ line).symm
  · intro c cs hc
    exact standsIn_cons_of_blank hname hc
  · intro c cs hc
    exact standsIn_concat_of_blank hc

theorem contains_trimChars {d : Char} (hd : Text.isBlank d = false) :
    (Text.trimChars line).contains d = line.contains d := by
  have hother : forall c, Text.isBlank c = true -> d ≠ c := by
    rintro c hc rfl
    rw [hd] at hc
    cases hc
  rw [Bool.eq_iff_iff, List.contains_iff_mem, List.contains_iff_mem]
  apply (Text.iff_trimChars (fun cs => d ∈ cs) ?_ ?_ line).symm
  · intro c cs hc
    rw [List.mem_cons, or_iff_right (hother c hc)]
  · intro c cs hc
    rw [List.mem_append, List.mem_singleton, or_iff_left (hother c hc)]

end Names

/-!
# Lines that are read alike
-/

theorem map_eq_map_cases {α β : Type} {f : α -> β} {o p : Option α}
    (h : o.map f = p.map f) :
    (o = none ∧ p = none) ∨ exists a b, o = some a ∧ p = some b ∧ f a = f b := by
  cases o with
  | none =>
      exact Or.inl ⟨rfl, Option.map_eq_none_iff.mp h.symm⟩
  | some a =>
      rcases Option.map_eq_some_iff.mp h.symm with ⟨b, hb, heq⟩
      exact Or.inr ⟨a, b, rfl, hb, heq.symm⟩

/-- Whether the lines of two files agree in a form of them. -/
def Alike {α : Type} (form : String -> α) (line? other? : Nat -> Option String) : Prop :=
  forall n, (line? n).map form = (other? n).map form

section Alike

variable {α β : Type} {form : String -> α} {line? other? : Nat -> Option String}

theorem Alike.coarser (h : Alike form line? other?) {coarse : String -> β}
    (hcoarse : forall s t, form s = form t -> coarse s = coarse t) :
    Alike coarse line? other? := by
  intro n
  rcases map_eq_map_cases (h n) with ⟨hline, hother⟩ | ⟨s, t, hline, hother, hform⟩
  · rw [hline, hother]
  · rw [hline, hother, Option.map_some, Option.map_some, hcoarse s t hform]

theorem alike_of_hasFile {sources others : Sources} {path otherPath : String}
    {file other : Bytes} (hfile : sources.HasFile path file)
    (hother : others.HasFile otherPath other)
    (hlines : (Source.lines file).map form = (Source.lines other).map form) :
    Alike form (sources.line? path) (others.line? otherPath) := by
  intro n
  cases n with
  | zero =>
      rw [hfile.hasLines.1, hother.hasLines.1]
  | succ n =>
      have hread := congrArg (fun texts => texts[n]?) hlines
      simp only [List.getElem?_map] at hread
      rw [hfile.hasLines.2, hother.hasLines.2]
      exact hread

theorem gather_eq_of_alike (h : Alike Text.squeeze line? other?)
    (wanted steps distance : Nat) :
    gather line? wanted steps distance = gather other? wanted steps distance := by
  induction steps generalizing wanted distance with
  | zero =>
      rfl
  | succ steps ih =>
      rw [gather, gather]
      rcases map_eq_map_cases (h distance) with ⟨hline, hother⟩ | ⟨s, t, hline, hother, hsqueeze⟩
      · rw [hline, hother]
      · simp only [hline, hother, hsqueeze, ih]

end Alike

section Files

variable {sources others : Sources} {path otherPath : String}

/-- What is read off a line without regard to blanks at its ends is the same for lines that
agree but for these. -/
theorem lineMeets_eq_of_alike
    (h : Alike Text.trim (sources.line? path) (others.line? otherPath))
    {p : List Char -> Bool} (hp : forall cs, p (Text.trimChars cs) = p cs) :
    lineMeets sources path p = lineMeets others otherPath p := by
  funext n
  have hform : Alike (fun line => p line.toList) (sources.line? path)
      (others.line? otherPath) := by
    apply h.coarser
    intro s t hst
    rw [← hp s.toList, Text.trimChars_eq_of_trim_eq hst, hp]
  unfold lineMeets
  rcases map_eq_map_cases (hform n) with ⟨hline, hother⟩ | ⟨s, t, hline, hother, hmeets⟩
  · rw [hline, hother]
  · rw [hline, hother]
    exact hmeets

theorem contextStart?_eq_of_alike
    (h : Alike Text.trim (sources.line? path) (others.line? otherPath)) (settings : Settings)
    (context : String) (line : Nat) :
    contextStart? sources settings context path line =
      contextStart? others settings context otherPath line := by
  cases hpattern : declaration? context with
  | none =>
      simp only [contextStart?, hpattern]
  | some pattern =>
      rcases bareName_ne_nil_of_declaration? hpattern with ⟨hname, hdeclaration⟩
      have hdeclares : lineMeets sources path pattern.occursIn =
          lineMeets others otherPath pattern.occursIn := by
        apply lineMeets_eq_of_alike h
        intro cs
        rw [hdeclaration]
        exact occursIn_declarationOf_trimChars hname
      have hbrace : holdsBrace sources path = holdsBrace others otherPath :=
        lineMeets_eq_of_alike h fun cs => contains_trimChars rfl
      rw [contextStart?_of_pattern hpattern, contextStart?_of_pattern hpattern, hdeclares, hbrace]

end Files

/-!
# Findings in two versions of a file
-/

namespace Occurrence

/-- One finding in two versions of a file. -/
structure Reformatted (o p : Occurrence) (file other : Bytes) : Prop where
  finding : p.finding = o.finding
  settings : p.settings = o.settings
  path : p.path = o.path
  hasFile : o.sources.HasFile o.path file
  hasOther : p.sources.HasFile p.path other

namespace Reformatted

variable {o p : Occurrence} {file other : Bytes}

theorem contentKey_eq (h : o.Reformatted p file other)
    (hsqueeze : Alike Text.squeeze (o.sources.line? o.path) (p.sources.line? p.path)) :
    contentKey p.sources p.settings p.finding p.path =
      contentKey o.sources o.settings o.finding o.path := by
  have habove : o.above = p.above := by
    unfold above linesAbove
    rw [h.finding, h.settings, gather_eq_of_alike fun distance => hsqueeze _]
  have hbelow : o.below = p.below := by
    unfold below linesBelow
    rw [h.finding, h.settings, gather_eq_of_alike fun distance => hsqueeze _]
  have hline : o.line?.map Text.squeeze = p.line?.map Text.squeeze := by
    unfold line?
    rw [h.finding, hsqueeze]
  rcases map_eq_map_cases hline with ⟨ho, hp⟩ | ⟨s, t, ho, hp, hsame⟩
  · rw [contentKey_of_no_line ho, contentKey_of_no_line hp, h.finding, h.path]
  · rw [contentKey_of_line ho, contentKey_of_line hp, h.finding, habove, hbelow, hsame]

theorem contextKey_eq (h : o.Reformatted p file other)
    (htrim : Alike Text.trim (o.sources.line? o.path) (p.sources.line? p.path)) :
    contextKey p.sources p.settings p.finding p.path =
      contextKey o.sources o.settings o.finding o.path := by
  have hoffset : offsetOf p.sources p.settings o.finding p.path =
      offsetOf o.sources o.settings o.finding o.path := by
    unfold offsetOf
    rw [h.settings]
    simp only [contextStart?_eq_of_alike htrim]
  rw [contextKey, contextKey, h.finding, hoffset]

theorem content_eq (h : o.Reformatted p file other)
    (hwords : (Source.lines file).map (fun line => Text.wordsOf line.toList) =
      (Source.lines other).map fun line => Text.wordsOf line.toList) :
    p.identity.contentHash = o.identity.contentHash ∧
      p.identity.degraded = o.identity.degraded := by
  have hsqueeze := (alike_of_hasFile h.hasFile h.hasOther hwords).coarser
    fun s t => Text.squeeze_eq_of_wordsOf_eq
  have hkey := h.contentKey_eq hsqueeze
  constructor
  · show hashText (canonical (contentKey _ _ _ _).fields) = _
    rw [hkey]
    rfl
  · show (contentKey _ _ _ _).isDegraded = _
    rw [hkey]
    rfl

theorem identity_eq_of_trim_eq (h : o.Reformatted p file other)
    (hlines : (Source.lines file).map Text.trim = (Source.lines other).map Text.trim) :
    p.identity = o.identity := by
  have htrim := alike_of_hasFile h.hasFile h.hasOther hlines
  have hsqueeze : Alike Text.squeeze (o.sources.line? o.path) (p.sources.line? p.path) := by
    apply htrim.coarser
    intro s t hst
    exact Text.squeeze_eq_of_wordsOf_eq (Text.wordsOf_eq_of_trim_eq hst)
  unfold identity Identity.of
  rw [h.contentKey_eq hsqueeze, h.contextKey_eq htrim]

/-- Blanks at the ends of lines, and how the lines end, change nothing in the identity of a
finding; blanks between the words of lines change nothing in the identity of its content. -/
theorem identity_eq_of_lines_alike (h : o.Reformatted p file other) :
    ((Source.lines file).map Text.trim = (Source.lines other).map Text.trim ->
      p.identity = o.identity) ∧
    (other = Source.withReturns file -> p.identity = o.identity) ∧
    ((Source.lines file).map (fun line => Text.wordsOf line.toList) =
        (Source.lines other).map (fun line => Text.wordsOf line.toList) ->
      p.identity.contentHash = o.identity.contentHash ∧
        p.identity.degraded = o.identity.degraded) := by
  refine ⟨h.identity_eq_of_trim_eq, ?_, h.content_eq⟩
  rintro rfl
  exact h.identity_eq_of_trim_eq (Source.map_trim_lines_withReturns file).symm

def inVersion (file : Bytes) : Occurrence :=
  { inOneLine "  return n - 1;" with sources := .ofFiles [("a.c", file)] }

theorem reformatted_inVersion (file other : Bytes) :
    (inVersion file).Reformatted (inVersion other) file other where
  finding := rfl
  settings := rfl
  path := rfl
  hasFile := Sources.hasFile_ofFiles [] "a.c" file
  hasOther := Sources.hasFile_ofFiles [] "a.c" other

theorem identity_of_oneLine_reformatted :
    let file := Text.bytesOf "int f(int n) \x7b\n  return n - 1;\n\x7d\n"
    let tabbed := Text.bytesOf "int f(int n) \x7b  \r\n\treturn n - 1;\n \x7d"
    let spread := Text.bytesOf "int  f(int  n)  \x7b\nreturn n  -  1;\n\x7d\n"
    (inVersion tabbed).identity = (inVersion file).identity ∧
      (inVersion (Source.withReturns file)).identity = (inVersion file).identity ∧
      (inVersion spread).identity.contentHash = (inVersion file).identity.contentHash ∧
      (inVersion spread).identity.degraded = (inVersion file).identity.degraded := by
  intro file tabbed spread
  refine ⟨?_, ?_, ?_⟩
  · apply (identity_eq_of_lines_alike (reformatted_inVersion file tabbed)).1
    decide +kernel
  · exact (identity_eq_of_lines_alike (reformatted_inVersion file _)).2.1 rfl
  · apply (identity_eq_of_lines_alike (reformatted_inVersion file spread)).2.2
    decide +kernel

end Reformatted
end Occurrence
end Identity
end FindingLedger
