import FindingLedger.Proofs.Identity.Neighbours
import FindingLedger.Proofs.Identity.ShiftedLines

/-!
# Blank lines around findings

Blank lines that are put into a file part the lines around a finding and are not among those
that identify it. They change nothing in what identifies the content of a finding, as long as
the search still reaches the lines that it had found, and they do change it otherwise.
-/

namespace FindingLedger
namespace Identity

/-!
# Blank lines among others
-/

/-- Whether lines are others with any number of blank lines put before, between and after
them. -/
inductive Spaced : List String -> List String -> Prop where
  | nil : Spaced [] []
  | keep (line : String) {lines spaced : List String} (rest : Spaced lines spaced) :
      Spaced (line :: lines) (line :: spaced)
  | blank {line : String} {lines spaced : List String} (blank : Text.allBlank line = true)
      (rest : Spaced lines spaced) : Spaced lines (line :: spaced)

def filledWithin (steps : Nat) (lines : List String) : Nat :=
  (filled (lines.take steps)).length

/-- Whether as many lines that are not blank as identify a finding on one side of it are
within the reach of the search also where they are parted by blank lines. -/
def StillReached (settings : Settings) (lines spaced : List String) : Prop :=
  min settings.contextWindow (filledWithin (reach settings) lines) ≤
    filledWithin (reach settings) spaced

theorem Spaced.append {lines spaced others more : List String} (h : Spaced lines spaced)
    (h' : Spaced others more) : Spaced (lines ++ others) (spaced ++ more) := by
  induction h with
  | nil =>
      exact h'
  | keep line _ ih =>
      exact Spaced.keep line ih
  | blank hblank _ ih =>
      exact Spaced.blank hblank ih

theorem Spaced.reverse {lines spaced : List String} (h : Spaced lines spaced) :
    Spaced lines.reverse spaced.reverse := by
  induction h with
  | nil =>
      exact Spaced.nil
  | keep line _ ih =>
      rw [List.reverse_cons, List.reverse_cons]
      exact ih.append (Spaced.keep line Spaced.nil)
  | @blank line lines _ hblank _ ih =>
      rw [List.reverse_cons, ← List.append_nil lines.reverse]
      exact ih.append (Spaced.blank hblank Spaced.nil)

theorem Spaced.filled_eq {lines spaced : List String} (h : Spaced lines spaced) :
    filled spaced = filled lines := by
  induction h with
  | nil =>
      rfl
  | keep line _ ih =>
      cases hblank : Text.allBlank line with
      | true =>
          rw [filled_cons_of_blank hblank, filled_cons_of_blank hblank, ih]
      | false =>
          rw [filled_cons_of_filled hblank, filled_cons_of_filled hblank, ih]
  | blank hblank _ ih =>
      rw [filled_cons_of_blank hblank, ih]

theorem filledWithin_mono {steps more : Nat} (h : steps ≤ more) (lines : List String) :
    filledWithin steps lines ≤ filledWithin more lines :=
  ((List.take_sublist_take_left h).filter _).length_le

theorem Spaced.filledWithin_le {lines spaced : List String} (h : Spaced lines spaced)
    (steps : Nat) : filledWithin steps spaced ≤ filledWithin steps lines := by
  induction h generalizing steps with
  | nil =>
      exact Nat.le_refl _
  | keep line _ ih =>
      cases steps with
      | zero =>
          exact Nat.le_refl 0
      | succ steps =>
          have hrest := ih steps
          unfold filledWithin at hrest ⊢
          rw [List.take_succ_cons, List.take_succ_cons]
          cases hblank : Text.allBlank line with
          | true =>
              rwa [filled_cons_of_blank hblank, filled_cons_of_blank hblank]
          | false =>
              rw [filled_cons_of_filled hblank, filled_cons_of_filled hblank]
              exact Nat.succ_le_succ hrest
  | @blank line lines spaced hblank _ ih =>
      cases steps with
      | zero =>
          exact Nat.zero_le _
      | succ steps =>
          refine Nat.le_trans ?_
            (Nat.le_trans (ih steps) (filledWithin_mono (Nat.le_succ steps) lines))
          unfold filledWithin
          rw [List.take_succ_cons, filled_cons_of_blank hblank]

theorem neighbours_eq_take (wanted steps : Nat) (lines : List String) :
    neighbours wanted steps lines =
      ((filled lines).take (min wanted (filledWithin steps lines))).map Text.squeeze := by
  have hfront : filled (lines.take steps) = (filled lines).take (filledWithin steps lines) :=
    List.prefix_iff_eq_take.mp ((List.take_prefix steps lines).filter _)
  rw [neighbours, hfront, List.take_take]

theorem length_neighbours (wanted steps : Nat) (lines : List String) :
    (neighbours wanted steps lines).length = min wanted (filledWithin steps lines) := by
  rw [neighbours, List.length_map, List.length_take, filledWithin]

theorem Spaced.neighbours_eq_iff {lines spaced : List String} (h : Spaced lines spaced)
    (settings : Settings) :
    neighbours settings.contextWindow (reach settings) spaced =
        neighbours settings.contextWindow (reach settings) lines <->
      StillReached settings lines spaced := by
  have hle := h.filledWithin_le (reach settings)
  unfold StillReached
  constructor
  · -- What is gathered is a beginning of the same lines, so only its length can differ.
    intro heq
    have hlength := congrArg List.length heq
    rw [length_neighbours, length_neighbours] at hlength
    omega
  · intro hreached
    have hcount : min settings.contextWindow (filledWithin (reach settings) spaced) =
        min settings.contextWindow (filledWithin (reach settings) lines) := by
      omega
    rw [neighbours_eq_take, neighbours_eq_take, h.filled_eq, hcount]

/-!
# Spaced files
-/

/-- The lines of a file around one of them, and what they are once blank lines have been put
among them. -/
structure Spacing where
  before : List String
  text : String
  after : List String
  spacedBefore : List String
  spacedAfter : List String
  spaced_before : Spaced before spacedBefore
  spaced_after : Spaced after spacedAfter

namespace Spacing

def lines (s : Spacing) : List String :=
  s.before ++ s.text :: s.after

def spacedLines (s : Spacing) : List String :=
  s.spacedBefore ++ s.text :: s.spacedAfter

/-- Whether the search still reaches, on both sides, the lines that it had found. -/
def KeepsNeighbours (s : Spacing) (settings : Settings) : Prop :=
  StillReached settings s.before.reverse s.spacedBefore.reverse ∧
    StillReached settings s.after s.spacedAfter

/-- Whether a finding in one file, `o`, is found again in another one, `p`, whose lines are
those of the first with blank lines put among them. -/
structure Moves (s : Spacing) (o p : Occurrence) : Prop where
  file : exists bytes, o.sources.HasFile o.path bytes ∧
    (Source.pieces bytes).map Source.lineText = s.lines
  spacedFile : exists bytes, p.sources.HasFile p.path bytes ∧
    (Source.pieces bytes).map Source.lineText = s.spacedLines
  settings : p.settings = o.settings
  finding : exists lines, p.finding = o.finding.movedDown lines
  line : o.finding.location.line = s.before.length + 1
  spacedLine : p.finding.location.line = s.spacedBefore.length + 1

variable {s : Spacing} {o p : Occurrence}

theorem Moves.hasLines (h : s.Moves o p) : o.sources.HasLines o.path s.lines := by
  rcases h.file with ⟨bytes, hfile, hlines⟩
  rw [← hlines]
  exact hfile.hasLines

theorem Moves.hasSpacedLines (h : s.Moves o p) :
    p.sources.HasLines p.path s.spacedLines := by
  rcases h.spacedFile with ⟨bytes, hfile, hlines⟩
  rw [← hlines]
  exact hfile.hasLines

theorem Moves.line?_eq (h : s.Moves o p) : o.line? = some s.text ∧ p.line? = some s.text := by
  constructor
  · rw [Occurrence.line?, h.line, h.hasLines.2, lines, List.getElem?_append_right
      (Nat.le_refl _), Nat.sub_self, List.getElem?_cons_zero]
  · rw [Occurrence.line?, h.spacedLine, h.hasSpacedLines.2, spacedLines,
      List.getElem?_append_right (Nat.le_refl _), Nat.sub_self, List.getElem?_cons_zero]

theorem Moves.above_eq_iff (h : s.Moves o p) :
    p.above = o.above <-> StillReached o.settings s.before.reverse s.spacedBefore.reverse := by
  rw [← s.spaced_before.reverse.neighbours_eq_iff, Occurrence.above, Occurrence.above, h.line,
    h.spacedLine, h.settings, linesAbove_eq_neighbours h.hasSpacedLines,
    linesAbove_eq_neighbours h.hasLines, List.reverse_inj]

theorem Moves.below_eq_iff (h : s.Moves o p) :
    p.below = o.below <-> StillReached o.settings s.after s.spacedAfter := by
  rw [← s.spaced_after.neighbours_eq_iff, Occurrence.below, Occurrence.below, h.line,
    h.spacedLine, h.settings, linesBelow_eq_neighbours h.hasSpacedLines,
    linesBelow_eq_neighbours h.hasLines]

theorem Moves.contentKey_eq_iff (h : s.Moves o p) :
    contentKey p.sources p.settings p.finding p.path =
        contentKey o.sources o.settings o.finding o.path <->
      s.KeepsNeighbours o.settings := by
  have hfields : p.finding.checker = o.finding.checker ∧
      p.finding.context = o.finding.context := by
    rcases h.finding with ⟨lines, hfinding⟩
    rw [hfinding]
    exact ⟨rfl, rfl⟩
  rw [Occurrence.contentKey_of_line h.line?_eq.1, Occurrence.contentKey_of_line h.line?_eq.2,
    ContentKey.text.injEq, h.above_eq_iff, h.below_eq_iff, hfields.1, hfields.2]
  simp only [true_and]
  exact Iff.rfl

/-- Blank lines never change whether a finding is identified without the source text, and
they keep the text that identifies its content, and so its hash, exactly as long as the lines
around it that were found are still reached. -/
theorem Moves.contentText_eq_iff_keepsNeighbours (h : s.Moves o p) :
    p.identity.degraded = o.identity.degraded ∧
      (p.contentText = o.contentText <-> s.KeepsNeighbours o.settings) ∧
      (s.KeepsNeighbours o.settings ->
        p.identity.contentHash = o.identity.contentHash) := by
  refine ⟨?_, ?_, ?_⟩
  · rw [Occurrence.degraded_eq, Occurrence.degraded_eq, h.line?_eq.1, h.line?_eq.2]
  · rw [Occurrence.contentText_eq_iff_contentKey_eq, h.contentKey_eq_iff]
  · intro hkeeps
    show hashText (canonical (contentKey _ _ _ _).fields) = _
    rw [h.contentKey_eq_iff.mpr hkeeps]
    rfl

def inFile (text : String) (line : Nat) (settings : Settings) : Occurrence where
  sources := .ofFiles [("a.c", Text.bytesOf text)]
  settings := settings
  finding := {
    diagnostic := {
      category := "", type := "", description := "", checkerName := none
      location := ⟨0, line, 1⟩, contextName := none, contextKind := none, path := []
      notes := [], embeddedHash := none, functionOffset := none }
    checker := "core.DivideZero"
    provenance := .declared }
  path := "a.c"

def aroundDivision : Spacing where
  before := ["int n;", "n = 0;"]
  text := "n = 1 / n;"
  after := ["use(n);"]
  spacedBefore := ["", "int n;", "  ", "n = 0;", "\t"]
  spacedAfter := ["", "use(n);", ""]
  spaced_before := .blank rfl (.keep _ (.blank rfl (.keep _ (.blank rfl .nil))))
  spaced_after := .blank rfl (.keep _ (.blank rfl .nil))

theorem contentText_eq_iff_keepsNeighbours_aroundDivision :
    let settings : Settings := { contextWindow := 2, maxContextScan := 4 }
    let o := inFile "int n;\nn = 0;\nn = 1 / n;\nuse(n);\n" 3 settings
    let p := inFile "\nint n;\n  \nn = 0;\n\t\nn = 1 / n;\n\nuse(n);\n\n" 6 settings
    aroundDivision.Moves o p ∧ aroundDivision.KeepsNeighbours settings ∧
      p.identity.degraded = o.identity.degraded ∧
      (p.contentText = o.contentText <-> aroundDivision.KeepsNeighbours settings) ∧
      p.identity.contentHash = o.identity.contentHash := by
  intro settings o p
  have hmoves : aroundDivision.Moves o p :=
    { file := ⟨_, Sources.hasFile_ofFiles [] "a.c" _, by decide +kernel⟩
      spacedFile := ⟨_, Sources.hasFile_ofFiles [] "a.c" _, by decide +kernel⟩
      settings := rfl
      finding := ⟨3, rfl⟩
      line := rfl
      spacedLine := rfl }
  have hkeeps : aroundDivision.KeepsNeighbours settings := by
    unfold KeepsNeighbours StillReached
    decide +kernel
  rcases hmoves.contentText_eq_iff_keepsNeighbours with ⟨hdegraded, htext, hhash⟩
  exact ⟨hmoves, hkeeps, hdegraded, htext, hhash hkeeps⟩

def aboveDivision : Spacing where
  before := ["n = 0;"]
  text := "n = 1 / n;"
  after := []
  spacedBefore := ["n = 0;", ""]
  spacedAfter := []
  spaced_before := .keep _ (.blank rfl .nil)
  spaced_after := .nil

/-- The hash of the content depends on a blank line that moves a line out of the reach of the
search. -/
theorem not_contentHash_eq_of_moves :
    ¬ forall (s : Spacing) (o p : Occurrence), s.Moves o p -> o.settings.check = .ok () ->
      s.spacedLines.length < maxLine ->
      p.identity.contentHash = o.identity.contentHash ∧
        p.identity.degraded = o.identity.degraded := by
  intro hall
  have hmoves : aboveDivision.Moves
      (inFile "n = 0;\nn = 1 / n;\n" 2 { maxContextScan := 0 })
      (inFile "n = 0;\n\nn = 1 / n;\n" 3 { maxContextScan := 0 }) :=
    { file := ⟨_, Sources.hasFile_ofFiles [] "a.c" _, by decide +kernel⟩
      spacedFile := ⟨_, Sources.hasFile_ofFiles [] "a.c" _, by decide +kernel⟩
      settings := rfl
      finding := ⟨1, rfl⟩
      line := rfl
      spacedLine := rfl }
  have hsame := (hall _ _ _ hmoves rfl (by decide)).1
  exact absurd hsame (by decide +kernel)

end Spacing
end Identity
end FindingLedger
