import FindingLedger.Identity.Basic
import FindingLedger.Proofs.Identity.Canonical
import FindingLedger.Proofs.Identity.Surroundings
import FindingLedger.Proofs.Text.Numerals

/-!
# What the texts of the keys tell

The two texts that are digested for a finding tell as much as they are meant to tell: two
findings have the same texts exactly if they agree in what is said to identify them. Texts
made for different purposes are never the same.
-/

namespace FindingLedger
namespace Identity

/-!
# Numbers as text
-/

theorem intText_inj {m n : Int} : toString m = toString n <-> m = n := by
  constructor
  · intro h
    have hread := congrArg (fun text : String => Text.readSigned? text.toList) h
    simp only [Text.readSigned?_toString] at hread
    exact Option.some.inj hread
  · intro h
    rw [h]

theorem natText_inj {m n : Nat} : toString m = toString n <-> m = n := by
  have hcast : forall k : Nat, toString k = toString (k : Int) := fun _ => rfl
  rw [hcast, hcast, intText_inj, Int.natCast_inj]

theorem at_not_mem_natText (n : Nat) : '@' ∉ n.repr.toList := by
  intro h
  rw [Nat.toList_repr] at h
  exact absurd (Text.isDigit_of_mem_numeral h) (by decide)

theorem at_not_mem_intText (n : Int) : '@' ∉ (toString n).toList := by
  intro h
  rw [Int.toString_eq_repr, Int.repr_eq_if] at h
  split at h
  · exact at_not_mem_natText n.toNat h
  · rw [String.toList_append, List.mem_append] at h
    rcases h with h | h
    · exact absurd h (by decide)
    · exact at_not_mem_natText (-n).toNat h

/-!
# Offsets
-/

/-- Whether two offsets count as one. It does not matter who says how far a finding lies
below the beginning of its context. -/
def Offset.Agrees : Offset -> Offset -> Prop
  | .absolute line, .absolute other => line = other
  | .absolute _, _ => False
  | _, .absolute _ => False
  | .declared lines, .declared others => lines = others
  | .declared lines, .scanned others => lines = others
  | .scanned lines, .declared others => lines = others
  | .scanned lines, .scanned others => lines = others

theorem absoluteText_ne_intText (line : Nat) (lines : Int) :
    "@" ++ toString line ≠ toString lines := by
  intro h
  refine at_not_mem_intText lines ?_
  rw [← h, String.toList_append]
  exact List.mem_append_left _ (by decide)

theorem Offset.text_eq_iff {a b : Offset} : a.text = b.text <-> a.Agrees b := by
  cases a with
  | declared lines =>
      cases b with
      | declared others =>
          exact intText_inj
      | scanned others =>
          exact intText_inj
      | absolute other =>
          exact iff_of_false (absoluteText_ne_intText other lines).symm id
  | scanned lines =>
      cases b with
      | declared others =>
          exact intText_inj
      | scanned others =>
          exact intText_inj
      | absolute other =>
          exact iff_of_false (absoluteText_ne_intText other lines).symm id
  | absolute line =>
      cases b with
      | declared others =>
          exact iff_of_false (absoluteText_ne_intText line others) id
      | scanned others =>
          exact iff_of_false (absoluteText_ne_intText line others) id
      | absolute other =>
          exact (String.append_right_inj "@").trans natText_inj

/-!
# Keys
-/

/-- Whether the lines around a finding can stand for single lines. -/
def ContentKey.Lined : ContentKey -> Prop
  | .text _ _ _ above below =>
      (forall line, line ∈ above -> IsLine line) ∧ (forall line, line ∈ below -> IsLine line)
  | .place .. => True

theorem ContentKey.fields_inj {k l : ContentKey} (hk : k.Lined) (hl : l.Lined) :
    k.fields = l.fields <-> k = l := by
  constructor
  · intro h
    cases k with
    | text checker context line above below =>
        cases l with
        | text checker' context' line' above' below' =>
            simp only [ContentKey.fields, List.cons.injEq, true_and, and_true] at h
            rcases h with ⟨hchecker, hcontext, hline, habove, hbelow⟩
            rw [hchecker, hcontext, hline, (joinLines_inj hk.1 hl.1).mp habove,
              (joinLines_inj hk.2 hl.2).mp hbelow]
        | place =>
            exact absurd (List.cons.inj h).1 (by decide)
    | place checker context file line column =>
        cases l with
        | text =>
            exact absurd (List.cons.inj h).1 (by decide)
        | place checker' context' file' line' column' =>
            simp only [ContentKey.fields, List.cons.injEq, true_and, and_true] at h
            rcases h with ⟨hchecker, hcontext, hfile, hline, hcolumn⟩
            rw [hchecker, hcontext, hfile, natText_inj.mp hline, natText_inj.mp hcolumn]
  · intro h
    rw [h]

theorem ContextKey.fields_eq_iff {k l : ContextKey} :
    k.fields = l.fields <->
      k.checker = l.checker ∧ k.context = l.context ∧ k.offset.Agrees l.offset := by
  rw [← Offset.text_eq_iff]
  simp only [ContextKey.fields, List.cons.injEq, true_and, and_true]

theorem ContentKey.fields_ne_contextFields (k : ContentKey) (l : ContextKey) :
    k.fields ≠ l.fields := by
  intro h
  cases k with
  | text =>
      exact absurd (List.cons.inj h).1 (by decide)
  | place =>
      exact absurd (List.cons.inj h).1 (by decide)

/-!
# Findings and their texts
-/

/-- A finding in a file, with the sources and the settings by which it is identified. -/
structure Occurrence where
  sources : Sources
  settings : Settings
  finding : Finding
  path : String

namespace Occurrence

def line? (o : Occurrence) : Option String :=
  o.sources.line? o.path o.finding.location.line

def above (o : Occurrence) : List String :=
  linesAbove o.sources o.settings o.path o.finding.location.line

def below (o : Occurrence) : List String :=
  linesBelow o.sources o.settings o.path o.finding.location.line

def offset (o : Occurrence) : Offset :=
  offsetOf o.sources o.settings o.finding o.path

def identity (o : Occurrence) : Identity :=
  Identity.of o.sources o.settings o.finding o.path

def contentText (o : Occurrence) : String :=
  canonical (contentKey o.sources o.settings o.finding o.path).fields

def contextText (o : Occurrence) : String :=
  canonical (contextKey o.sources o.settings o.finding o.path).fields

/-- Agreement in what identifies findings whose source text is missing. -/
def SamePlace (o p : Occurrence) : Prop :=
  o.finding.checker = p.finding.checker ∧ o.finding.context = p.finding.context ∧
    o.path = p.path ∧ o.finding.location.line = p.finding.location.line ∧
    o.finding.location.column = p.finding.location.column

/-- Agreement in what identifies findings by their source text. -/
def SameLines (o p : Occurrence) : Prop :=
  o.finding.checker = p.finding.checker ∧ o.finding.context = p.finding.context ∧
    o.line?.map Text.squeeze = p.line?.map Text.squeeze ∧ o.above = p.above ∧
    o.below = p.below

/-- Agreement in what identifies the places of findings in their contexts. -/
def SameContext (o p : Occurrence) : Prop :=
  o.finding.checker = p.finding.checker ∧ o.finding.context = p.finding.context ∧
    o.offset.Agrees p.offset

theorem contentKey_of_line {o : Occurrence} {text : String} (h : o.line? = some text) :
    contentKey o.sources o.settings o.finding o.path =
      .text o.finding.checker o.finding.context (Text.squeeze text) o.above o.below := by
  unfold line? at h
  rw [contentKey, h]
  rfl

theorem contentKey_of_no_line {o : Occurrence} (h : o.line? = none) :
    contentKey o.sources o.settings o.finding o.path =
      .place o.finding.checker o.finding.context o.path o.finding.location.line
        o.finding.location.column := by
  unfold line? at h
  rw [contentKey, h]

theorem lined_contentKey (o : Occurrence) :
    (contentKey o.sources o.settings o.finding o.path).Lined := by
  cases h : o.line? with
  | none =>
      rw [contentKey_of_no_line h]
      trivial
  | some text =>
      rw [contentKey_of_line h]
      exact ⟨isLine_of_mem_linesAbove, isLine_of_mem_linesBelow⟩

theorem contentText_eq_iff_contentKey_eq {o p : Occurrence} :
    o.contentText = p.contentText <->
      contentKey o.sources o.settings o.finding o.path =
        contentKey p.sources p.settings p.finding p.path :=
  canonical_inj.trans (ContentKey.fields_inj o.lined_contentKey p.lined_contentKey)

theorem degraded_eq (o : Occurrence) : o.identity.degraded = o.line?.isNone := by
  rw [identity, Identity.of]
  cases h : o.line? with
  | none =>
      rw [contentKey_of_no_line h]
      rfl
  | some text =>
      rw [contentKey_of_line h]
      rfl

theorem contentText_eq_iff {o p : Occurrence} :
    o.contentText = p.contentText <->
      (o.identity.degraded = true ∧ p.identity.degraded = true ∧ o.SamePlace p) ∨
      (o.identity.degraded = false ∧ p.identity.degraded = false ∧ o.SameLines p) := by
  rw [contentText_eq_iff_contentKey_eq, degraded_eq, degraded_eq, SameLines]
  cases ho : o.line? with
  | none =>
      rw [contentKey_of_no_line ho]
      cases hp : p.line? with
      | none =>
          rw [contentKey_of_no_line hp, ContentKey.place.injEq]
          simp [SamePlace]
      | some text =>
          rw [contentKey_of_line hp]
          simp
  | some text =>
      rw [contentKey_of_line ho]
      cases hp : p.line? with
      | none =>
          rw [contentKey_of_no_line hp]
          simp
      | some other =>
          rw [contentKey_of_line hp, ContentKey.text.injEq]
          simp

theorem contextText_eq_iff {o p : Occurrence} :
    o.contextText = p.contextText <-> o.SameContext p :=
  canonical_inj.trans ContextKey.fields_eq_iff

theorem contentText_ne_contextText (o p : Occurrence) : o.contentText ≠ p.contextText := by
  intro h
  exact ContentKey.fields_ne_contextFields _ _ (canonical_inj.mp h)

theorem degraded_eq_of_contentText_eq {o p : Occurrence}
    (h : o.contentText = p.contentText) : o.identity.degraded = p.identity.degraded := by
  rcases contentText_eq_iff.mp h with ⟨ho, hp, _⟩ | ⟨ho, hp, _⟩
  · rw [ho, hp]
  · rw [ho, hp]

/-- The digested texts tell exactly what identifies a finding, and what they were made
for. -/
theorem texts_tell_identity (o p : Occurrence) :
    o.identity.contentHash = hashText o.contentText ∧
    o.identity.contextHash = hashText o.contextText ∧
    (o.contentText = p.contentText <->
      (o.identity.degraded = true ∧ p.identity.degraded = true ∧ o.SamePlace p) ∨
      (o.identity.degraded = false ∧ p.identity.degraded = false ∧ o.SameLines p)) ∧
    (o.contextText = p.contextText <-> o.SameContext p) ∧
    o.contentText ≠ p.contextText ∧
    (o.identity.degraded ≠ p.identity.degraded -> o.contentText ≠ p.contentText) := by
  refine ⟨rfl, rfl, contentText_eq_iff, contextText_eq_iff, contentText_ne_contextText o p, ?_⟩
  intro hdegraded htext
  exact hdegraded (degraded_eq_of_contentText_eq htext)

/-- A finding in a file all of whose lines are the given text, or cannot be read. -/
def inUniformFile (text? : Option String) : Occurrence where
  sources := ⟨fun _ _ => text?, fun _ => none⟩
  settings := {}
  finding := {
    diagnostic := {
      category := "", type := "", description := "", checkerName := none
      location := ⟨0, 3, 1⟩, contextName := none, contextKind := none, path := []
      notes := [], embeddedHash := none, functionOffset := none }
    checker := "core.DivideZero"
    provenance := .declared }
  path := "a.c"

theorem contentText_inUniformFile :
    (inUniformFile none).identity.degraded ≠
        (inUniformFile (some "x / 0;")).identity.degraded ∧
      (inUniformFile none).contentText ≠ (inUniformFile (some "x / 0;")).contentText := by
  have hdegraded : (inUniformFile none).identity.degraded ≠
      (inUniformFile (some "x / 0;")).identity.degraded := by
    decide
  exact ⟨hdegraded, (texts_tell_identity _ _).2.2.2.2.2 hdegraded⟩

end Occurrence
end Identity
end FindingLedger
