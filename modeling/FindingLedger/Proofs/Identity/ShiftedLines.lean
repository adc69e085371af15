import FindingLedger.Proofs.Identity.BodyOffset
import FindingLedger.Proofs.Identity.ContextStart
import FindingLedger.Proofs.Identity.Keys
import FindingLedger.Proofs.Source.Lines

/-!
# Findings whose lines have been moved

Text that is put before a file, or after it, gives its lines other numbers and leaves their
texts. A finding that moves with its line keeps the identity of its content if there are
enough lines around it, and that of its context if the beginning of the context is known.
-/

namespace FindingLedger

/-- The finding so many lines further down. -/
def Finding.movedDown (f : Finding) (lines : Nat) : Finding :=
  { f with
    diagnostic :=
      { f.diagnostic with
        location := { f.diagnostic.location with line := f.diagnostic.location.line + lines } } }

namespace Identity

/-- Whether each line that can be read in one file can be read in another one so many lines
further down. -/
def Shifted (line? other? : Nat -> Option String) (lines : Nat) : Prop :=
  forall n text, line? n = some text -> other? (n + lines) = some text

def Numbered (line? : Nat -> Option String) : Prop :=
  line? 0 = none ∧
    forall m n, 1 ≤ m -> m ≤ n -> (line? n).isSome = true -> (line? m).isSome = true

/-!
# The beginnings of contexts
-/

section Start

variable {sources others : Sources} {path otherPath : String} {lines : Nat}

theorem lineMeets_of_shifted (h : Shifted (sources.line? path) (others.line? otherPath) lines)
    {n : Nat} (hn : (sources.line? path n).isSome = true) (p : List Char -> Bool) :
    lineMeets others otherPath p (n + lines) = lineMeets sources path p n := by
  rcases Option.isSome_iff_exists.mp hn with ⟨text, htext⟩
  unfold lineMeets
  rw [htext, h n text htext]

theorem lowestLine_add_le (settings : Settings) (line lines : Nat) :
    lowestLine settings (line + lines) ≤ lowestLine settings line + lines := by
  unfold lowestLine
  omega

theorem nearestAbove_of_shifted {p q : Nat -> Bool} {lowest lowest' line n : Nat}
    (hpq : forall m, lowest ≤ m -> m ≤ line -> q (m + lines) = p m)
    (hlowest : lowest' ≤ lowest + lines) (h : NearestAbove p lowest line n) :
    NearestAbove q lowest' (line + lines) (n + lines) := by
  rcases h with ⟨hle, hline, hmeets, hpassed⟩
  refine ⟨by omega, by omega, ?_, ?_⟩
  · rw [hpq n hle hline]
    exact hmeets
  · intro m hnm hm
    have hshift : m = m - lines + lines := by omega
    rw [hshift, hpq (m - lines) (by omega) (by omega)]
    exact hpassed (m - lines) (by omega) (by omega)

theorem opens_of_shifted {p q : Nat -> Bool} {declared line start : Nat}
    (hpq : forall m, declared ≤ m -> m ≤ line -> q (m + lines) = p m)
    (h : Opens p declared line start) :
    Opens q (declared + lines) (line + lines) (start + lines) := by
  have hpassed : forall bound, bound ≤ line + 1 ->
      (forall m, declared ≤ m -> m < bound -> p m = false) ->
      forall m, declared + lines ≤ m -> m < bound + lines -> q m = false := by
    intro bound hbound hp m hm hlt
    have hshift : m = m - lines + lines := by omega
    rw [hshift, hpq (m - lines) (by omega) (by omega)]
    exact hp (m - lines) (by omega) (by omega)
  cases h with
  | brace hle hline hbrace hbefore =>
      refine Opens.brace (by omega) (by omega) ?_ (hpassed start (by omega) hbefore)
      rw [hpq start hle hline]
      exact hbrace
  | noBrace hnone =>
      refine Opens.noBrace ?_
      intro m hm hle
      exact hpassed (line + 1) (Nat.le_refl _) (fun m hm hlt => hnone m hm (by omega)) m hm
        (by omega)

theorem contextStart?_of_shifted
    (h : Shifted (sources.line? path) (others.line? otherPath) lines)
    (hnumbered : Numbered (sources.line? path)) {line : Nat}
    (hline : (sources.line? path line).isSome = true) {settings : Settings} {context : String}
    {start : Nat} (hstart : contextStart? sources settings context path line = some start) :
    contextStart? others settings context otherPath (line + lines) = some (start + lines) := by
  rw [contextStart?_eq_some_iff] at hstart ⊢
  rcases hstart with ⟨pattern, declared, hpattern, hnearest, hopens⟩
  have hlowest : 1 ≤ lowestLine settings line := Nat.le_max_left _ _
  have hmeets : forall (p : List Char -> Bool) (m : Nat), lowestLine settings line ≤ m ->
      m ≤ line -> lineMeets others otherPath p (m + lines) = lineMeets sources path p m := by
    intro p m hm hle
    exact lineMeets_of_shifted h (hnumbered.2 m line (by omega) hle hline) p
  refine ⟨pattern, declared + lines, hpattern, ?_, ?_⟩
  · exact nearestAbove_of_shifted (hmeets _) (lowestLine_add_le settings line lines) hnearest
  · refine opens_of_shifted ?_ hopens
    intro m hm hle
    exact hmeets _ m (Nat.le_trans hnearest.lowest_le hm) hle

end Start

namespace Occurrence

/-!
# The lines around
-/

def upward? (o : Occurrence) (distance : Nat) : Option String :=
  o.sources.line? o.path (o.finding.location.line - distance)

def downward? (o : Occurrence) (distance : Nat) : Option String :=
  o.sources.line? o.path (o.finding.location.line + distance)

/-- Whether a reading finds as many lines that are not blank as identify a finding, no further
away than the search for lines or for the beginning of a context goes. -/
def Enough (o : Occurrence) (read? : Nat -> Option String) : Prop :=
  o.settings.contextWindow ≤
    Nat.count (fun i => isFilled read? (1 + i) = true)
      (max o.settings.maxContextScan o.settings.contextWindow)

/-- Whether the finding `p` in its file is the finding `o` so many lines further down. No line
of the file of `o` has a number that 32 bits cannot hold. -/
structure MovedTo (o p : Occurrence) (lines : Nat) : Prop where
  settings_eq : p.settings = o.settings
  finding_eq : p.finding = o.finding.movedDown lines
  shifted : Shifted (o.sources.line? o.path) (p.sources.line? p.path) lines
  numbered : Numbered (o.sources.line? o.path)
  lt_maxLine : forall n, (o.sources.line? o.path n).isSome = true -> n < maxLine
  line : o.line?.isSome = true

theorem one_le_of_isSome_line? {line? : Nat -> Option String} (h : Numbered line?) {n : Nat}
    (hn : (line? n).isSome = true) : 1 ≤ n := by
  cases n with
  | zero =>
      rw [h.1] at hn
      cases hn
  | succ n =>
      exact Nat.succ_le_succ (Nat.zero_le n)

theorem count_le_count {p : Nat -> Prop} [DecidablePred p] {m n : Nat}
    (h : forall i, i < m -> p i -> i < n) : Nat.count p m ≤ Nat.count p n := by
  rw [Nat.count_eq_card_filter_range, Nat.count_eq_card_filter_range]
  refine Finset.card_le_card ?_
  intro i hi
  rw [Finset.mem_filter, Finset.mem_range] at hi ⊢
  exact ⟨h i hi.1 hi.2, hi.2⟩

theorem length_gather_of_enough {o : Occurrence} {read? : Nat -> Option String}
    (henough : o.Enough read?) {steps : Nat}
    (hclosed : forall m n, m ≤ n -> (read? n).isSome = true -> (read? m).isSome = true)
    (hsteps : forall i, i < max o.settings.maxContextScan o.settings.contextWindow ->
      (read? (1 + i)).isSome = true -> i < steps) :
    (gather read? o.settings.contextWindow steps 1).length = o.settings.contextWindow := by
  have hcount : o.settings.contextWindow ≤
      Nat.count (fun i => isFilled read? (1 + i) = true) steps := by
    refine Nat.le_trans henough (count_le_count ?_)
    intro i hi hfilled
    rw [isFilled, Option.any_eq_true] at hfilled
    rcases hfilled with ⟨text, htext, _⟩
    exact hsteps i hi (by rw [htext]; rfl)
  have hleast := min_count_le_length_gather hclosed o.settings.contextWindow steps 1
  rw [Nat.min_eq_left hcount] at hleast
  exact Nat.le_antisymm (length_gather_le _ _ _ _) hleast

section Moved

variable {o p : Occurrence} {lines : Nat} (h : o.MovedTo p lines)

include h

theorem MovedTo.location_line : p.finding.location.line = o.finding.location.line + lines := by
  rw [h.finding_eq]
  rfl

theorem MovedTo.one_le_line : 1 ≤ o.finding.location.line :=
  one_le_of_isSome_line? h.numbered h.line

theorem MovedTo.line?_eq : p.line? = o.line? := by
  rcases Option.isSome_iff_exists.mp h.line with ⟨text, htext⟩
  have hmoved := h.shifted o.finding.location.line text htext
  rw [line?, h.location_line, hmoved, htext]

theorem MovedTo.above_eq (henough : o.Enough o.upward?) : p.above = o.above := by
  have hline := h.one_le_line
  have hclosed : forall m n, m ≤ n -> (o.upward? n).isSome = true ->
      (o.upward? m).isSome = true := by
    intro m n hmn hn
    have hlower := one_le_of_isSome_line? h.numbered hn
    -- Nearer lines lie between that one and the line of the finding itself.
    exact h.numbered.2 _ o.finding.location.line (by omega) (by omega) h.line
  have hlength : (gather o.upward? o.settings.contextWindow
      (min (o.finding.location.line - 1) (reach o.settings)) 1).length =
      o.settings.contextWindow := by
    refine length_gather_of_enough henough hclosed ?_
    intro i hi hsome
    have hlower := one_le_of_isSome_line? h.numbered hsome
    have hupper := h.lt_maxLine _ h.line
    unfold reach
    omega
  have hother : forall n text, o.upward? n = some text -> p.upward? n = some text := by
    intro n text htext
    have hlower := one_le_of_isSome_line? h.numbered
      (show (o.upward? n).isSome = true by rw [htext]; rfl)
    have hmoved := h.shifted _ text htext
    unfold upward?
    rw [h.location_line]
    rw [show o.finding.location.line + lines - n = o.finding.location.line - n + lines by
      omega]
    exact hmoved
  have hgather := gather_eq_of_length_eq hother hlength
    (show _ ≤ min (o.finding.location.line + lines - 1) (reach o.settings) by omega)
  unfold above linesAbove
  rw [h.settings_eq]
  have hp : (fun distance => p.sources.line? p.path (p.finding.location.line - distance)) =
      p.upward? := rfl
  rw [hp, h.location_line, hgather]
  rfl

theorem MovedTo.below_eq (henough : o.Enough o.downward?) : p.below = o.below := by
  have hline := h.one_le_line
  have hclosed : forall m n, m ≤ n -> (o.downward? n).isSome = true ->
      (o.downward? m).isSome = true := by
    intro m n hmn hn
    exact h.numbered.2 _ _ (by omega) (by omega) hn
  have hlength : (gather o.downward? o.settings.contextWindow (reach o.settings) 1).length =
      o.settings.contextWindow := by
    refine length_gather_of_enough henough hclosed ?_
    intro i hi hsome
    have hupper := h.lt_maxLine _ hsome
    unfold reach
    omega
  have hother : forall n text, o.downward? n = some text -> p.downward? n = some text := by
    intro n text htext
    have hmoved := h.shifted _ text htext
    unfold downward?
    rw [h.location_line]
    rw [show o.finding.location.line + lines + n = o.finding.location.line + n + lines by
      omega]
    exact hmoved
  have hgather := gather_eq_of_length_eq hother hlength (Nat.le_refl (reach o.settings))
  unfold below linesBelow
  rw [h.settings_eq]
  exact hgather

/-!
# Identities
-/

theorem MovedTo.contentKey_eq (habove : o.Enough o.upward?) (hbelow : o.Enough o.downward?) :
    contentKey p.sources p.settings p.finding p.path =
      contentKey o.sources o.settings o.finding o.path := by
  rcases Option.isSome_iff_exists.mp h.line with ⟨text, htext⟩
  have hmoved : p.line? = some text := h.line?_eq.trans htext
  rw [contentKey_of_line hmoved, contentKey_of_line htext, h.above_eq habove,
    h.below_eq hbelow, h.finding_eq]
  rfl

/-- The offset in the context stays the same if it is declared or the beginning is found. -/
theorem MovedTo.offset_eq
    (hknown : o.finding.diagnostic.functionOffset.isSome = true ∨
      exists context, o.finding.diagnostic.contextName = some context ∧
        (contextStart? o.sources o.settings context o.path
          o.finding.location.line).isSome = true) :
    p.offset = o.offset := by
  have hoffset : p.finding.diagnostic.functionOffset =
      o.finding.diagnostic.functionOffset := by
    rw [h.finding_eq]
    rfl
  have hname : p.finding.diagnostic.contextName = o.finding.diagnostic.contextName := by
    rw [h.finding_eq]
    rfl
  unfold offset offsetOf
  rw [hoffset, hname, h.settings_eq, h.location_line]
  cases hdeclared : o.finding.diagnostic.functionOffset with
  | some lines =>
      rfl
  | none =>
      rcases hknown with hknown | ⟨context, hcontext, hstart⟩
      · rw [hdeclared] at hknown
        cases hknown
      · rcases Option.isSome_iff_exists.mp hstart with ⟨start, hstart⟩
        have hmoved := contextStart?_of_shifted h.shifted h.numbered h.line hstart
        rw [hcontext]
        dsimp only
        rw [hstart, hmoved]
        dsimp only
        congr 1
        omega

end Moved
end Occurrence

/-!
# Files between others
-/

theorem shifted_of_hasFile {sources others : Sources} {path otherPath : String}
    {before file after : Bytes} (hfile : sources.HasFile path file)
    (hother : others.HasFile otherPath (before ++ file ++ after))
    (hbefore : Source.WholeLines before) (hafter : after = [] ∨ Source.WholeLines file) :
    Shifted (sources.line? path) (others.line? otherPath) (Source.lineCount before) := by
  intro n text htext
  rw [hfile.2] at htext
  rw [hother.2]
  exact Source.File.line?_append hbefore hafter htext

theorem numbered_of_hasFile {sources : Sources} {path : String} {file : Bytes}
    (hfile : sources.HasFile path file) : Numbered (sources.line? path) := by
  constructor
  · rw [hfile.2]
    rfl
  · intro m n hm hmn hn
    rw [hfile.2, Source.File.isSome_line?_iff] at hn ⊢
    exact ⟨hm, Nat.le_trans hmn hn.2⟩

namespace Occurrence

/-- A finding in a file that has whole lines put before it, and others after it, moves down by
the number of lines before it. -/
theorem movedTo_of_hasFile {o p : Occurrence} {before file after : Bytes}
    (hfile : o.sources.HasFile o.path file)
    (hother : p.sources.HasFile p.path (before ++ file ++ after))
    (hbefore : Source.WholeLines before) (hafter : after = [] ∨ Source.WholeLines file)
    (hcount : Source.lineCount (before ++ file ++ after) < maxLine)
    (hline : 1 ≤ o.finding.location.line ∧ o.finding.location.line ≤ Source.lineCount file)
    (hsettings : p.settings = o.settings)
    (hfinding : p.finding = o.finding.movedDown (Source.lineCount before)) :
    o.MovedTo p (Source.lineCount before) := by
  have hshifted := shifted_of_hasFile hfile hother hbefore hafter
  refine ⟨hsettings, hfinding, hshifted, numbered_of_hasFile hfile, ?_, ?_⟩
  · intro n hn
    rcases Option.isSome_iff_exists.mp hn with ⟨text, htext⟩
    have hmoved : (p.sources.line? p.path (n + Source.lineCount before)).isSome = true := by
      rw [hshifted n text htext]
      rfl
    rw [hother.2, Source.File.isSome_line?_iff] at hmoved
    omega
  · unfold line?
    rw [hfile.2, Source.File.isSome_line?_iff]
    exact hline

/-- Text before a file and after it changes nothing in the identity of a finding that moves
with its line: not in that of its content where enough lines around it are not blank, and not
in that of its context where the offset is declared or the beginning is found. -/
theorem identity_eq_of_lines_around {o p : Occurrence} {before file after : Bytes}
    (hfile : o.sources.HasFile o.path file)
    (hother : p.sources.HasFile p.path (before ++ file ++ after))
    (hbefore : Source.WholeLines before) (hafter : after = [] ∨ Source.WholeLines file)
    (hcount : Source.lineCount (before ++ file ++ after) < maxLine)
    (hline : 1 ≤ o.finding.location.line ∧ o.finding.location.line ≤ Source.lineCount file)
    (hsettings : p.settings = o.settings)
    (hfinding : p.finding = o.finding.movedDown (Source.lineCount before)) :
    (o.Enough o.upward? -> o.Enough o.downward? ->
      p.identity.contentHash = o.identity.contentHash ∧
        p.identity.degraded = o.identity.degraded) ∧
    (o.finding.diagnostic.functionOffset.isSome = true ∨
        (exists context, o.finding.diagnostic.contextName = some context ∧
          (contextStart? o.sources o.settings context o.path
            o.finding.location.line).isSome = true) ->
      p.identity.contextHash = o.identity.contextHash) := by
  have hmoved := movedTo_of_hasFile hfile hother hbefore hafter hcount hline hsettings hfinding
  constructor
  · intro habove hbelow
    have hkey := hmoved.contentKey_eq habove hbelow
    constructor
    · show hashText (canonical (contentKey _ _ _ _).fields) = _
      rw [hkey]
      rfl
    · show (contentKey _ _ _ _).isDegraded = _
      rw [hkey]
      rfl
  · intro hknown
    have hoffset := hmoved.offset_eq hknown
    have hkey : contextKey p.sources p.settings p.finding p.path =
        contextKey o.sources o.settings o.finding o.path := by
      have hfields : p.finding.checker = o.finding.checker ∧
          p.finding.context = o.finding.context := by
        rw [hfinding]
        exact ⟨rfl, rfl⟩
      unfold contextKey
      rw [hfields.1, hfields.2]
      exact congrArg _ hoffset
    show hashText (canonical (contextKey _ _ _ _).fields) = _
    rw [hkey]
    rfl

theorem enough_of_count {o : Occurrence} {read? : Nat -> Option String} {steps : Nat}
    (hsteps : steps ≤ max o.settings.maxContextScan o.settings.contextWindow)
    (hcount : o.settings.contextWindow ≤
      Nat.count (fun i => isFilled read? (1 + i) = true) steps) : o.Enough read? :=
  Nat.le_trans hcount (Nat.count_monotone _ hsteps)

theorem identity_of_oneLine_under_lines :
    let o := inOneLine "  return n - 1;"
    let p : Occurrence := { o with
      sources := .ofFiles [("a.c", Text.bytesOf "// Steps\n\n" ++
        Text.bytesOf "int f(int n) \x7b\n  return n - 1;\n\x7d\n" ++ Text.bytesOf "int x;\n")]
      finding := o.finding.movedDown 2 }
    p.identity.contentHash = o.identity.contentHash ∧
      p.identity.degraded = o.identity.degraded ∧
      p.identity.contextHash = o.identity.contextHash := by
  intro o p
  have hend : o.AtEndOf (oneLine "  return n - 1;" (by decide)) :=
    atEndOf_oneLine (by decide) (by decide +kernel)
  have hfile : o.sources.HasFile o.path
      (Text.bytesOf "int f(int n) \x7b\n  return n - 1;\n\x7d\n") :=
    Sources.hasFile_ofFiles [] "a.c" _
  have hother : p.sources.HasFile p.path (Text.bytesOf "// Steps\n\n" ++
      Text.bytesOf "int f(int n) \x7b\n  return n - 1;\n\x7d\n" ++ Text.bytesOf "int x;\n") :=
    Sources.hasFile_ofFiles [] "a.c" _
  have hsame := identity_eq_of_lines_around hfile hother (Or.inr (by decide +kernel))
    (Or.inr (Or.inr (by decide +kernel))) (by decide +kernel) (by decide +kernel) rfl rfl
  have habove : o.Enough o.upward? := by
    refine enough_of_count (Nat.le_max_right 2000 1) ?_
    decide +kernel
  have hbelow : o.Enough o.downward? := by
    refine enough_of_count (Nat.le_max_right 2000 1) ?_
    decide +kernel
  have hstart := (contextStart?_eq_firstLine_iff hend.hasLines hend.scan hend.le_maxLine).mpr
    ⟨fits_oneLine, not_redeclared_return⟩
  rcases hsame.1 habove hbelow with ⟨hcontent, hdegraded⟩
  refine ⟨hcontent, hdegraded, hsame.2 (Or.inr ⟨"f", rfl, ?_⟩)⟩
  exact Option.isSome_of_eq_some hstart

end Occurrence
end Identity
end FindingLedger
