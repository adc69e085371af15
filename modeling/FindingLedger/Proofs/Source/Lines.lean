import FindingLedger.Source.Sources

/-!
# Lines of files that are put together

Bytes that end with a line feed are whole lines. Whatever follows whole lines leaves them as
they are, and is itself divided as if nothing stood before it. So a file keeps its lines when
others are put before and after it; only their numbers change.
-/

namespace FindingLedger
namespace Source

/-- Whether nothing that follows these bytes can belong to their last line. -/
def WholeLines (bytes : Bytes) : Prop :=
  bytes = [] ∨ bytes.getLast? = some lineFeed

def lineCount (bytes : Bytes) : Nat :=
  (pieces bytes).length

/-!
# Pieces
-/

theorem pieces_lineFeed_cons (rest : Bytes) :
    pieces (lineFeed :: rest) = [lineFeed] :: pieces rest := by
  rw [pieces.eq_def]
  simp

theorem pieces_cons_of_pieces_eq {b : UInt8} {rest piece : Bytes} {more : List Bytes}
    (hb : b ≠ lineFeed) (hrest : pieces rest = piece :: more) :
    pieces (b :: rest) = (b :: piece) :: more := by
  rw [pieces.eq_def]
  simp [hb, hrest]

theorem pieces_eq_nil_iff {bytes : Bytes} : pieces bytes = [] <-> bytes = [] := by
  constructor
  · intro h
    rw [← flatten_pieces bytes, h]
    rfl
  · intro h
    rw [h]
    rfl

/-- The first byte of a file is a line of its own, stands alone, or begins the first of the
lines of the others. -/
theorem pieces_cons_cases (b : UInt8) (rest : Bytes) :
    (b = lineFeed ∧ pieces (b :: rest) = [lineFeed] :: pieces rest) ∨
      (b ≠ lineFeed ∧ rest = [] ∧ pieces (b :: rest) = [[b]]) ∨
      (b ≠ lineFeed ∧ exists piece more, pieces rest = piece :: more ∧
        pieces (b :: rest) = (b :: piece) :: more) := by
  by_cases hb : b = lineFeed
  · rw [hb]
    exact Or.inl ⟨rfl, pieces_lineFeed_cons rest⟩
  · right
    cases hrest : pieces rest with
    | nil =>
        rw [pieces_eq_nil_iff] at hrest
        subst hrest
        left
        refine ⟨hb, rfl, ?_⟩
        simp [pieces, hb]
    | cons piece more =>
        exact Or.inr ⟨hb, piece, more, rfl, pieces_cons_of_pieces_eq hb hrest⟩

theorem pieces_append {before : Bytes} (h : WholeLines before) (rest : Bytes) :
    pieces (before ++ rest) = pieces before ++ pieces rest := by
  induction before with
  | nil =>
      rfl
  | cons b more ih =>
      have hmore : WholeLines more := by
        cases more with
        | nil =>
            exact Or.inl rfl
        | cons c more =>
            rcases h with h | h
            · cases h
            · exact Or.inr (by rwa [List.getLast?_cons_cons] at h)
      rw [List.cons_append]
      by_cases hb : b = lineFeed
      · rw [hb, pieces_lineFeed_cons, pieces_lineFeed_cons, ih hmore]
        rfl
      · -- The line of this byte goes on, so there is a first piece for it to join.
        cases hpieces : pieces more with
        | nil =>
            rw [pieces_eq_nil_iff] at hpieces
            rw [hpieces] at h
            rcases h with h | h
            · cases h
            · exact absurd (Option.some.inj h) hb
        | cons piece others =>
            have hwhole := ih hmore
            rw [hpieces, List.cons_append] at hwhole
            rw [pieces_cons_of_pieces_eq hb hwhole, pieces_cons_of_pieces_eq hb hpieces,
              List.cons_append]

/-!
# Lines that are ended
-/

def EndsLine (piece : Bytes) : Prop :=
  exists body, lineFeed ∉ body ∧ piece = body ++ [lineFeed]

theorem endsLine_lineFeed : EndsLine [lineFeed] :=
  ⟨[], List.not_mem_nil, rfl⟩

theorem EndsLine.cons {b : UInt8} {piece : Bytes} (hb : b ≠ lineFeed) (h : EndsLine piece) :
    EndsLine (b :: piece) := by
  rcases h with ⟨body, hbody, rfl⟩
  refine ⟨b :: body, ?_, rfl⟩
  rw [List.mem_cons, not_or]
  exact ⟨Ne.symm hb, hbody⟩

/-- Whether the pieces of a file are given lines that are ended, and the bytes behind the
last line feed where there are any. -/
structure MadeOfLines (bytes : Bytes) (ended : List Bytes) (rest : Bytes) : Prop where
  endsLine : forall piece, piece ∈ ended -> EndsLine piece
  lineFeed_not_mem : lineFeed ∉ rest
  pieces_eq : pieces bytes = ended ++ if rest = [] then [] else [rest]

theorem MadeOfLines.mem_or_eq {bytes rest : Bytes} {ended : List Bytes}
    (h : MadeOfLines bytes ended rest) {piece : Bytes} (hpiece : piece ∈ pieces bytes) :
    piece ∈ ended ∨ (piece = rest ∧ rest ≠ []) := by
  rw [h.pieces_eq, List.mem_append] at hpiece
  rcases hpiece with hended | hrest
  · exact Or.inl hended
  · right
    split at hrest
    · cases hrest
    · exact ⟨List.mem_singleton.mp hrest, by assumption⟩

theorem exists_madeOfLines (bytes : Bytes) :
    exists ended rest, MadeOfLines bytes ended rest := by
  induction bytes with
  | nil =>
      exact ⟨[], [], List.forall_mem_nil _, List.not_mem_nil, rfl⟩
  | cons b bytes ih =>
      rcases ih with ⟨ended, rest, hmade⟩
      rcases pieces_cons_cases b bytes with ⟨hb, hpieces⟩ | ⟨hb, _, hpieces⟩ |
        ⟨hb, piece, more, hbytes, hpieces⟩
      · refine ⟨[lineFeed] :: ended, rest, ?_, hmade.lineFeed_not_mem, ?_⟩
        · rw [List.forall_mem_cons]
          exact ⟨endsLine_lineFeed, hmade.endsLine⟩
        · rw [hpieces, hmade.pieces_eq, List.cons_append]
      · refine ⟨[], [b], List.forall_mem_nil _, ?_, hpieces⟩
        rw [List.mem_singleton]
        exact Ne.symm hb
      · -- The byte joins the first line that is ended, or else the bytes behind the last one.
        have hmore := hmade.pieces_eq
        rw [hbytes] at hmore
        cases ended with
        | nil =>
            have hne : rest ≠ [] := by
              intro hnil
              simp [hnil] at hmore
            rw [if_neg hne, List.nil_append, List.cons.injEq] at hmore
            refine ⟨[], b :: rest, List.forall_mem_nil _, ?_, ?_⟩
            · rw [List.mem_cons, not_or]
              exact ⟨Ne.symm hb, hmade.lineFeed_not_mem⟩
            · rw [hpieces, hmore.1, hmore.2]
              rfl
        | cons line ended =>
            have hlines := List.forall_mem_cons.mp hmade.endsLine
            rw [List.cons_append, List.cons.injEq] at hmore
            refine ⟨(b :: line) :: ended, rest, ?_, hmade.lineFeed_not_mem, ?_⟩
            · rw [List.forall_mem_cons]
              exact ⟨hlines.1.cons hb, hlines.2⟩
            · rw [hpieces, hmore.1, hmore.2, List.cons_append]

/-!
# Numbered lines
-/

namespace File

theorem line?_ofBytes_succ (bytes : Bytes) (n : Nat) :
    (ofBytes bytes).line? (n + 1) = ((Source.pieces bytes)[n]?).map lineText := by
  simp [line?, ofBytes]

theorem line?_zero (f : File) : f.line? 0 = none :=
  rfl

theorem isSome_line?_iff {bytes : Bytes} {n : Nat} :
    ((ofBytes bytes).line? n).isSome = true <-> 1 ≤ n ∧ n ≤ lineCount bytes := by
  cases n with
  | zero =>
      simp [line?_zero]
  | succ n =>
      rw [line?_ofBytes_succ, Option.isSome_map, lineCount]
      simp only [isSome_getElem?, Nat.le_add_left, true_and]
      exact Nat.succ_le_iff.symm

/-- Each line of a file is a line of the file that has whole lines put before it and others
after it. -/
theorem line?_append {before file after : Bytes} (hbefore : WholeLines before)
    (hafter : after = [] ∨ WholeLines file) {n : Nat} {text : String}
    (h : (ofBytes file).line? n = some text) :
    (ofBytes (before ++ file ++ after)).line? (n + lineCount before) = some text := by
  cases n with
  | zero =>
      cases h
  | succ n =>
      have hpieces : exists more, Source.pieces (before ++ file ++ after) =
          Source.pieces before ++ (Source.pieces file ++ more) := by
        rcases hafter with hafter | hfile
        · exact ⟨[], by rw [hafter, List.append_nil, List.append_nil, pieces_append hbefore]⟩
        · exact ⟨Source.pieces after,
            by rw [List.append_assoc, pieces_append hbefore, pieces_append hfile]⟩
      rcases hpieces with ⟨more, hpieces⟩
      rw [line?_ofBytes_succ] at h
      rcases Option.map_eq_some_iff.mp h with ⟨piece, hpiece, htext⟩
      rw [show n + 1 + lineCount before = lineCount before + n + 1 by omega,
        line?_ofBytes_succ, hpieces, lineCount, List.getElem?_append_right (by omega),
        Nat.add_sub_cancel_left, List.getElem?_append_left
          (List.getElem?_eq_some_iff.mp hpiece).1, hpiece]
      exact congrArg some htext

end File
end Source

/-!
# Files among the sources
-/

namespace Sources

/-- Whether a file with given bytes can be read under a path. -/
def HasFile (sources : Sources) (path : String) (bytes : Bytes) : Prop :=
  sources.bytes? path = some bytes ∧
    forall n, sources.line? path n = (Source.File.ofBytes bytes).line? n

theorem hasFile_ofFiles (files : List (String × Bytes)) (path : String) (bytes : Bytes) :
    (ofFiles (files ++ [(path, bytes)])).HasFile path bytes := by
  have hfound : Entries.get? (fileTable (files ++ [(path, bytes)])) path =
      some (.ofBytes bytes) := by
    unfold fileTable
    rw [List.foldl_append]
    exact Entries.get?_put_self _ path _
  constructor
  · show (Entries.get? (fileTable (files ++ [(path, bytes)])) path).map Source.File.bytes =
      some bytes
    rw [hfound]
    rfl
  · intro n
    show ((Entries.get? (fileTable (files ++ [(path, bytes)])) path).bind fun f =>
      f.line? n) = (Source.File.ofBytes bytes).line? n
    rw [hfound]
    rfl

/-- Whether the lines of a file that can be read under a path are the given ones. -/
def HasLines (sources : Sources) (path : String) (lines : List String) : Prop :=
  sources.line? path 0 = none ∧ forall n, sources.line? path (n + 1) = lines[n]?

theorem HasFile.hasLines {sources : Sources} {path : String} {bytes : Bytes}
    (h : sources.HasFile path bytes) :
    sources.HasLines path ((Source.pieces bytes).map Source.lineText) := by
  constructor
  · rw [h.2]
    rfl
  · intro n
    rw [h.2, Source.File.line?_ofBytes_succ, List.getElem?_map]

end Sources
end FindingLedger
