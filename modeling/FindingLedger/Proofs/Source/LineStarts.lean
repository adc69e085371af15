import FindingLedger.Proofs.Source.Lines

/-!
# Starts of lines

The lines of a file start at its beginning and right behind every line feed that is not its
last byte. These places tell everything about the lines: each line goes from its start up to
the next one, the last line up to the end of the file, and nothing is left out or read twice.
So a line can be read by the places alone, and they never lead outside of the file.
-/

namespace FindingLedger
namespace Source

def behindLineFeeds (place : Nat) (bytes : Bytes) : List Nat :=
  ((bytes.zipIdx place).filter fun (b, _) => b == lineFeed).map fun (_, i) => i + 1

def startsFrom (place : Nat) (bytes : Bytes) : List Nat :=
  if bytes = [] then []
  else place :: (behindLineFeeds place bytes).filter fun start => start < place + bytes.length

/-- Where the lines of a file start. -/
def lineStarts (bytes : Bytes) : List Nat :=
  startsFrom 0 bytes

/-- Where the piece ends that starts at the place of an index: where the next one starts, or
at the end of the file. -/
def pieceEnd (bytes : Bytes) (starts : List Nat) (index : Nat) : Nat :=
  starts[index + 1]?.getD bytes.length

/-- The pieces of a file from each of some places up to the next one, and from the last of
them up to the end. -/
def piecesAt (bytes : Bytes) : List Nat -> List Bytes
  | [] => []
  | start :: more => bytes.extract start (more.headD bytes.length) :: piecesAt bytes more

/-!
# Pieces one after another
-/

/-- The places of pieces that follow one another from a given place on. -/
def offsets (place : Nat) : List Bytes -> List Nat
  | [] => []
  | piece :: more => place :: offsets (place + piece.length) more

theorem headD_offsets (place : Nat) (ps : List Bytes) :
    (offsets place ps).headD (place + ps.flatten.length) = place := by
  cases ps <;> rfl

theorem le_of_mem_offsets {ps : List Bytes} :
    forall {place} start, start ∈ offsets place ps -> place ≤ start := by
  induction ps with
  | nil =>
      intro place start hstart
      cases hstart
  | cons piece more ih =>
      intro place start hstart
      rcases List.mem_cons.mp hstart with heq | hmore
      · exact Nat.le_of_eq heq.symm
      · exact Nat.le_trans (Nat.le_add_right _ _) (ih start hmore)

section Filled

variable {ps : List Bytes} (h : forall piece, piece ∈ ps -> piece ≠ [])

include h

theorem pairwise_offsets (place : Nat) : (offsets place ps).Pairwise (· < ·) := by
  induction ps generalizing place with
  | nil =>
      exact List.Pairwise.nil
  | cons piece more ih =>
      rw [List.forall_mem_cons] at h
      have hpos : 0 < piece.length := List.length_pos_iff.mpr h.1
      refine List.Pairwise.cons ?_ (ih h.2 _)
      intro start hstart
      have hle := le_of_mem_offsets start hstart
      omega

theorem lt_of_mem_offsets :
    forall {place} start, start ∈ offsets place ps -> start < place + ps.flatten.length := by
  induction ps with
  | nil =>
      intro place start hstart
      cases hstart
  | cons piece more ih =>
      intro place start hstart
      rw [List.forall_mem_cons] at h
      have hpos : 0 < piece.length := List.length_pos_iff.mpr h.1
      rw [List.flatten_cons, List.length_append]
      rcases List.mem_cons.mp hstart with heq | hmore
      · omega
      · have hlt := ih h.2 start hmore
        omega

end Filled

/-- Pieces are found again at their places. The bytes before them stand for those that have
been passed. -/
theorem piecesAt_offsets (ps : List Bytes) :
    forall before : Bytes, piecesAt (before ++ ps.flatten) (offsets before.length ps) = ps := by
  induction ps with
  | nil =>
      intro before
      rfl
  | cons piece more ih =>
      intro before
      have hbytes : before ++ (piece :: more).flatten = before ++ piece ++ more.flatten := by
        rw [List.flatten_cons, List.append_assoc]
      have hend : (offsets (before.length + piece.length) more).headD
          (before ++ piece ++ more.flatten).length = before.length + piece.length := by
        rw [List.length_append, List.length_append]
        exact headD_offsets _ more
      have hmore := ih (before ++ piece)
      rw [List.length_append] at hmore
      rw [hbytes, offsets, piecesAt, hend, hmore]
      simp [List.extract_eq_take_drop, List.append_assoc]

/-!
# Starts and pieces
-/

theorem behindLineFeeds_lineFeed_cons (place : Nat) (rest : Bytes) :
    behindLineFeeds place (lineFeed :: rest) = (place + 1) :: behindLineFeeds (place + 1) rest := by
  simp [behindLineFeeds]

theorem behindLineFeeds_cons {b : UInt8} (hb : b ≠ lineFeed) (place : Nat) (rest : Bytes) :
    behindLineFeeds place (b :: rest) = behindLineFeeds (place + 1) rest := by
  simp [behindLineFeeds, hb]

theorem startsFrom_lineFeed_cons (place : Nat) (rest : Bytes) :
    startsFrom place (lineFeed :: rest) = place :: startsFrom (place + 1) rest := by
  unfold startsFrom
  rw [if_neg (List.cons_ne_nil _ _), behindLineFeeds_lineFeed_cons]
  cases rest with
  | nil =>
      simp [behindLineFeeds]
  | cons b rest =>
      simp [Nat.add_assoc, Nat.add_comm 1]

theorem startsFrom_cons {b : UInt8} (hb : b ≠ lineFeed) (place : Nat) (rest : Bytes) :
    startsFrom place (b :: rest) = place :: (startsFrom (place + 1) rest).tail := by
  unfold startsFrom
  rw [if_neg (List.cons_ne_nil _ _), behindLineFeeds_cons hb]
  cases rest with
  | nil =>
      simp [behindLineFeeds]
  | cons c rest =>
      simp [Nat.add_assoc, Nat.add_comm 1]

theorem startsFrom_eq_offsets (bytes : Bytes) :
    forall place, startsFrom place bytes = offsets place (pieces bytes) := by
  induction bytes with
  | nil =>
      intro place
      rfl
  | cons b rest ih =>
      intro place
      rcases pieces_cons_cases b rest with ⟨hb, hpieces⟩ | ⟨hb, hrest, hpieces⟩ |
        ⟨hb, piece, more, hrest, hpieces⟩
      · rw [hpieces, hb, startsFrom_lineFeed_cons, ih]
        rfl
      · rw [hpieces, hrest, startsFrom_cons hb]
        rfl
      · -- The piece goes on, so the start behind this byte is none.
        rw [hpieces, startsFrom_cons hb, ih, hrest, offsets, offsets, List.tail_cons,
          List.length_cons, Nat.add_assoc, Nat.add_comm 1]

theorem lineStarts_eq_offsets (bytes : Bytes) :
    lineStarts bytes = offsets 0 (pieces bytes) :=
  startsFrom_eq_offsets bytes 0

theorem piecesAt_lineStarts (bytes : Bytes) : piecesAt bytes (lineStarts bytes) = pieces bytes := by
  have hpieces := piecesAt_offsets (pieces bytes) []
  rwa [List.nil_append, flatten_pieces, List.length_nil, ← lineStarts_eq_offsets] at hpieces

theorem getElem?_piecesAt (bytes : Bytes) (starts : List Nat) :
    forall index, (piecesAt bytes starts)[index]? =
      starts[index]?.map fun start => bytes.extract start (pieceEnd bytes starts index) := by
  induction starts with
  | nil =>
      intro index
      rfl
  | cons start more ih =>
      intro index
      cases index with
      | zero =>
          cases more <;> rfl
      | succ index =>
          exact ih index

/-!
# Numbers of lines
-/

theorem EndsLine.count_eq {piece : Bytes} (h : EndsLine piece) : piece.count lineFeed = 1 := by
  rcases h with ⟨body, hbody, rfl⟩
  rw [List.count_append, List.count_eq_zero.mpr hbody]
  rfl

theorem EndsLine.ne_nil {piece : Bytes} (h : EndsLine piece) : piece ≠ [] := by
  rcases h with ⟨body, _, rfl⟩
  simp

theorem count_flatten_of_endsLine {ended : List Bytes}
    (h : forall piece, piece ∈ ended -> EndsLine piece) :
    ended.flatten.count lineFeed = ended.length := by
  induction ended with
  | nil =>
      rfl
  | cons piece more ih =>
      rw [List.forall_mem_cons] at h
      rw [List.flatten_cons, List.count_append, h.1.count_eq, ih h.2, List.length_cons,
        Nat.add_comm]

theorem wholeLines_flatten {ended : List Bytes}
    (h : forall piece, piece ∈ ended -> EndsLine piece) : WholeLines ended.flatten := by
  rcases List.eq_nil_or_concat ended with rfl | ⟨front, piece, rfl⟩
  · exact Or.inl rfl
  · rcases h piece (by simp) with ⟨body, _, rfl⟩
    right
    simp

namespace MadeOfLines

variable {bytes rest : Bytes} {ended : List Bytes} (h : MadeOfLines bytes ended rest)

include h

theorem ne_nil {piece : Bytes} (hpiece : piece ∈ pieces bytes) : piece ≠ [] := by
  rcases h.mem_or_eq hpiece with hended | ⟨hrest, hne⟩
  · exact (h.endsLine piece hended).ne_nil
  · rwa [hrest]

theorem mem_of_mem_dropLast {piece : Bytes} (hpiece : piece ∈ (pieces bytes).dropLast) :
    piece ∈ ended := by
  rw [h.pieces_eq] at hpiece
  split at hpiece
  · rw [List.append_nil] at hpiece
    exact List.dropLast_subset _ hpiece
  · rwa [List.dropLast_concat] at hpiece

theorem bytes_eq : bytes = ended.flatten ++ rest := by
  rw [← flatten_pieces bytes, h.pieces_eq, List.flatten_append]
  split
  · rename_i hrest
    rw [hrest]
    rfl
  · simp

theorem count_eq : bytes.count lineFeed = ended.length := by
  rw [h.bytes_eq, List.count_append, count_flatten_of_endsLine h.endsLine,
    List.count_eq_zero.mpr h.lineFeed_not_mem, Nat.add_zero]

theorem rest_eq_nil_iff : rest = [] <-> WholeLines bytes := by
  constructor
  · intro hrest
    rw [h.bytes_eq, hrest, List.append_nil]
    exact wholeLines_flatten h.endsLine
  · intro hwhole
    cases hrest : rest with
    | nil =>
        rfl
    | cons b more =>
        have hne : rest ≠ [] := by
          simp [hrest]
        have hlast : bytes.getLast? = rest.getLast? := by
          rw [h.bytes_eq, hrest, List.getLast?_append, List.getLast?_cons, Option.some_or]
        rcases hwhole with hbytes | hfeed
        · rw [h.bytes_eq] at hbytes
          exact absurd (List.append_eq_nil_iff.mp hbytes).2 hne
        · rw [hlast] at hfeed
          exact absurd (List.mem_of_getLast? hfeed) h.lineFeed_not_mem

end MadeOfLines

/-- There is one line for each line feed, and one more if bytes stand behind the last one. -/
theorem lineCount_eq (bytes : Bytes) :
    lineCount bytes =
      bytes.count lineFeed + if bytes = [] ∨ bytes.getLast? = some lineFeed then 0 else 1 := by
  rcases exists_madeOfLines bytes with ⟨ended, rest, hmade⟩
  have hwhole := hmade.rest_eq_nil_iff
  unfold WholeLines at hwhole
  rw [lineCount, hmade.pieces_eq, hmade.count_eq, List.length_append]
  simp only [← hwhole]
  split <;> rfl

/-!
# Division by the starts
-/

/-- Whether places divide a file into the pieces that it is kept as. -/
structure Divides (bytes : Bytes) (starts : List Nat) : Prop where
  increasing : starts.Pairwise (· < ·)
  first : forall start, starts.head? = some start -> start = 0
  inside : forall start, start ∈ starts -> start < bytes.length
  eq_nil_iff : starts = [] <-> bytes = []
  pieces_eq : (File.ofBytes bytes).pieces = piecesAt bytes starts
  flatten_eq : (piecesAt bytes starts).flatten = bytes
  /-- Every piece but the last ends with the only line feed that it holds. -/
  endsLine : forall piece, piece ∈ (piecesAt bytes starts).dropLast -> EndsLine piece
  /-- The last one does so too, unless it holds no line feed. -/
  endsLine_or_not_mem : forall piece, (piecesAt bytes starts).getLast? = some piece ->
    EndsLine piece ∨ lineFeed ∉ piece

/-- Whether the lines of a file are read by the places where they start. -/
structure ReadsLines (bytes : Bytes) (starts : List Nat) : Prop where
  /-- There is a line for each line feed, and one more for bytes behind the last one. -/
  isSome_line?_iff : forall n, ((File.ofBytes bytes).line? n).isSome = true <->
    1 ≤ n ∧ n ≤ bytes.count lineFeed +
      if bytes = [] ∨ bytes.getLast? = some lineFeed then 0 else 1
  /-- A line is a piece without its line feed and then without a carriage return. -/
  line?_succ : forall n, (File.ofBytes bytes).line? (n + 1) =
    (piecesAt bytes starts)[n]?.map fun piece =>
      Text.decodeLenient (dropLast carriageReturn (dropLast lineFeed piece))
  /-- A piece lies between its start and its end, and both are inside of the file. -/
  between : forall n start, starts[n]? = some start ->
    start < pieceEnd bytes starts n ∧ pieceEnd bytes starts n ≤ bytes.length ∧
      (piecesAt bytes starts)[n]? = some (bytes.extract start (pieceEnd bytes starts n))

namespace Divides

variable {bytes : Bytes} {starts : List Nat} (h : Divides bytes starts)

include h

theorem lt_pieceEnd {n start : Nat} (hstart : starts[n]? = some start) :
    start < pieceEnd bytes starts n ∧ pieceEnd bytes starts n ≤ bytes.length := by
  unfold pieceEnd
  cases hnext : starts[n + 1]? with
  | none =>
      exact ⟨h.inside start (List.mem_of_getElem? hstart), Nat.le_refl _⟩
  | some next =>
      rcases List.getElem?_eq_some_iff.mp hstart with ⟨hn, rfl⟩
      rcases List.getElem?_eq_some_iff.mp hnext with ⟨hsucc, rfl⟩
      have hlt := List.pairwise_iff_getElem.mp h.increasing n (n + 1) hn hsucc n.lt_succ_self
      exact ⟨hlt, Nat.le_of_lt (h.inside _ (List.getElem_mem hsucc))⟩

theorem readsLines : ReadsLines bytes starts where
  isSome_line?_iff n := by
    rw [File.isSome_line?_iff, lineCount_eq]
  line?_succ n := by
    rw [← h.pieces_eq]
    exact File.line?_ofBytes_succ bytes n
  between n start hstart := by
    have hbounds := h.lt_pieceEnd hstart
    refine ⟨hbounds.1, hbounds.2, ?_⟩
    rw [getElem?_piecesAt, hstart]
    rfl

end Divides

theorem divides_lineStarts (bytes : Bytes) : Divides bytes (lineStarts bytes) := by
  rcases exists_madeOfLines bytes with ⟨ended, rest, hmade⟩
  have hfilled : forall piece, piece ∈ pieces bytes -> piece ≠ [] :=
    fun _ hpiece => hmade.ne_nil hpiece
  have hstarts := lineStarts_eq_offsets bytes
  constructor
  case increasing =>
    rw [hstarts]
    exact pairwise_offsets hfilled 0
  case first =>
    intro start hstart
    unfold lineStarts startsFrom at hstart
    split at hstart
    · cases hstart
    · exact (Option.some.inj hstart).symm
  case inside =>
    intro start hstart
    rw [hstarts] at hstart
    have hlt := lt_of_mem_offsets hfilled start hstart
    rwa [flatten_pieces, Nat.zero_add] at hlt
  case eq_nil_iff =>
    unfold lineStarts startsFrom
    split <;> simp_all
  case pieces_eq =>
    exact (piecesAt_lineStarts bytes).symm
  case flatten_eq =>
    rw [piecesAt_lineStarts, flatten_pieces]
  case endsLine =>
    intro piece hpiece
    rw [piecesAt_lineStarts] at hpiece
    exact hmade.endsLine piece (hmade.mem_of_mem_dropLast hpiece)
  case endsLine_or_not_mem =>
    intro piece hpiece
    rw [piecesAt_lineStarts] at hpiece
    rcases hmade.mem_or_eq (List.mem_of_getLast? hpiece) with hended | ⟨hrest, _⟩
    · exact Or.inl (hmade.endsLine piece hended)
    · exact Or.inr (hrest ▸ hmade.lineFeed_not_mem)

/-- The starts of the lines divide every file, be it UTF-8 or not, empty or without a line feed
at its end, and lead to each of its lines and to no place outside of it. -/
theorem divides_and_readsLines_lineStarts (bytes : Bytes) :
    Divides bytes (lineStarts bytes) ∧ ReadsLines bytes (lineStarts bytes) :=
  ⟨divides_lineStarts bytes, (divides_lineStarts bytes).readsLines⟩

/-- A line starts behind line feeds only, and none starts at the end of the file. -/
example : lineStarts (Text.bytesOf "one\r\n\ntwo\r") = [0, 5, 6] := by
  decide

end Source
end FindingLedger
