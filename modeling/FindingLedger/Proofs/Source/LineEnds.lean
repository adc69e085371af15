import FindingLedger.Proofs.Source.Lines
import FindingLedger.Proofs.Text.Trimmed
import FindingLedger.Proofs.Text.Utf8

/-!
# Ends of lines

A file whose lines end with a carriage return and a line feed is divided like the file whose
lines end with a line feed alone. Blanks at the ends apart, its lines read the same.
-/

namespace FindingLedger
namespace Source

def lines (bytes : Bytes) : List String :=
  (pieces bytes).map lineText

def withReturns : Bytes -> Bytes
  | [] => []
  | b :: rest =>
      if b == lineFeed then
        carriageReturn :: lineFeed :: withReturns rest
      else
        b :: withReturns rest

theorem withReturns_lineFeed_cons (rest : Bytes) :
    withReturns (lineFeed :: rest) = carriageReturn :: lineFeed :: withReturns rest :=
  rfl

theorem withReturns_cons {b : UInt8} (hb : b ≠ lineFeed) (rest : Bytes) :
    withReturns (b :: rest) = b :: withReturns rest := by
  rw [withReturns, if_neg (by simpa using hb)]

/-!
# Pieces
-/

theorem pieces_withReturns (bytes : Bytes) :
    pieces (withReturns bytes) = (pieces bytes).map withReturns := by
  have hreturn : carriageReturn ≠ lineFeed := by
    decide
  induction bytes with
  | nil =>
      rfl
  | cons b rest ih =>
      rcases pieces_cons_cases b rest with ⟨hb, hpieces⟩ | ⟨hb, hrest, hpieces⟩ |
        ⟨hb, piece, more, hrest, hpieces⟩
      · have hline := pieces_lineFeed_cons (withReturns rest)
        rw [hpieces, hb, withReturns_lineFeed_cons, pieces_cons_of_pieces_eq hreturn hline, ih]
        rfl
      · rw [hpieces, hrest, withReturns_cons hb, List.map_singleton, withReturns_cons hb]
        simp [withReturns, pieces, hb]
      · rw [hrest, List.map_cons] at ih
        rw [hpieces, withReturns_cons hb, pieces_cons_of_pieces_eq hb ih, List.map_cons,
          withReturns_cons hb]

theorem exists_body_of_mem_pieces {bytes piece : Bytes} (h : piece ∈ pieces bytes) :
    exists body, lineFeed ∉ body ∧ (piece = body ∨ piece = body ++ [lineFeed]) := by
  rcases exists_madeOfLines bytes with ⟨ended, rest, hmade⟩
  rcases hmade.mem_or_eq h with hended | ⟨hrest, _⟩
  · rcases hmade.endsLine piece hended with ⟨body, hbody, hpiece⟩
    exact ⟨body, hbody, Or.inr hpiece⟩
  · exact ⟨piece, hrest ▸ hmade.lineFeed_not_mem, Or.inl rfl⟩

theorem withReturns_append (bytes rest : Bytes) :
    withReturns (bytes ++ rest) = withReturns bytes ++ withReturns rest := by
  induction bytes with
  | nil =>
      rfl
  | cons b bytes ih =>
      rw [List.cons_append, withReturns, withReturns, ih]
      split <;> rfl

theorem withReturns_of_lineFeed_not_mem {bytes : Bytes} (h : lineFeed ∉ bytes) :
    withReturns bytes = bytes := by
  induction bytes with
  | nil =>
      rfl
  | cons b rest ih =>
      rw [List.mem_cons, not_or] at h
      rw [withReturns_cons (Ne.symm h.1), ih h.2]

/-!
# Texts of lines
-/

theorem dropLast_concat (b : UInt8) (bytes : Bytes) : dropLast b (bytes ++ [b]) = bytes := by
  simp [dropLast]

/-- A carriage return at the end of bytes is a blank at the end of their text. -/
theorem trim_decodeLenient_dropLast (bytes : Bytes) :
    Text.trim (Text.decodeLenient (dropLast carriageReturn bytes)) =
      Text.trim (Text.decodeLenient bytes) := by
  by_cases hlast : bytes.getLast? = some carriageReturn
  · rcases List.getLast?_eq_some_iff.mp hlast with ⟨front, rfl⟩
    have hblank : Text.Blanks [Char.ofNat carriageReturn.toNat] := by
      intro c hc
      rw [List.mem_singleton.mp hc]
      decide
    have hnone : Text.Blanks [] := List.forall_mem_nil _
    have htrim := Text.trimChars_between_blanks hnone hblank
      (Text.decodeLenient front).toList
    rw [dropLast_concat, Text.trim, Text.trim, Text.decodeLenient_concat (by decide), ← htrim]
    rfl
  · rw [dropLast, if_neg (by simpa using hlast)]

theorem trim_lineText_withReturns {bytes piece : Bytes} (h : piece ∈ pieces bytes) :
    Text.trim (lineText (withReturns piece)) = Text.trim (lineText piece) := by
  rcases exists_body_of_mem_pieces h with ⟨body, hbody, rfl | rfl⟩
  · rw [withReturns_of_lineFeed_not_mem hbody]
  · have hreturns : withReturns (body ++ [lineFeed]) =
        body ++ [carriageReturn] ++ [lineFeed] := by
      rw [withReturns_append, withReturns_of_lineFeed_not_mem hbody, List.append_assoc]
      rfl
    rw [lineText, lineText, hreturns, dropLast_concat, dropLast_concat, dropLast_concat,
      trim_decodeLenient_dropLast]

theorem map_trim_lines_withReturns (bytes : Bytes) :
    (lines (withReturns bytes)).map Text.trim = (lines bytes).map Text.trim := by
  unfold lines
  rw [pieces_withReturns, List.map_map, List.map_map, List.map_map]
  apply List.map_congr_left
  intro piece hpiece
  exact trim_lineText_withReturns hpiece

end Source
end FindingLedger
