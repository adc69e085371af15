import FindingLedger.Proofs.Plist.LayoutPieces
import FindingLedger.Proofs.Plist.OpenElements
import FindingLedger.Proofs.Plist.Truncation

/-!
# Documents read by their items

A run of the reader is a scan and what the builder does with the items that the scan gives out.
So what is read of a document depends on its front only by the items of the front and by the
place where the scanner is after it. A document of blanks is no exception to this.
-/

namespace FindingLedger
namespace Plist

open Markup (Item Scans Scanner)

/-!
# Items and runs
-/

namespace Reader

theorem run_append (r : Reader) (front back : Bytes) :
    r.run (front ++ back) = r.run front >>= fun m => m.run back := by
  induction front generalizing r with
  | nil =>
      rfl
  | cons b front ih =>
      rw [List.cons_append, run, run]
      cases r.step b with
      | error fault =>
          rfl
      | ok m =>
          exact ih m

theorem run_of_scans {s t : Scanner} {bytes : Bytes} {items : List Item}
    (h : Scans s bytes items t) (b : Builder) :
    run ⟨s, b⟩ bytes = (b.stepAll items).map fun c => ⟨t, c⟩ := by
  induction h generalizing b with
  | nil s =>
      rfl
  | @cons s m t byte rest item items head _ ih =>
      rw [run, step, head]
      dsimp only
      cases item with
      | none =>
          exact ih b
      | some item =>
          rw [Option.toList_some, List.singleton_append, Builder.stepAll_cons]
          cases hstep : b.step item with
          | error fault =>
              rw [take, hstep]
              rfl
          | ok c =>
              rw [take, hstep]
              exact ih c

theorem run_of_text {chunk back : Bytes} {names : List Bytes} (b : Builder)
    (hback : back = [] ∨ back.head? = some 0x3C) :
    run ⟨⟨.text chunk, names⟩, b⟩ back >>= finish =
      b.stepAll (Scanner.pending chunk).toList >>= fun c =>
        run ⟨⟨.text [], names⟩, c⟩ back >>= finish := by
  rcases hback with rfl | hbegin
  · cases chunk with
    | nil =>
        rfl
    | cons byte chunk =>
        change b.step _ >>= Builder.finish = (b.step _ >>= pure) >>= _
        rw [bind_pure]
        rfl
  · rcases List.head?_eq_some_iff.mp hbegin with ⟨rest, rfl⟩
    have hscan := (Scans.nil ⟨.text chunk, names⟩).begins
    rw [List.nil_append, List.nil_append] at hscan
    rw [← List.singleton_append, run_append, run_of_scans hscan]
    cases b.stepAll (Scanner.pending chunk).toList with
    | error fault =>
        rfl
    | ok c =>
        rfl

end Reader

/-!
# Text between elements
-/

def BlankText (chunk : Bytes) : Prop :=
  exists cs, Markup.textOf chunk = .ok cs ∧ Text.Blanks cs

namespace Builder

variable {b : Builder}

theorem step_blankText (h : b.leaf = none) {chunk : Bytes} (hchunk : BlankText chunk) :
    b.step (.text chunk) = .ok b := by
  rcases exists_step_text h chunk with ⟨fault, hstep⟩
  rcases hchunk with ⟨cs, htext, hblank⟩
  rw [hstep, stepText, htext]
  exact if_pos (List.all_eq_true.mpr hblank)

theorem step_text_error (h : b.leaf = none) {chunk : Bytes} (hchunk : ¬ BlankText chunk) :
    exists fault, b.step (.text chunk) = .error fault := by
  rcases exists_step_text h chunk with ⟨fault, hstep⟩
  rw [hstep, stepText]
  cases htext : Markup.textOf chunk with
  | error e =>
      exact ⟨_, rfl⟩
  | ok cs =>
      refine ⟨fault, if_neg ?_⟩
      intro hblank
      exact hchunk ⟨cs, htext, List.all_eq_true.mp hblank⟩

theorem blankText_nil : BlankText [] :=
  ⟨[], rfl, List.forall_mem_nil _⟩

theorem stepAll_blankText (h : b.leaf = none) {chunk : Bytes} (hchunk : BlankText chunk) :
    b.stepAll (Scanner.pending chunk.reverse).toList = .ok b := by
  unfold Scanner.pending
  split
  · rfl
  · rw [List.reverse_reverse, Option.toList_some, stepAll_cons, step_blankText h hchunk]
    rfl

theorem stepAll_text_error (h : b.leaf = none) {chunk : Bytes} (hchunk : ¬ BlankText chunk) :
    exists fault, b.stepAll (Scanner.pending chunk.reverse).toList = .error fault := by
  unfold Scanner.pending
  split
  · rename_i hempty
    rw [List.isEmpty_iff, List.reverse_eq_nil_iff] at hempty
    rw [hempty] at hchunk
    exact absurd blankText_nil hchunk
  · rcases step_text_error h hchunk with ⟨fault, hstep⟩
    rw [List.reverse_reverse, Option.toList_some, stepAll_cons, hstep]
    exact ⟨fault, rfl⟩

end Builder

/-!
# Documents of blanks
-/

theorem exists_blanks_of_isAsciiBlank {bytes : Bytes} (h : bytes.all isAsciiBlank = true) :
    exists gap, Text.Blanks gap ∧ bytes = Text.encode gap := by
  induction bytes with
  | nil =>
      exact ⟨[], List.forall_mem_nil _, rfl⟩
  | cons b bytes ih =>
      rw [List.all_cons, Bool.and_eq_true] at h
      rcases ih h.2 with ⟨gap, hgap, rfl⟩
      have hchar : exists c, Text.isBlank c = true ∧ Text.encode [c] = [b] := by
        have hb := h.1
        simp only [isAsciiBlank, Bool.or_eq_true, beq_iff_eq] at hb
        rcases hb with (((rfl | rfl) | rfl) | rfl) | rfl
        · exact ⟨' ', rfl, rfl⟩
        · exact ⟨'\t', rfl, rfl⟩
        · exact ⟨'\n', rfl, rfl⟩
        · exact ⟨Char.ofNat 0x0C, rfl, rfl⟩
        · exact ⟨'\r', rfl, rfl⟩
      rcases hchar with ⟨c, hc, hencode⟩
      refine ⟨c :: gap, List.forall_mem_cons.mpr ⟨hc, hgap⟩, ?_⟩
      rw [← List.singleton_append (x := c), Text.encode_append, hencode]
      rfl

theorem run_of_isAsciiBlank {document : Bytes} (h : document.all isAsciiBlank = true) :
    Reader.start.run (dropMark document) >>= Reader.finish = .ok none := by
  have hmark : ¬ mark <+: document := by
    intro hpart
    exact not_mem_of_blank h (b := 0xEF) rfl (hpart.subset (List.mem_cons_self ..))
  have hscans : Scans .start document [] ⟨.text (document.reverse ++ []), []⟩ :=
    Scans.of_text (not_mem_of_blank h rfl)
  have htext : BlankText document := by
    rcases exists_blanks_of_isAsciiBlank h with ⟨gap, hgap, rfl⟩
    exact ⟨gap, (spells_of_blanks hgap).textOf_eq, hgap⟩
  have hrun : Reader.start.run document = .ok ⟨⟨.text (document.reverse ++ []), []⟩, .start⟩ :=
    Reader.run_of_scans hscans .start
  rw [dropMark_eq_self hmark, hrun, List.append_nil]
  change Reader.run ⟨⟨.text document.reverse, []⟩, .start⟩ [] >>= Reader.finish = _
  rw [Reader.run_of_text _ (Or.inl rfl), Builder.stepAll_blankText rfl htext]
  rfl

theorem read_eq (document : Bytes) :
    read document = Reader.start.run (dropMark document) >>= Reader.finish := by
  unfold read
  split
  · rename_i hblank
    exact (run_of_isAsciiBlank hblank).symm
  · rfl

/-!
# Items and documents
-/

theorem read_of_scans {document front back : Bytes} {items : List Item} {t : Scanner}
    (hparts : dropMark document = front ++ back) (h : Scans .start front items t) :
    read document =
      Builder.start.stepAll items >>= fun b => Reader.run ⟨t, b⟩ back >>= Reader.finish := by
  have hrun : Reader.start.run front = (Builder.start.stepAll items).map fun b => ⟨t, b⟩ :=
    Reader.run_of_scans h .start
  rw [read_eq, hparts, Reader.run_append, hrun]
  cases Builder.start.stepAll items with
  | error fault =>
      rfl
  | ok b =>
      rfl

theorem read_of_markup {front inner back chunk : Bytes} {items others : List Item}
    {names names' : List Bytes}
    (hplace : Scans .start (dropMark front) items ⟨.text chunk, names⟩)
    (hmarkup : Scans ⟨.begun, names⟩ inner others ⟨.text [], names'⟩) :
    read (front ++ (0x3C :: inner) ++ back) =
      Builder.start.stepAll (items ++ (Scanner.pending chunk).toList) >>= fun b =>
        b.stepAll others >>= fun c =>
          Reader.run ⟨⟨.text [], names'⟩, c⟩ back >>= Reader.finish := by
  have hbegun : Scans ⟨.text chunk, names⟩ (0x3C :: inner)
      ((Scanner.pending chunk).toList ++ others) ⟨.text [], names'⟩ :=
    Scans.of_begin hmarkup
  have hscans := hplace.append hbegun
  have hparts : dropMark (front ++ (0x3C :: inner) ++ back) =
      dropMark front ++ (0x3C :: inner) ++ back := by
    rw [List.append_assoc, List.cons_append, dropMark_append_begin, ← List.cons_append,
      List.append_assoc]
  rw [read_of_scans hparts hscans, ← List.append_assoc, Builder.stepAll_append, bind_assoc]

theorem read_error_of_not_scans {document front back : Bytes}
    (hparts : dropMark document = front ++ back)
    (h : forall items t, ¬ Scans .start front items t) :
    exists fault, read document = .error fault := by
  rw [read_eq, hparts, Reader.run_append]
  cases hrun : Reader.start.run front with
  | error fault =>
      exact ⟨fault, rfl⟩
  | ok t =>
      rcases Reads.of_run_eq hrun with ⟨items, hreads⟩
      exact absurd hreads.scans (h items t.scanner)

theorem leaf_eq_none_of_stepAll {front : Bytes} {items : List Item} {t : Scanner} {b : Builder}
    (h : Scans .start front items t) (hstep : Builder.start.stepAll items = .ok b)
    (hbetween : BetweenElements t.openNames) : b.leaf = none :=
  leaf_eq_none_of_betweenElements (openElements_of_scans h hstep rfl) hbetween

theorem scans_plistTag :
    Scans .start (Text.bytesOf "<plist>") [.opening (Text.bytesOf "plist")]
      ⟨.text [], [Text.bytesOf "plist"]⟩ := by
  have hname : Markup.IsName (Text.bytesOf "plist") := ⟨by decide, by decide⟩
  exact Scans.of_begin (Markup.scans_opening hname)

end Plist
end FindingLedger
