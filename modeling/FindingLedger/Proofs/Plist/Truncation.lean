import FindingLedger.Proofs.Plist.RootElement

/-!
# Documents that are cut off

A document that is cut off is not read as another one. While the element of its value is still
to come nothing is read, once the element has gone by the value is read, and in between, as
inside of any element, the document is refused.
-/

namespace FindingLedger
namespace Plist

open Markup (Item Scans Scanner IsElement)

/-!
# Marks and blanks
-/

def mark : Bytes :=
  [0xEF, 0xBB, 0xBF]

theorem dropMark_eq_self {bytes : Bytes} (h : ¬ mark <+: bytes) : dropMark bytes = bytes := by
  unfold dropMark
  split
  · exact absurd (List.prefix_append mark _) h
  · rfl

theorem mark_prefix_of_append_begin {front rest : Bytes} (h : mark <+: front ++ 0x3C :: rest) :
    mark <+: front := by
  rcases Markup.prefix_append_cons h with hfront | ⟨more, heq, _⟩
  · exact hfront
  · have hmem : (0x3C : UInt8) ∈ mark := by
      rw [heq]
      exact List.mem_append_right _ (List.mem_cons_self ..)
    exact absurd hmem (by decide)

theorem dropMark_append_begin (front rest : Bytes) :
    dropMark (front ++ 0x3C :: rest) = dropMark front ++ 0x3C :: rest := by
  by_cases h : mark <+: front
  · rcases h with ⟨back, rfl⟩
    rfl
  · rw [dropMark_eq_self h,
      dropMark_eq_self fun hmark => h (mark_prefix_of_append_begin hmark)]

/-- What a document has at its front besides what is read, and that its cuts have it too, or
are cuts of the mark. -/
theorem exists_mark (document : Bytes) :
    exists front, document = front ++ dropMark document ∧
      (forall cut, cut <+: dropMark document -> dropMark (front ++ cut) = cut) ∧
      forall cut, cut <+: document ->
        (exists more, cut = front ++ more ∧ more <+: dropMark document) ∨
          cut <+: mark ∧ cut ≠ mark := by
  by_cases h : mark <+: document
  · rcases h with ⟨rest, rfl⟩
    refine ⟨mark, rfl, fun cut _ => rfl, ?_⟩
    intro cut hcut
    by_cases hmark : mark <+: cut
    · rcases hmark with ⟨more, rfl⟩
      exact Or.inl ⟨more, rfl, (List.prefix_append_right_inj _).mp hcut⟩
    · right
      rcases List.prefix_or_prefix_of_prefix hcut (List.prefix_append mark rest) with hle | hle
      · exact ⟨hle, fun heq => hmark (heq ▸ List.prefix_refl _)⟩
      · exact absurd hle hmark
  · rw [dropMark_eq_self h]
    refine ⟨[], rfl, fun cut hcut => ?_, fun cut hcut => Or.inl ⟨cut, rfl, hcut⟩⟩
    exact dropMark_eq_self fun hmark => h (hmark.trans hcut)

theorem read_cut_mark {cut : Bytes} (h : cut <+: mark) (hne : cut ≠ mark) :
    cut = [] ∨ exists fault, read cut = .error fault := by
  rcases List.prefix_concat_iff.mp (show cut <+: [0xEF, 0xBB] ++ [0xBF] from h) with h | h
  · exact absurd h hne
  · rcases List.prefix_concat_iff.mp (show cut <+: [0xEF] ++ [0xBB] from h) with rfl | h
    · exact Or.inr ⟨_, rfl⟩
    · rcases List.prefix_concat_iff.mp (show cut <+: [] ++ [0xEF] from h) with rfl | h
      · exact Or.inr ⟨_, rfl⟩
      · exact Or.inl (List.prefix_nil.mp h)

theorem read_eq_ok_iff {document : Bytes} {v : Option Value} :
    read document = .ok v <->
      document.all isAsciiBlank = true ∧ v = none ∨
        document.all isAsciiBlank = false ∧
          exists items t, Reads .start (dropMark document) items t ∧ t.finish = .ok v := by
  unfold read
  cases hblank : document.all isAsciiBlank with
  | true =>
      rw [if_pos rfl]
      simp [eq_comm]
  | false =>
      rw [if_neg Bool.false_ne_true]
      cases hrun : Reader.start.run (dropMark document) with
      | error fault =>
          simp only [Bool.false_eq_true, false_and, true_and, false_or]
          constructor
          · intro h
            cases h
          · rintro ⟨items, t, hreads, _⟩
            cases hrun.symm.trans hreads.run_eq
      | ok t =>
          simp only [Bool.false_eq_true, false_and, true_and, false_or]
          constructor
          · intro h
            rcases Reads.of_run_eq hrun with ⟨items, hreads⟩
            exact ⟨items, t, hreads, h⟩
          · rintro ⟨items, u, hreads, hfinish⟩
            cases hrun.symm.trans hreads.run_eq
            exact hfinish

theorem not_mem_of_blank {bytes : Bytes} {b : UInt8} (h : bytes.all isAsciiBlank = true)
    (hb : isAsciiBlank b = false) : b ∉ bytes := by
  intro hmem
  rw [List.all_eq_true.mp h b hmem] at hb
  cases hb

/-!
# Cuts inside of elements
-/

def EndsInText (front : Bytes) : Prop :=
  exists items chunk names, Scans .start (dropMark front) items ⟨.text chunk, names⟩

theorem read_error_of_cut_element {front name whole cut : Bytes} (hfront : EndsInText front)
    (h : IsElement name whole) (hcut : cut <+: whole) (hne : cut ≠ []) (hmissing : cut ≠ whole) :
    exists fault, read (front ++ cut) = .error fault := by
  rcases hfront with ⟨items, chunk, names, hscans⟩
  rcases h.scans_front hcut hne hmissing chunk names with ⟨_, u, hinside, hopen⟩
  cases hread : read (front ++ cut) with
  | error fault =>
      exact ⟨fault, rfl⟩
  | ok v =>
      rcases h.exists_begin hcut hne with ⟨more, rfl⟩
      rcases read_eq_ok_iff.mp hread with ⟨hblank, _⟩ | ⟨_, _, t, hreads, hfinish⟩
      · exact absurd (List.mem_append_right _ (List.mem_cons_self ..))
          (not_mem_of_blank hblank (b := 0x3C) rfl)
      · rw [dropMark_append_begin] at hreads
        rcases Reader.finish_eq_ok (hreads.sound Reader.sound_start) hfinish with
          ⟨⟨_, hmode⟩, hnames, _, _⟩
        rw [(hreads.scans.unique (hscans.append hinside)).1] at hmode hnames
        rcases hopen with hmarkup | hopen
        · rw [hmode] at hmarkup
          exact hmarkup.elim
        · exact absurd hnames hopen

/-!
# The element of the value
-/

/-- Whether bytes end outside of any open document element. -/
def OutsidePlist (bytes : Bytes) : Prop :=
  exists items s, Scans .start (dropMark bytes) items s ∧
    forall name, name ∈ s.openNames -> Text.decodeLenient name ≠ "plist"

/-- Whether a document element, `whole` after `outer`, holds `element` after `before`. -/
structure Holds (outer whole before element : Bytes) : Prop where
  text : EndsInText outer
  isElement : exists name, Text.decodeLenient name = "plist" ∧ IsElement name whole
  outer_le : outer <+: before
  le_whole : before ++ element <+: outer ++ whole

theorem outsidePlist_of_blank {bytes : Bytes} (h : bytes.all isAsciiBlank = true) :
    OutsidePlist bytes := by
  have hmark : ¬ mark <+: bytes := by
    intro hpart
    exact not_mem_of_blank h (b := 0xEF) rfl (hpart.subset (List.mem_cons_self ..))
  have htext : Scans .start bytes [] ⟨.text (bytes.reverse ++ []), []⟩ :=
    Scans.of_text (not_mem_of_blank h rfl)
  rw [← dropMark_eq_self hmark] at htext
  exact ⟨[], _, htext, fun name hname => absurd hname (List.not_mem_nil)⟩

theorem read_cut_of_blank {before element after name cut : Bytes}
    (h : cut.all isAsciiBlank = true) (helement : IsElement name element)
    (hcut : cut <+: before ++ element ++ after) :
    read cut = .ok none ∧ cut <+: before ∧ OutsidePlist cut := by
  refine ⟨read_eq_ok_iff.mpr (Or.inl ⟨h, rfl⟩), ?_, outsidePlist_of_blank h⟩
  rcases helement.exists_begin (List.prefix_refl _) helement.ne_nil with ⟨rest, rfl⟩
  rw [List.append_assoc, List.cons_append] at hcut
  rcases Markup.prefix_append_cons hcut with hbefore | ⟨more, rfl, _⟩
  · exact hbefore
  · exact absurd (List.mem_append_right _ (List.mem_cons_self ..))
      (not_mem_of_blank h (b := 0x3C) rfl)

namespace ValueAt

variable {before element after cut : Bytes} {v : Value} {items others : List Item}
variable {r t : Reader}

/-- Where a cut can end it has no value before the element, and that of the whole after it. -/
theorem finish_cut (h : ValueAt before element after v)
    (ht : Reads .start (before ++ element ++ after) items t) (hroot : t.builder.root = some v)
    (hcut : cut <+: before ++ element ++ after) (hr : Reads .start cut others r)
    {w : Option Value} (hfinish : r.finish = .ok w) :
    w = none ∧ cut <+: before ∨ w = some v ∧ before ++ element <+: cut := by
  have hsound := hr.sound Reader.sound_start
  rcases Reader.finish_eq_ok hsound hfinish with ⟨⟨_, hmode⟩, _, hdepth, hw⟩
  have htext : ¬ r.scanner.mode.InMarkup := by
    rw [hmode]
    exact id
  cases w with
  | none =>
      exact Or.inl ⟨rfl, h.waiting cut others r hcut hr htext ⟨hdepth, hw⟩⟩
  | some w =>
      have hsome : r.builder.root ≠ none := fun hnone => nomatch hw.symm.trans hnone
      refine Or.inr ⟨?_, h.complete cut others r hcut hr hsome⟩
      rcases hcut with ⟨back, hback⟩
      rw [← hback] at ht
      rcases hr.after ht with ⟨_, hlater⟩
      rw [← hroot, hlater.root_eq hsound hw]

theorem read_cut (h : ValueAt before element after v)
    (ht : Reads .start (before ++ element ++ after) items t) (hroot : t.builder.root = some v)
    (hcut : cut <+: before ++ element ++ after) {front : Bytes}
    (hdrop : dropMark (front ++ cut) = cut) :
    (exists fault, read (front ++ cut) = .error fault) ∨
      (read (front ++ cut) = .ok none ∧ front ++ cut <+: front ++ before ∧
        OutsidePlist (front ++ cut)) ∨
      (read (front ++ cut) = .ok (some v) ∧ front ++ before ++ element <+: front ++ cut ∧
        OutsidePlist (front ++ cut)) := by
  cases hread : read (front ++ cut) with
  | error fault =>
      exact Or.inl ⟨fault, rfl⟩
  | ok w =>
      right
      rcases read_eq_ok_iff.mp hread with ⟨hblank, rfl⟩ | ⟨_, others, r, hr, hfinish⟩
      · left
        rcases h.isElement with ⟨name, _, helement⟩
        have hwhole : front ++ cut <+: front ++ before ++ element ++ after := by
          simpa using hcut
        exact ⟨rfl, (read_cut_of_blank hblank helement hwhole).2⟩
      · have hnames := (Reader.finish_eq_ok (hr.sound Reader.sound_start) hfinish).2.1
        have houtside : OutsidePlist (front ++ cut) := by
          refine ⟨others, r.scanner, hr.scans, ?_⟩
          rw [hnames]
          exact fun name hname => absurd hname List.not_mem_nil
        rw [hdrop] at hr
        rcases h.finish_cut ht hroot hcut hr hfinish with ⟨rfl, hbefore⟩ | ⟨rfl, hle⟩
        · exact Or.inl ⟨rfl, (List.prefix_append_right_inj _).mpr hbefore, houtside⟩
        · right
          rw [List.append_assoc]
          exact ⟨rfl, (List.prefix_append_right_inj _).mpr hle, houtside⟩

end ValueAt

theorem RootElement.exists_holding {before element after : Bytes} {v : Value}
    {items : List Item} {t : Scanner} (h : RootElement before element v)
    (hscans : Scans .start (before ++ element ++ after) items t) (ht : t.openNames = []) :
    (exists given chunk, Scans .start before given ⟨.text chunk, []⟩) ∨
      exists outer whole left, before ++ element ++ after = outer ++ whole ++ left ∧
        (exists given chunk, Scans .start outer given ⟨.text chunk, []⟩) ∧
        (exists name, Text.decodeLenient name = "plist" ∧ IsElement name whole) ∧
        outer <+: before ∧ before ++ element <+: outer ++ whole := by
  rcases h.leading with ⟨given, chunk, names, hbefore, hplist⟩
  rcases h.isElement with ⟨name, _, helement⟩
  by_cases hnames : names = []
  · rw [hnames] at hbefore
    exact Or.inl ⟨given, chunk, hbefore⟩
  · right
    rw [List.append_assoc] at hscans ⊢
    rcases hscans.exists_element_around ht hbefore hnames with
      ⟨outer, holder, whole, left, heq, ⟨others, text, houter⟩, hwhole, hopening, hle, hless⟩
    rcases hwhole.scans_whole text [] with ⟨_, hend⟩
    refine ⟨outer, whole, left, heq, ⟨others, text, houter⟩,
      ⟨holder, hplist _ _ hopening rfl, hwhole⟩, hle, ?_⟩
    exact helement.prefix_of_nothing_open hnames hbefore (houter.append hend) hless heq

theorem RootElement.outsidePlist_or_holds {before element after front : Bytes} {v : Value}
    {items : List Item} {t : Scanner} (h : RootElement before element v)
    (hscans : Scans .start (before ++ element ++ after) items t) (ht : t.openNames = [])
    (hdrop : forall cut, cut <+: before ++ element ++ after -> dropMark (front ++ cut) = cut) :
    OutsidePlist (front ++ before) ∨ exists outer whole left,
      front ++ (before ++ element ++ after) = outer ++ whole ++ left ∧
        Holds outer whole (front ++ before) element := by
  have hdropped : forall cut rest, before ++ element ++ after = cut ++ rest ->
      dropMark (front ++ cut) = cut :=
    fun cut rest heq => hdrop cut (heq ▸ List.prefix_append cut rest)
  rcases h.exists_holding hscans ht with
    ⟨given, chunk, hclosed⟩ | ⟨outer, whole, left, hparts, houter, hwhole, hle, hless⟩
  · left
    rw [← hdropped before (element ++ after) (List.append_assoc _ _ _)] at hclosed
    exact ⟨given, _, hclosed, fun name hname => absurd hname List.not_mem_nil⟩
  · right
    rcases houter with ⟨given, chunk, houter⟩
    rw [← hdropped outer (whole ++ left) (by rw [hparts, List.append_assoc])] at houter
    refine ⟨front ++ outer, whole, left, ?_, ⟨given, chunk, [], houter⟩, hwhole, ?_, ?_⟩
    · rw [hparts, List.append_assoc, List.append_assoc, List.append_assoc]
    · exact (List.prefix_append_right_inj _).mpr hle
    · rw [List.append_assoc, List.append_assoc]
      exact (List.prefix_append_right_inj _).mpr hless

/-!
# Cuts of documents
-/

theorem read_cut_of_read {document : Bytes} {v : Value} (h : read document = .ok (some v)) :
    exists before element after, document = before ++ element ++ after ∧
      RootElement (dropMark before) element v ∧
      (forall cut, cut <+: document ->
        (exists fault, read cut = .error fault) ∨
        (read cut = .ok none ∧ cut <+: before ∧ OutsidePlist cut) ∨
        (read cut = .ok (some v) ∧ before ++ element <+: cut ∧ OutsidePlist cut)) ∧
      (OutsidePlist before ∨ exists outer whole left, document = outer ++ whole ++ left ∧
        Holds outer whole before element) ∧
      forall outer whole cut, Holds outer whole before element -> cut <+: whole ->
        cut ≠ [] -> cut ≠ whole -> exists fault, read (outer ++ cut) = .error fault := by
  rcases read_eq_ok_iff.mp h with ⟨_, hnone⟩ | ⟨_, items, t, hreads, hfinish⟩
  · cases hnone
  · rcases Reader.finish_eq_ok (hreads.sound Reader.sound_start) hfinish with
      ⟨_, hnames, _, hroot⟩
    rcases exists_valueAt hreads hroot with ⟨before, element, after, heq, hvalue⟩
    rcases exists_mark document with ⟨front, hdocument, hdrop, hcuts⟩
    rw [heq] at hdocument hdrop hcuts hreads
    have hbefore : dropMark (front ++ before) = before := by
      refine hdrop before ?_
      rw [List.append_assoc]
      exact List.prefix_append _ _
    refine ⟨front ++ before, element, after, ?_, ?_, ?_, ?_, ?_⟩
    · rw [hdocument, List.append_assoc, List.append_assoc, List.append_assoc]
    · rw [hbefore]
      exact hvalue.toRootElement
    · -- A cut falls inside of the mark or after it.
      intro cut hcut
      rcases hcuts cut hcut with ⟨more, rfl, hmore⟩ | ⟨hmark, hne⟩
      · exact hvalue.read_cut hreads hroot hmore (hdrop more hmore)
      · rcases read_cut_mark hmark hne with rfl | hfault
        · exact Or.inr (Or.inl ⟨rfl, List.nil_prefix, outsidePlist_of_blank rfl⟩)
        · exact Or.inl hfault
    · rw [hdocument]
      exact hvalue.outsidePlist_or_holds hreads.scans hnames hdrop
    · intro outer whole cut hholds hcut hne hmissing
      rcases hholds.isElement with ⟨name, _, helement⟩
      exact read_error_of_cut_element hholds.text helement hcut hne hmissing

def switchDocument : Bytes :=
  "<?xml version='1.0'?>\n<plist>\n<array><true/></array>\n</plist>\n".toUTF8.data.toList

theorem read_cut_switchDocument :
    read switchDocument = .ok (some (.array [.boolean true])) ∧
      exists before element after, switchDocument = before ++ element ++ after ∧
        RootElement (dropMark before) element (.array [.boolean true]) ∧
        (forall cut, cut <+: switchDocument ->
          (exists fault, read cut = .error fault) ∨
          (read cut = .ok none ∧ cut <+: before ∧ OutsidePlist cut) ∨
          (read cut = .ok (some (.array [.boolean true])) ∧ before ++ element <+: cut ∧
            OutsidePlist cut)) ∧
        (OutsidePlist before ∨ exists outer whole left,
          switchDocument = outer ++ whole ++ left ∧ Holds outer whole before element) ∧
        forall outer whole cut, Holds outer whole before element -> cut <+: whole ->
          cut ≠ [] -> cut ≠ whole -> exists fault, read (outer ++ cut) = .error fault :=
  ⟨rfl, read_cut_of_read rfl⟩

end Plist
end FindingLedger
