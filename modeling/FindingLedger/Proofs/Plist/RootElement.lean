import FindingLedger.Proofs.Markup.Elements
import FindingLedger.Proofs.Plist.Reading

/-!
# The element of the document's value

The value of a document is that of the first element which is no document element. It is read
there as it would be read alone: neither the text before it nor the document element around it
has a part in it.
-/

namespace FindingLedger
namespace Plist

open Markup (Item Scans Scanner IsElement)

/-!
# Shortest stretches
-/

namespace Reads

variable {r t : Reader} {bytes : Bytes} {items : List Item}

theorem tail_of_cons {m : Reader} {b : UInt8} {item : Option Item}
    (scan : r.scanner.step b = .ok (m.scanner, item))
    (take : Reader.take r.builder item = .ok m.builder) {rest : Bytes}
    (h : Reads r (b :: rest) items t) : exists others, Reads m rest others t :=
  (cons scan take (nil m)).after h

theorem exists_shortest {p : Reader -> Prop} (h : Reads r bytes items t) (ht : p t) :
    exists front back m before after, bytes = front ++ back ∧ Reads r front before m ∧
      Reads m back after t ∧ p m ∧
      forall cut others s, cut <+: front -> cut ≠ front -> Reads r cut others s -> ¬ p s := by
  rcases Markup.exists_shortest_cut (p := fun cut => exists items s, Reads r cut items s ∧ p s)
    ⟨items, t, h, ht⟩ with ⟨front, back, rfl, ⟨before, m, hfront, hm⟩, hleast⟩
  rcases hfront.after h with ⟨after, hback⟩
  exact ⟨front, back, m, before, after, rfl, hfront, hback, hm,
    fun cut others s hcut hne hreads hs => hleast cut hcut hne ⟨others, s, hreads, hs⟩⟩

end Reads

/-!
# Elements around others
-/

/-- Whether two readers are alike apart from elements that are open around the second. -/
structure Around (outer : List Bytes) (u r : Reader) : Prop where
  mode : u.scanner.mode = r.scanner.mode
  names : r.scanner.openNames = u.scanner.openNames ++ outer
  builder : u.builder = r.builder.withPlist false

def InValue (b : Builder) (item : Item) : Prop :=
  0 < b.depth ∨ exists name, item.begins? = some name ∧ Text.decodeLenient name ≠ "plist"

namespace Around

variable {outer : List Bytes} {u r t : Reader}

theorem depth_eq (h : Around outer u r) : u.builder.depth = r.builder.depth := by
  rw [h.builder]
  rfl

theorem length_names (h : Around outer u r) (hu : u.Sound) :
    u.scanner.openNames.length = r.builder.depth := by
  rw [hu.count, Reader.openCount, h.depth_eq, h.builder]
  rfl

theorem take (h : Around outer u r) {item : Option Item}
    (htake : Reader.take r.builder item = .ok t.builder)
    (hvalue : forall i, item = some i -> InValue r.builder i) :
    Reader.take u.builder item = .ok (t.builder.withPlist false) := by
  rw [h.builder]
  cases item with
  | none =>
      rw [Reader.take_none htake]
      rfl
  | some item =>
      have hstep := Builder.step_withPlist (p := false) (hvalue item rfl)
      exact hstep.trans (congrArg (Except.map (Builder.withPlist false)) htake)

theorem step (h : Around outer u r) (hu : u.Sound) {b : UInt8} {item : Option Item}
    (scan : r.scanner.step b = .ok (t.scanner, item))
    (htake : Reader.take r.builder item = .ok t.builder)
    (hvalue : forall i, item = some i -> InValue r.builder i) :
    exists v, u.scanner.step b = .ok (v.scanner, item) ∧
      Reader.take u.builder item = .ok v.builder ∧ Around outer v t := by
  have hturn := Scanner.turn_of_step scan
  have hsome : forall name, item = some (.closing name) -> u.scanner.openNames ≠ [] := by
    intro name hitem
    rcases hvalue _ hitem with hdepth | ⟨_, hbegins, _⟩
    · rw [← List.length_pos_iff, h.length_names hu]
      exact hdepth
    · cases hbegins
  have hhead : forall name, item = some (.closing name) ->
      u.scanner.openNames.head? = some name := by
    intro name hitem
    rcases List.exists_cons_of_ne_nil (hsome name hitem) with ⟨first, rest, hnames⟩
    rw [hitem] at hturn
    have hclosed := hturn.names_of_closing
    rw [h.names, hnames, List.cons_append, List.cons.injEq] at hclosed
    rw [hnames, List.head?_cons, hclosed.1]
  have hstep := Scanner.step_openNames scan _ hhead
  rw [← h.mode] at hstep
  refine ⟨⟨⟨t.scanner.mode, Scanner.namesAfter u.scanner.openNames item⟩,
    t.builder.withPlist false⟩, hstep, h.take htake hvalue, rfl, ?_, rfl⟩
  rw [hturn.openNames_eq, h.names]
  exact Scanner.namesAfter_append hsome

theorem reads {bytes : Bytes} {items : List Item} (hreads : Reads r bytes items t)
    (h : Around outer u r) (hu : u.Sound)
    (hdeep : forall cut others s, cut <+: bytes -> cut ≠ bytes -> Reads r cut others s ->
      0 < s.builder.depth) :
    exists v, Reads u bytes items v ∧ Around outer v t := by
  induction hreads generalizing u with
  | nil r =>
      exact ⟨u, Reads.nil u, h⟩
  | @cons r m t b rest item items scan htake tail ih =>
      have hnow : 0 < r.builder.depth :=
        hdeep [] [] r List.nil_prefix (fun heq => nomatch heq) (Reads.nil r)
      rcases h.step hu scan htake (fun _ _ => Or.inl hnow) with ⟨v, hscan, htake', hv⟩
      have hlater : forall cut others s, cut <+: rest -> cut ≠ rest -> Reads m cut others s ->
          0 < s.builder.depth := by
        intro cut others s hcut hne hreads
        exact hdeep (b :: cut) _ s (List.cons_prefix_cons.mpr ⟨rfl, hcut⟩)
          (fun heq => hne (List.cons.inj heq).2) (Reads.cons scan htake hreads)
      rcases ih hv (hu.step hscan htake') hlater with ⟨w, hw, haround⟩
      exact ⟨w, Reads.cons hscan htake' hw, haround⟩

end Around

/-!
# The first tag of a value
-/

/-- Whether a tag after some bytes, with its last byte apart, is the first one that is none of
a document element. -/
structure FirstTag (before inner : Bytes) (b : UInt8) (m n : Reader) : Prop where
  leading : exists items chunk,
    Scans .start before items ⟨.text chunk, m.scanner.openNames⟩ ∧
      forall item name, item ∈ items -> item.begins? = some name ->
        Text.decodeLenient name = "plist"
  markup : Scans ⟨.begun, m.scanner.openNames⟩ inner [] m.scanner
  reads : exists items, Reads .start (before ++ 0x3C :: inner) items m
  waiting : m.builder.Waiting
  step : exists item name, item.begins? = some name ∧ Text.decodeLenient name ≠ "plist" ∧
    m.scanner.step b = .ok (n.scanner, some item) ∧
    Reader.take m.builder (some item) = .ok n.builder
  begun : ¬ n.builder.Waiting

/-- A reader stops waiting at the end of a tag that is none of a document element. -/
theorem Reads.begins_of_not_waiting {m n : Reader} {b : UInt8} {items : List Item}
    (h : Reads m [b] items n) (hm : m.Sound) (hwaiting : m.builder.Waiting)
    (hn : ¬ n.builder.Waiting) :
    exists item name, item.begins? = some name ∧ Text.decodeLenient name ≠ "plist" ∧
      m.scanner.step b = .ok (n.scanner, some item) ∧
      Reader.take m.builder (some item) = .ok n.builder := by
  cases h with
  | @cons _ l _ _ _ item _ scan take tail =>
      cases tail
      cases item with
      | none =>
          rw [Reader.take_none take] at hn
          exact absurd hwaiting hn
      | some item =>
          have hchange := Builder.change_of_step hm.builder take
          rcases hchange.exists_begins hwaiting hn with ⟨name, hname⟩
          exact ⟨item, name, hname,
            fun hplist => hn ((hchange.begins_of_waiting hwaiting hname).mpr hplist), scan, take⟩

theorem exists_firstTag {bytes : Bytes} {items : List Item} {t : Reader}
    (h : Reads .start bytes items t) (ht : ¬ t.builder.Waiting) :
    exists before inner b rest m n others, bytes = before ++ 0x3C :: inner ++ b :: rest ∧
      FirstTag before inner b m n ∧ Reads n rest others t := by
  rcases h.exists_shortest (p := fun r => ¬ r.builder.Waiting) ht with
    ⟨whole, rest, n, _, others, rfl, hwhole, hrest, hn, hleast⟩
  rcases List.eq_nil_or_concat whole with hnil | ⟨front, b, hconcat⟩
  · rw [hnil] at hwhole
    cases hwhole
    exact absurd ⟨rfl, rfl⟩ hn
  · rw [List.concat_eq_append] at hconcat
    subst hconcat
    -- The last byte of the shortest stretch is that with which the tag ends.
    rcases hwhole.split with ⟨m, given, last, hfront, hlast, _⟩
    have hsound := hfront.sound Reader.sound_start
    have hm : m.builder.Waiting := by
      by_contra hne
      exact hleast front given m (List.prefix_append _ _)
        (fun heq => by simpa using congrArg List.length heq) hfront hne
    rcases hlast.begins_of_not_waiting hsound hm hn with ⟨item, name, hname, hother, scan, take⟩
    have hmarkup := ((Scanner.turn_of_step scan).of_not_isContent
      (Markup.Item.not_isContent_of_begins hname)).1
    rcases hfront.scans.exists_begin id hmarkup with
      ⟨before, inner, chunk, leading, rfl, hbefore, hinner, hgiven⟩
    refine ⟨before, inner, b, rest, m, n, others, by simp, ?_, hrest⟩
    have hplist : forall item name, item ∈ leading -> item.begins? = some name ->
        Text.decodeLenient name = "plist" := by
      intro item name hitem hbegins
      refine hfront.plist_of_waiting Reader.sound_start hm ?_ hbegins
      rw [hgiven]
      exact List.mem_append_left _ hitem
    exact ⟨⟨leading, chunk, hbefore, hplist⟩, hinner, ⟨given, hfront⟩, hm,
      ⟨item, name, hname, hother, scan, take⟩, hn⟩

/-!
# The element alone
-/

theorem Reads.of_scans {s t : Scanner} {bytes : Bytes} (h : Scans s bytes [] t) (b : Builder) :
    Reads ⟨s, b⟩ bytes [] ⟨t, b⟩ := by
  generalize hitems : ([] : List Item) = items at h
  induction h with
  | nil =>
      exact nil _
  | @cons s m t _ _ item items head _ ih =>
      cases item with
      | some item =>
          cases hitems
      | none =>
          exact cons (m := ⟨m, b⟩) head rfl (ih hitems)

theorem Builder.Waiting.withPlist_false {b : Builder} (h : b.Waiting) :
    b.withPlist false = .start := by
  rcases h with ⟨hdepth, hroot⟩
  rcases Nat.add_eq_zero_iff.mp hdepth with ⟨hframes, hleaf⟩
  rw [List.length_eq_zero_iff] at hframes hleaf
  rw [Option.toList_eq_nil_iff] at hleaf
  rw [Builder.withPlist, hroot, hframes, hleaf]
  rfl

theorem Reads.mode_of_root {r t : Reader} {bytes : Bytes} {items : List Item}
    (h : Reads r bytes items t) (hr : r.Sound) (hne : bytes ≠ [])
    (hroot : t.builder.root ≠ none)
    (hleast : forall cut others s, cut <+: bytes -> cut ≠ bytes -> Reads r cut others s ->
      s.builder.root = none) : t.scanner.mode = .text [] := by
  rcases List.eq_nil_or_concat bytes with hnil | ⟨front, b, hconcat⟩
  · exact absurd hnil hne
  · rw [List.concat_eq_append] at hconcat
    subst hconcat
    rcases h.split with ⟨s, before, _, hfront, hlast, _⟩
    have hnone := hleast front before s (List.prefix_append _ _)
      (fun heq => by simpa using congrArg List.length heq) hfront
    cases hlast with
    | @cons _ _ _ _ _ item _ scan take tail =>
        cases tail
        cases item with
        | none =>
            rw [Reader.take_none take] at hroot
            exact absurd hnone hroot
        | some item =>
            have hchange := Builder.change_of_step (hfront.sound hr).builder take
            exact ((Scanner.turn_of_step scan).of_not_isContent
              (hchange.not_isContent_of_root hnone hroot)).2

namespace FirstTag

variable {before inner cut : Bytes} {b : UInt8} {m n s : Reader} {others : List Item}

theorem sound (h : FirstTag before inner b m n) : m.Sound ∧ n.Sound := by
  rcases h.reads with ⟨items, hreads⟩
  rcases h.step with ⟨item, name, _, _, scan, take⟩
  have hm := hreads.sound Reader.sound_start
  exact ⟨hm, hm.step scan take⟩

/-- The value that begins with the first tag is read alone as it is in the document. -/
theorem reads_alone (h : FirstTag before inner b m n) (hcut : Reads n cut others s)
    (hdeep : forall front given r, front <+: cut -> front ≠ cut -> Reads n front given r ->
      0 < r.builder.depth) :
    exists item name w, item.begins? = some name ∧ Text.decodeLenient name ≠ "plist" ∧
      Reads .start (0x3C :: inner ++ b :: cut) (item :: others) w ∧ w.Sound ∧
      Around m.scanner.openNames w s := by
  rcases h.step with ⟨item, name, hname, hother, scan, take⟩
  have hinner : Reads .start (0x3C :: inner) [] ⟨⟨m.scanner.mode, []⟩, .start⟩ :=
    Reads.of_scans (Scans.of_begin (h.markup.of_no_items [])) _
  -- Before the last byte of the tag the reader is as if nothing had been read before the tag.
  have haround : Around m.scanner.openNames ⟨⟨m.scanner.mode, []⟩, .start⟩ m :=
    ⟨rfl, rfl, h.waiting.withPlist_false.symm⟩
  have hsound := hinner.sound Reader.sound_start
  rcases haround.step hsound scan take
      (fun i hi => Or.inr ⟨name, by cases hi; exact hname, hother⟩) with
    ⟨v, hscan, htake, hv⟩
  rcases hv.reads hcut (hsound.step hscan htake) hdeep with ⟨w, hw, haround'⟩
  have hwhole := hinner.append (Reads.cons hscan htake hw)
  exact ⟨item, name, w, hname, hother, hwhole, hwhole.sound Reader.sound_start, haround'⟩

/-- No value is complete before the first tag, nor where the value of the document is
missing. -/
theorem depth_pos (h : FirstTag before inner b m n) {items : List Item}
    (hcut : Reads n cut items s) (hroot : s.builder.root = none) : 0 < s.builder.depth := by
  rw [Nat.pos_iff_ne_zero]
  intro hdepth
  exact h.begun (hcut.waiting h.sound.2 ⟨hdepth, hroot⟩)

theorem inside (h : FirstTag before inner b m n) {rest : Bytes} {t : Reader}
    (hrest : Reads n rest others t)
    (hleast : forall front given r, front <+: rest -> front ≠ rest -> Reads n front given r ->
      r.builder.root = none)
    {front : Bytes} {items : List Item} {u : Scanner}
    (hfront : front <+: 0x3C :: inner ++ b :: rest) (hne : front ≠ [])
    (hcut : front ≠ 0x3C :: inner ++ b :: rest) (hscans : Scans .start front items u) :
    u.mode.InMarkup ∨ u.openNames ≠ [] := by
  rcases Markup.prefix_append_cons hfront with hinside | ⟨more, rfl, hmore⟩
  · exact Or.inl ((h.markup.of_no_items []).inMarkup_of_cut hinside hne hscans)
  · right
    have hmissing : more ≠ rest := fun heq => hcut (by rw [heq])
    have hdeep : forall front given r, front <+: more -> Reads n front given r ->
        0 < r.builder.depth := by
      intro front given r hpart hreads
      refine h.depth_pos hreads (hleast front given r (hpart.trans hmore) ?_ hreads)
      rintro rfl
      exact hmissing (hmore.eq_of_length_le hpart.length_le)
    rcases hmore with ⟨left, rfl⟩
    rcases hrest.split with ⟨r, given, _, hgiven, _, _⟩
    rcases h.reads_alone hgiven (fun front given r hpart _ => hdeep front given r hpart) with
      ⟨_, _, w, _, _, hw, hsound, haround⟩
    rw [(hscans.unique hw.scans).1, ← List.length_pos_iff, haround.length_names hsound]
    exact hdeep more given r (List.prefix_refl _) hgiven

theorem scanner_eq_start (h : FirstTag before inner b m n) {rest : Bytes} {t w : Reader}
    {v : Value} (hrest : Reads n rest others t) (hroot : t.builder.root = some v)
    (hleast : forall front given r, front <+: rest -> front ≠ rest -> Reads n front given r ->
      r.builder.root = none)
    (hw : w.Sound) (haround : Around m.scanner.openNames w t) : w.scanner = .start := by
  rcases h.step with ⟨item, _, _, _, scan, take⟩
  have hmode : t.scanner.mode = .text [] := by
    refine (Reads.cons scan take hrest).mode_of_root h.sound.1 (List.cons_ne_nil _ _)
      (fun hnone => nomatch hroot.symm.trans hnone) ?_
    intro cut given r hcut hne hreads
    cases cut with
    | nil =>
        cases hreads
        exact h.waiting.2
    | cons c cut =>
        rcases List.cons_prefix_cons.mp hcut with ⟨rfl, hmore⟩
        rcases Reads.tail_of_cons scan take hreads with ⟨others, htail⟩
        exact hleast cut others r hmore (fun heq => hne (by rw [heq])) htail
  have hdepth : t.builder.depth = 0 := by
    by_contra hne
    have hnone := (hrest.sound h.sound.2).builder.root (Nat.pos_of_ne_zero hne)
    cases hroot.symm.trans hnone
  have hnames : w.scanner.openNames = [] := by
    rw [← List.length_eq_zero_iff, haround.length_names hw, hdepth]
  rw [Scanner.start, ← hmode, ← haround.mode, ← hnames]

theorem element (h : FirstTag before inner b m n) {rest : Bytes} {t : Reader} {v : Value}
    (hrest : Reads n rest others t) (hroot : t.builder.root = some v)
    (hleast : forall front given r, front <+: rest -> front ≠ rest -> Reads n front given r ->
      r.builder.root = none) :
    exists name, Text.decodeLenient name ≠ "plist" ∧
      IsElement name (0x3C :: inner ++ b :: rest) ∧
      read (0x3C :: inner ++ b :: rest) = .ok (some v) := by
  rcases h.reads_alone hrest (fun front given r hpart hne hreads =>
    h.depth_pos hreads (hleast front given r hpart hne hreads)) with
    ⟨item, name, w, hname, hother, hw, hsound, haround⟩
  have hstart := h.scanner_eq_start hrest hroot hleast hsound haround
  have hscans := hw.scans
  rw [hstart] at hscans
  refine ⟨name, hother, ⟨rfl, ⟨item, others, hname, hscans⟩, ?_⟩, ?_⟩
  · intro front items u hfront hne hcut
    exact h.inside hrest hleast hfront hne hcut
  · have hfinish : w.finish = .ok (some v) := by
      rw [Reader.finish, hstart]
      refine Builder.finish_eq_ok_iff.mpr ⟨?_, ?_, ?_⟩
      · rw [haround.depth_eq, ← haround.length_names hsound, hstart]
        rfl
      · rw [haround.builder]
        rfl
      · rw [haround.builder]
        exact hroot
    rw [← hfinish]
    exact congrArg (fun run => run >>= Reader.finish) hw.run_eq

/-!
# Cuts around the element
-/

theorem reads_after (h : FirstTag before inner b m n) {items : List Item}
    (hreads : Reads .start (before ++ 0x3C :: inner ++ b :: cut) items s) :
    exists rest, Reads n cut rest s := by
  rcases h.reads with ⟨given, hm⟩
  rcases h.step with ⟨item, _, _, _, scan, take⟩
  rcases hm.after hreads with ⟨_, htail⟩
  exact Reads.tail_of_cons scan take htail

theorem prefix_of_waiting (h : FirstTag before inner b m n) {rest : Bytes} {items : List Item}
    (hcut : cut <+: before ++ 0x3C :: inner ++ b :: rest) (hreads : Reads .start cut items s)
    (htext : ¬ s.scanner.mode.InMarkup) (hwaiting : s.builder.Waiting) : cut <+: before := by
  rcases Markup.prefix_append_cons hcut with hinside | ⟨more, rfl, _⟩
  · rcases Markup.prefix_append_cons hinside with hbefore | ⟨more, rfl, hmore⟩
    · exact hbefore
    · rcases h.leading with ⟨leading, chunk, hleading, _⟩
      rcases hleading.after hreads.scans with ⟨_, hafter⟩
      exact absurd (h.markup.inMarkup_of_cut (List.cons_prefix_cons.mpr ⟨rfl, hmore⟩)
        (List.cons_ne_nil _ _) hafter) htext
  · rcases h.reads_after hreads with ⟨_, hn⟩
    exact absurd (hn.waiting h.sound.2 hwaiting) h.begun

theorem prefix_of_root (h : FirstTag before inner b m n) {rest after : Bytes}
    {items : List Item}
    (hleast : forall front given r, front <+: rest -> front ≠ rest -> Reads n front given r ->
      r.builder.root = none)
    (hcut : cut <+: before ++ 0x3C :: inner ++ b :: (rest ++ after))
    (hreads : Reads .start cut items s) (hroot : s.builder.root ≠ none) :
    before ++ 0x3C :: inner ++ b :: rest <+: cut := by
  rcases Markup.prefix_append_cons hcut with ⟨back, hinside⟩ | ⟨more, rfl, hmore⟩
  · rcases h.reads with ⟨given, hm⟩
    rw [← hinside] at hm
    rcases hreads.after hm with ⟨_, hback⟩
    exact absurd (hback.waiting (hreads.sound Reader.sound_start) h.waiting).2 hroot
  · rcases h.reads_after hreads with ⟨others, hn⟩
    refine (List.prefix_append_right_inj _).mpr (List.cons_prefix_cons.mpr ⟨rfl, ?_⟩)
    rcases List.prefix_or_prefix_of_prefix hmore (List.prefix_append rest after) with hle | hle
    · by_cases heq : more = rest
      · exact heq ▸ List.prefix_refl _
      · exact absurd (hleast more others s hle heq hn) hroot
    · exact hle

end FirstTag

/-!
# The element in a document
-/

/-- Whether the element after some bytes is that of the value of a document: it has the value,
and no tag before it begins any element but document elements. -/
structure RootElement (before element : Bytes) (v : Value) : Prop where
  leading : exists items chunk names, Scans .start before items ⟨.text chunk, names⟩ ∧
    forall item name, item ∈ items -> item.begins? = some name ->
      Text.decodeLenient name = "plist"
  isElement : exists name, Text.decodeLenient name ≠ "plist" ∧ IsElement name element
  value : read element = .ok (some v)

/-- What can have been read where a document is cut off before, in and after the element of its
value. -/
structure ValueAt (before element after : Bytes) (v : Value) : Prop
    extends RootElement before element v where
  waiting : forall cut items r, cut <+: before ++ element ++ after ->
    Reads .start cut items r -> ¬ r.scanner.mode.InMarkup -> r.builder.Waiting -> cut <+: before
  complete : forall cut items r, cut <+: before ++ element ++ after ->
    Reads .start cut items r -> r.builder.root ≠ none -> before ++ element <+: cut

theorem exists_valueAt {bytes : Bytes} {items : List Item} {t : Reader} {v : Value}
    (h : Reads .start bytes items t) (hroot : t.builder.root = some v) :
    exists before element after, bytes = before ++ element ++ after ∧
      ValueAt before element after v := by
  rcases exists_firstTag h fun hwaiting => nomatch hroot.symm.trans hwaiting.2 with
    ⟨before, inner, b, rest, m, n, _, rfl, hfirst, hrest⟩
  rcases hrest.exists_shortest (p := fun r => r.builder.root ≠ none)
      (fun hnone => nomatch hroot.symm.trans hnone) with
    ⟨rest, after, w, _, _, rfl, hvalue, hafter, hw, hshortest⟩
  have hleast : forall front given r, front <+: rest -> front ≠ rest ->
      Reads n front given r -> r.builder.root = none := by
    intro front given r hfront hne hreads
    exact not_not.mp (hshortest front given r hfront hne hreads)
  have hwroot : w.builder.root = some v := by
    rcases Option.ne_none_iff_exists'.mp hw with ⟨v', hv'⟩
    rw [hv', ← hafter.root_eq (hvalue.sound hfirst.sound.2) hv', hroot]
  rcases hfirst.element hvalue hwroot hleast with ⟨name, hother, helement, hread⟩
  rcases hfirst.leading with ⟨items, chunk, hleading, hplist⟩
  have hassoc : before ++ 0x3C :: inner ++ b :: (rest ++ after) =
      before ++ (0x3C :: inner ++ b :: rest) ++ after := by
    simp
  refine ⟨before, 0x3C :: inner ++ b :: rest, after, hassoc,
    ⟨⟨⟨items, chunk, _, hleading, hplist⟩, ⟨name, hother, helement⟩, hread⟩, ?_, ?_⟩⟩
  · intro cut items r hcut
    exact hfirst.prefix_of_waiting (hassoc ▸ hcut)
  · intro cut items r hcut hreads hne
    rw [← List.append_assoc]
    exact hfirst.prefix_of_root hleast (hassoc ▸ hcut) hreads hne

end Plist
end FindingLedger
