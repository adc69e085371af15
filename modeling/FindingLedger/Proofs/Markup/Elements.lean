import FindingLedger.Proofs.Markup.Scanning

/-!
# Elements of markup

An element is what stands between an opening tag and the closing tag that belongs to it.
Wherever it is cut off something is left open, and around every place where an element is open
stands one that the document has at its outermost level.
-/

namespace FindingLedger
namespace Markup

/-!
# Cuts
-/

theorem prefix_append_cons {cut front rest : Bytes} {b : UInt8}
    (h : cut <+: front ++ b :: rest) :
    cut <+: front ∨ exists more, cut = front ++ b :: more ∧ more <+: rest := by
  rcases h with ⟨back, hback⟩
  rcases List.append_eq_append_iff.mp hback with ⟨more, hmore, _⟩ | ⟨more, rfl, hmore⟩
  · exact Or.inl ⟨more, hmore.symm⟩
  · cases more with
    | nil =>
        rw [List.append_nil]
        exact Or.inl (List.prefix_refl _)
    | cons c more =>
        rcases List.cons.inj hmore with ⟨rfl, hrest⟩
        exact Or.inr ⟨more, rfl, back, hrest.symm⟩

theorem exists_shortest_cut {p : Bytes -> Prop} {bytes : Bytes} (h : p bytes) :
    exists cut back, bytes = cut ++ back ∧ p cut ∧
      forall shorter, shorter <+: cut -> shorter ≠ cut -> ¬ p shorter := by
  induction bytes generalizing p with
  | nil =>
      refine ⟨[], [], rfl, h, ?_⟩
      intro shorter hshorter hne
      exact absurd (List.prefix_nil.mp hshorter) hne
  | cons b rest ih =>
      by_cases hnil : p []
      · refine ⟨[], b :: rest, rfl, hnil, ?_⟩
        intro shorter hshorter hne
        exact absurd (List.prefix_nil.mp hshorter) hne
      · rcases ih (p := fun cut => p (b :: cut)) h with ⟨cut, back, rfl, hcut, hleast⟩
        refine ⟨b :: cut, back, rfl, hcut, ?_⟩
        intro shorter hshorter hne
        cases shorter with
        | nil =>
            exact hnil
        | cons c shorter =>
            rcases List.cons_prefix_cons.mp hshorter with ⟨rfl, hmore⟩
            exact hleast shorter hmore fun heq => hne (by rw [heq])

theorem exists_longest_cut {p : Bytes -> Prop} (bytes : Bytes) (h : p []) :
    exists cut back, bytes = cut ++ back ∧ p cut ∧
      forall longer, cut <+: longer -> longer <+: bytes -> longer ≠ cut -> ¬ p longer := by
  induction bytes using List.reverseRecOn with
  | nil =>
      refine ⟨[], [], rfl, h, ?_⟩
      intro longer _ hlonger hne
      exact absurd (List.prefix_nil.mp hlonger) hne
  | append_singleton front b ih =>
      by_cases hall : p (front ++ [b])
      · refine ⟨front ++ [b], [], (List.append_nil _).symm, hall, ?_⟩
        intro longer hcut hlonger hne
        exact absurd (hlonger.eq_of_length_le hcut.length_le) hne
      · rcases ih with ⟨cut, back, rfl, hcut, hmost⟩
        refine ⟨cut, back ++ [b], List.append_assoc _ _ _, hcut, ?_⟩
        intro longer hless hlonger hne
        rcases List.prefix_concat_iff.mp hlonger with rfl | hlonger
        · exact hall
        · exact hmost longer hless hlonger hne

/-!
# Elements
-/

theorem Item.not_isContent_of_begins {item : Item} {name : Bytes}
    (h : item.begins? = some name) : ¬ item.IsContent := by
  cases item with
  | opening | selfClosing =>
      exact fun hcontent => hcontent
  | _ =>
      cases h

/-- Whether bytes are one element of the given name. The first item of it begins an element,
and only at the end no element is open and no markup goes on. -/
structure IsElement (name bytes : Bytes) : Prop where
  head : bytes.head? = some 0x3C
  scans : exists item items, item.begins? = some name ∧
    Scans .start bytes (item :: items) .start
  inside : forall front items s, front <+: bytes -> front ≠ [] -> front ≠ bytes ->
    Scans .start front items s -> s.mode.InMarkup ∨ s.openNames ≠ []

theorem Scans.of_start {rest chunk : Bytes} {items : List Item} {t : Scanner}
    (h : Scans .start (0x3C :: rest) items t) (outer : List Bytes) :
    exists items', Scans ⟨.text chunk, outer⟩ (0x3C :: rest) items'
      ⟨t.mode, t.openNames ++ outer⟩ := by
  cases h with
  | cons head tail =>
      cases head
      exact ⟨_, of_begin (tail.inside outer)⟩

theorem IsElement.exists_begin {name bytes front : Bytes} (h : IsElement name bytes)
    (hfront : front <+: bytes) (hne : front ≠ []) : exists rest, front = 0x3C :: rest := by
  rcases hfront with ⟨back, rfl⟩
  rcases List.exists_cons_of_ne_nil hne with ⟨b, rest, rfl⟩
  have hb : b = 0x3C := Option.some.inj h.head
  exact ⟨rest, by rw [hb]⟩

theorem IsElement.ne_nil {name bytes : Bytes} (h : IsElement name bytes) : bytes ≠ [] := by
  rintro rfl
  cases h.head

theorem IsElement.scans_whole {name bytes : Bytes} (h : IsElement name bytes) (chunk : Bytes)
    (outer : List Bytes) :
    exists items, Scans ⟨.text chunk, outer⟩ bytes items ⟨.text [], outer⟩ := by
  rcases h.exists_begin (List.prefix_refl _) h.ne_nil with ⟨rest, rfl⟩
  rcases h.scans with ⟨_, _, _, hscans⟩
  exact hscans.of_start outer

/-- Wherever an element is cut off, markup goes on or elements are open, also those around
it. -/
theorem IsElement.scans_front {name bytes front : Bytes} (h : IsElement name bytes)
    (hfront : front <+: bytes) (hne : front ≠ []) (hcut : front ≠ bytes) (chunk : Bytes)
    (outer : List Bytes) :
    exists items t, Scans ⟨.text chunk, outer⟩ front items t ∧
      (t.mode.InMarkup ∨ t.openNames ≠ []) := by
  rcases h.exists_begin hfront hne with ⟨rest, rfl⟩
  rcases h.scans with ⟨_, _, _, hscans⟩
  rcases hfront with ⟨back, rfl⟩
  rcases hscans.split with ⟨s, before, _, hbefore, _, _⟩
  rcases hbefore.of_start outer with ⟨items, hitems⟩
  refine ⟨items, _, hitems, ?_⟩
  rcases h.inside _ before s (List.prefix_append _ _) hne hcut hbefore with hmarkup | hnames
  · exact Or.inl hmarkup
  · exact Or.inr fun hnil => hnames (List.append_eq_nil_iff.mp hnil).1

/-!
# Elements around a cut
-/

namespace Scanner

theorem Turn.of_first_name {s t : Scanner} {b : UInt8} {item : Option Item}
    (h : Turn s b t item) (hs : s.openNames = []) (ht : t.openNames ≠ []) :
    exists name, item = some (.opening name) ∧ s.mode.InMarkup ∧ t = ⟨.text [], [name]⟩ := by
  cases h with
  | @opening name before =>
      refine ⟨name, rfl, before, ?_⟩
      rw [hs]
  | closing _ hnames =>
      rw [hs] at hnames
      cases hnames
  | _ =>
      exact absurd hs ht

/-- When the last open element has been closed the scanner is as it was at the start. -/
theorem Turn.of_last_name {s t : Scanner} {b : UInt8} {item : Option Item}
    (h : Turn s b t item) (hs : s.openNames ≠ []) (ht : t.openNames = []) : t = .start := by
  cases h with
  | opening =>
      cases ht
  | closing =>
      exact congrArg (Scanner.mk (.text [])) ht
  | _ =>
      exact absurd ht hs

end Scanner

/-- Whether a tag begins an element after bytes that leave no element open. The last byte of
the tag is apart. -/
structure Opening (outer inner : Bytes) (b : UInt8) (name : Bytes) : Prop where
  text : exists items chunk, Scans .start outer items ⟨.text chunk, []⟩
  markup : exists m, Scans ⟨.begun, []⟩ inner [] m ∧
    m.step b = .ok (⟨.text [], [name]⟩, some (.opening name))

variable {front back : Bytes} {given items : List Item} {s t : Scanner}

theorem Scans.exists_opening (h : Scans .start front given s) (hs : s.openNames ≠ []) :
    exists outer inner b name more, front = outer ++ 0x3C :: inner ++ b :: more ∧
      Opening outer inner b name ∧ .opening name ∈ given ∧
      (exists others, Scans ⟨.text [], [name]⟩ more others s) ∧
      forall cut others r, cut <+: more -> Scans ⟨.text [], [name]⟩ cut others r ->
        r.openNames ≠ [] := by
  -- The tag stands where nothing is open for the last time.
  rcases exists_longest_cut (p := fun cut => exists items r, Scans .start cut items r ∧
      r.openNames = []) front ⟨[], .start, nil _, rfl⟩ with
    ⟨closed, back, rfl, ⟨leading, m, hclosed, hm⟩, hmost⟩
  rcases h.split with ⟨m', leading', after, hclosed', hback, rfl⟩
  rcases hclosed.unique hclosed' with ⟨rfl, rfl⟩
  cases hback with
  | nil =>
      exact absurd hm hs
  | @cons _ n _ b more item others head tail =>
      have hopen : forall cut others r, cut <+: more -> Scans n cut others r ->
          r.openNames ≠ [] := by
        intro cut others r hcut hscans hr
        refine hmost (closed ++ b :: cut) (List.prefix_append _ _) ?_ ?_
          ⟨_, r, hclosed.append (cons head hscans), hr⟩
        · exact (List.prefix_append_right_inj _).mpr (List.cons_prefix_cons.mpr ⟨rfl, hcut⟩)
        · intro heq
          simpa using congrArg List.length heq
      have hturn := Scanner.turn_of_step head
      rcases hturn.of_first_name hm (hopen [] [] n List.nil_prefix (nil n)) with
        ⟨name, rfl, hmarkup, rfl⟩
      rcases hclosed.exists_begin id hmarkup with
        ⟨outer, inner, chunk, others', rfl, houter, hinner, _⟩
      rw [hm] at houter hinner
      exact ⟨outer, inner, b, name, more, rfl, ⟨⟨_, chunk, houter⟩, m, hinner, head⟩,
        List.mem_append_right _ (List.mem_cons_self ..), ⟨others, tail⟩, hopen⟩

theorem Opening.isElement {outer inner rest : Bytes} {b : UInt8} {name : Bytes}
    (h : Opening outer inner b name) (hscans : Scans ⟨.text [], [name]⟩ rest items t)
    (ht : t.openNames = [])
    (hopen : forall cut others r, cut <+: rest -> cut ≠ rest ->
      Scans ⟨.text [], [name]⟩ cut others r -> r.openNames ≠ []) :
    IsElement name (0x3C :: inner ++ b :: rest) := by
  rcases h.markup with ⟨m, hinner, hstep⟩
  have htag : Scans .start (0x3C :: inner ++ [b]) [.opening name] ⟨.text [], [name]⟩ :=
    (Scans.of_begin hinner).append (Scans.single hstep)
  have hstart : t = .start := by
    rcases List.eq_nil_or_concat rest with hnil | ⟨front, c, hconcat⟩
    · rw [hnil] at hscans
      cases hscans
      cases ht
    · rw [List.concat_eq_append] at hconcat
      subst hconcat
      rcases hscans.split with ⟨r, before, _, hfront, hlast, _⟩
      rcases hlast.of_single with ⟨_, hlast, _⟩
      have hr := hopen front before r (List.prefix_append _ _)
        (fun heq => by simpa using congrArg List.length heq) hfront
      exact (Scanner.turn_of_step hlast).of_last_name hr ht
  refine ⟨rfl, ⟨.opening name, items, rfl, ?_⟩, ?_⟩
  · rw [hstart] at hscans
    simpa using htag.append hscans
  · intro cut others u hpart hne hcut hu
    rcases prefix_append_cons hpart with hinside | ⟨more, rfl, hmore⟩
    · exact Or.inl (hinner.inMarkup_of_cut hinside hne hu)
    · right
      rcases hmore with ⟨left, rfl⟩
      rcases hscans.split with ⟨r, before, _, hbefore, _, _⟩
      have hwhole := htag.append hbefore
      rw [List.append_assoc] at hwhole
      rw [(hu.unique hwhole).1]
      exact hopen more before r (List.prefix_append _ _) (fun heq => hcut (by rw [← heq])) hbefore

theorem Scans.exists_element_around (h : Scans .start (front ++ back) items t)
    (ht : t.openNames = []) (hfront : Scans .start front given s) (hs : s.openNames ≠ []) :
    exists outer name whole after, front ++ back = outer ++ whole ++ after ∧
      (exists items chunk, Scans .start outer items ⟨.text chunk, []⟩) ∧
      IsElement name whole ∧ .opening name ∈ given ∧ outer <+: front ∧
      front <+: outer ++ whole := by
  rcases hfront.exists_opening hs with
    ⟨outer, inner, b, name, more, rfl, hopening, hgiven, ⟨others, hmore⟩, hopen⟩
  rcases hfront.after h with ⟨rest, hback⟩
  -- The element ends where nothing is open for the first time after its tag.
  rcases exists_shortest_cut (p := fun cut => exists items r,
      Scans ⟨.text [], [name]⟩ cut items r ∧ r.openNames = [])
      ⟨_, t, hmore.append hback, ht⟩ with
    ⟨rest', after, hrest, ⟨items', r, hscans, hr⟩, hleast⟩
  have helement := hopening.isElement hscans hr
    (fun cut others r hcut hne hcuts hr => hleast cut hcut hne ⟨others, r, hcuts, hr⟩)
  refine ⟨outer, name, _, after, ?_, hopening.text, helement, hgiven, ?_, ?_⟩
  · simp [hrest]
  · rw [List.append_assoc]
    exact List.prefix_append _ _
  · have hless : more <+: rest' := by
      rcases List.prefix_or_prefix_of_prefix (List.prefix_append more back)
          (hrest ▸ List.prefix_append rest' after) with hle | hle
      · exact hle
      · exact absurd hr (hopen rest' items' r hle hscans)
    rw [List.append_assoc]
    exact (List.prefix_append_right_inj _).mpr
      ((List.prefix_append_right_inj _).mpr (List.cons_prefix_cons.mpr ⟨rfl, hless⟩))

theorem IsElement.prefix_of_nothing_open {before element after whole left chunk name : Bytes}
    {names : List Bytes} (h : IsElement name element) (hnames : names ≠ [])
    (hbefore : Scans .start before given ⟨.text chunk, names⟩)
    (hwhole : Scans .start whole items ⟨.text [], []⟩) (hle : before <+: whole)
    (heq : before ++ (element ++ after) = whole ++ left) : before ++ element <+: whole := by
  rcases hle with ⟨piece, rfl⟩
  rw [List.append_assoc, List.append_cancel_left_eq] at heq
  rcases List.prefix_or_prefix_of_prefix (List.prefix_append element after)
      (heq ▸ List.prefix_append piece left) with hless | hless
  · exact (List.prefix_append_right_inj _).mpr hless
  · by_cases hsame : piece = element
    · exact hsame ▸ List.prefix_refl _
    · by_cases hnil : piece = []
      · rw [hnil, List.append_nil] at hwhole
        cases (hbefore.unique hwhole).1
        exact absurd rfl hnames
      · rcases h.scans_front hless hnil hsame chunk names with ⟨_, u, hpiece, hopen⟩
        rw [((hbefore.append hpiece).unique hwhole).1] at hopen
        rcases hopen with hmarkup | hopen
        · exact hmarkup.elim
        · exact absurd rfl hopen

end Markup
end FindingLedger
