import FindingLedger.Proofs.Plist.LayoutPieces
import FindingLedger.Proofs.Plist.Truncation

/-!
# Documents are read back

Reading undoes writing under every layout. An element leads from between two elements to
between two elements and puts what its tree is worth where a value is due, by induction on how
it is written. Inside a container the scanner has one more name open and the builder one more
frame, which is what bounds the depth of the tree.
-/

namespace FindingLedger
namespace Plist

open Markup (Scanner Spells IsName)

/-!
# Tags
-/

/-- Whether an opening tag begins a value. -/
structure Builder.Due (b : Builder) : Prop where
  leaf : b.leaf = none
  opens : forall name : String, name ≠ "key" ->
    b.step (.opening (Text.bytesOf name)) = b.beginValue name

theorem encode_tag (name : String) :
    Text.encode (name.toList ++ ['>']) = Text.bytesOf name ++ [0x3E] :=
  Text.encode_append _ _

theorem leads_openingTag {names : List Bytes} {b c : Builder} {name : String}
    (hname : IsName (Text.bytesOf name))
    (hstep : b.step (.opening (Text.bytesOf name)) = .ok c) :
    Leads (Pauses names b) (openingTag name)
      (fun t => t = ⟨⟨.text [], Text.bytesOf name :: names⟩, c⟩) := by
  have hscan := @Markup.scans_opening _ names hname
  rw [← encode_tag] at hscan
  exact Leads.markup hscan hstep

theorem leads_closingTag {names : List Bytes} {b c : Builder} {name : String}
    (hname : IsName (Text.bytesOf name))
    (hstep : b.step (.closing (Text.bytesOf name)) = .ok c) :
    Leads (Pauses (Text.bytesOf name :: names) b) (closingTag name)
      (fun t => t = ⟨⟨.text [], names⟩, c⟩) := by
  have hscan := @Markup.scans_closing _ names hname
  rw [List.cons_append, ← encode_tag] at hscan
  exact Leads.markup hscan hstep

theorem isName_leaf (leaf : Leaf) : IsName (Text.bytesOf leaf.name) := by
  cases leaf with
  | boolean value =>
      cases value with
      | true | false =>
          exact ⟨by decide, by decide⟩
  | _ =>
      exact ⟨by decide, by decide⟩

/-!
# Values
-/

namespace Builder

def withFrame (b : Builder) (frame : Frame) : Builder :=
  { b with frames := frame :: b.frames }

section Due

variable {b : Builder}

theorem due_of_root (hleaf : b.leaf = none) (hframes : b.frames = [])
    (hplist : b.inPlist = true) (hroot : b.root = none) : b.Due := by
  refine ⟨hleaf, ?_⟩
  intro name _
  rw [step_of_top hleaf hframes]
  simp [stepTop, hplist, hroot, Text.decodeLenient_bytesOf]

theorem due_of_key (hleaf : b.leaf = none) (entries : List (String × Value)) (key : String) :
    (b.withFrame (.dict entries (some key))).Due := by
  refine ⟨hleaf, ?_⟩
  intro name hname
  have hkey : (name == "key") = false := by
    simpa using hname
  rw [step_of_dict (b := b.withFrame _) hleaf rfl]
  simp only [stepDict, Text.decodeLenient_bytesOf, hkey]

theorem due_of_array (hleaf : b.leaf = none) (items : List Value) :
    (b.withFrame (.array items)).Due := by
  refine ⟨hleaf, ?_⟩
  intro name _
  rw [step_of_array (b := b.withFrame _) hleaf rfl, stepArray, Text.decodeLenient_bytesOf]

theorem beginValue_dict (h : b.frames.length < maxDepth) :
    b.beginValue "dict" = .ok (b.withFrame (.dict [] none)) := by
  unfold beginValue
  rw [if_neg (Nat.not_le.mpr h)]
  rfl

theorem beginValue_array (h : b.frames.length < maxDepth) :
    b.beginValue "array" = .ok (b.withFrame (.array [])) := by
  unfold beginValue
  rw [if_neg (Nat.not_le.mpr h)]
  rfl

theorem beginValue_leaf {leaf : Leaf} (h : b.frames.length < maxDepth) (hleaf : leaf ≠ .key) :
    b.beginValue leaf.name = .ok (b.reading leaf []) := by
  unfold beginValue
  rw [if_neg (Nat.not_le.mpr h)]
  cases leaf with
  | key =>
      exact absurd rfl hleaf
  | boolean value =>
      cases value with
      | true | false =>
          rfl
  | _ =>
      rfl

theorem reading_ended {leaf : Leaf} {text : List Char} (hleaf : b.leaf = none) :
    { b.reading leaf text with leaf := none } = b := by
  rw [← hleaf]
  rfl

theorem endLeaf_reading {leaf : Leaf} {text : List Char} {v : Value} (hleaf : b.leaf = none)
    (hkey : leaf ≠ .key) (hvalue : leafValue leaf (String.ofList text) = .ok v) :
    (b.reading leaf text).endLeaf leaf (String.ofList text) = .ok (b.place v) := by
  unfold endLeaf
  rw [reading_ended hleaf]
  cases leaf with
  | key =>
      exact absurd rfl hkey
  | _ =>
      dsimp only
      rw [hvalue]
      rfl

end Due

end Builder

theorem leaf_name_ne_key {leaf : Leaf} (h : leaf ≠ .key) : leaf.name ≠ "key" := by
  cases leaf with
  | key =>
      exact absurd rfl h
  | boolean value =>
      cases value with
      | true | false =>
          decide
  | _ =>
      decide

theorem WritesLeaf.ne_key {leaf : Leaf} {inner : List Char} {t : Tree}
    (h : WritesLeaf leaf inner t) : leaf ≠ .key ∧ t.depth = 1 := by
  cases h with
  | _ =>
      exact ⟨Leaf.noConfusion, rfl⟩

/-!
# Elements
-/

section Elements

variable {names : List Bytes} {b : Builder}

/-- An element is read by its opening tag, by what stands in it and by its closing tag. -/
theorem leads_element {name : String} {inner : List Char} {c d e : Builder}
    {p q : Reader -> Prop} (hname : IsName (Text.bytesOf name)) (hleaf : b.leaf = none)
    (hopen : b.step (.opening (Text.bytesOf name)) = .ok c)
    (hclose : d.step (.closing (Text.bytesOf name)) = .ok e)
    (hstart : p ⟨⟨.text [], Text.bytesOf name :: names⟩, c⟩) (hinner : Leads p inner q)
    (hend : forall r, q r -> Pauses (Text.bytesOf name :: names) d r) :
    Leads (Between names b) (element name inner) (Between names e) := by
  have hfirst : Leads (Between names b) (openingTag name) p :=
    (leads_openingTag hname hopen).weaken (fun r hr => hr.pauses hleaf)
      fun t ht => ht ▸ hstart
  have hlast : Leads q (closingTag name) (Between names e) :=
    (leads_closingTag hname hclose).weaken hend fun t ht => ht ▸ between_start
  exact (hfirst.append hinner).append hlast

theorem WritesLeaf.leads {leaf : Leaf} {inner : List Char} {t : Tree}
    (h : WritesLeaf leaf inner t) (hdue : b.Due) (hdepth : b.frames.length < maxDepth) :
    Leads (Between names b) (element leaf.name inner) (Between names (b.place t.value)) := by
  rcases h.exists_text with ⟨text, hvalue, hinner⟩
  have hkey := h.ne_key.1
  have hopen : b.step (.opening (Text.bytesOf leaf.name)) = .ok (b.reading leaf []) := by
    rw [hdue.opens _ (leaf_name_ne_key hkey), Builder.beginValue_leaf hdepth hkey]
  have hclose : (b.reading leaf text).step (.closing (Text.bytesOf leaf.name)) =
      .ok (b.place t.value) :=
    Builder.endLeaf_reading hdue.leaf hkey hvalue
  exact leads_element (isName_leaf leaf) hdue.leaf hopen hclose (within_start [])
    (hinner _ b) fun r hr => hr.pauses

theorem leads_key {inner : List Char} {key : String} (h : Content inner key.toList)
    (hleaf : b.leaf = none) (entries : List (String × Value)) :
    Leads (Between names (b.withFrame (.dict entries none))) (element "key" inner)
      (Between names (b.withFrame (.dict entries (some key)))) := by
  have hopen : (b.withFrame (.dict entries none)).step (.opening (Text.bytesOf "key")) =
      .ok ((b.withFrame (.dict entries none)).reading .key []) := by
    rw [Builder.step_of_dict (b := b.withFrame _) hleaf rfl]
    simp only [Builder.stepDict, Text.decodeLenient_bytesOf]
    rfl
  have hclose : ((b.withFrame (.dict entries none)).reading .key key.toList).step
      (.closing (Text.bytesOf "key")) = .ok (b.withFrame (.dict entries (some key))) := by
    rw [Builder.step_of_leaf rfl]
    show Except.ok (Builder.setKey { Builder.reading _ .key key.toList with leaf := none }
      (String.ofList key.toList)) = _
    rw [Builder.reading_ended (b := b.withFrame _) hleaf, String.ofList_toList]
    rfl
  exact leads_element (isName_leaf .key) hleaf hopen hclose (within_start [])
    (h.leads []) fun r hr => hr.pauses

theorem leads_container {name : String} {inner : List Char} {frame last : Frame} {v : Value}
    (hname : IsName (Text.bytesOf name)) (hkey : name ≠ "key") (hdue : b.Due)
    (hopen : b.beginValue name = .ok (b.withFrame frame))
    (hinner : Leads (Between (Text.bytesOf name :: names) (b.withFrame frame)) inner
      (Between (Text.bytesOf name :: names) (b.withFrame last)))
    (hclose : (b.withFrame last).step (.closing (Text.bytesOf name)) = .ok (b.place v)) :
    Leads (Between names b) (element name inner) (Between names (b.place v)) := by
  rw [← hdue.opens name hkey] at hopen
  exact leads_element hname hdue.leaf hopen hclose between_start hinner
    fun r hr => hr.pauses hdue.leaf

end Elements

mutual

theorem WritesTree.leads {cs : List Char} {t : Tree} (h : WritesTree cs t)
    (names : List Bytes) {b : Builder} (hdue : b.Due)
    (hdepth : b.frames.length + t.depth ≤ maxDepth) :
    Leads (Between names b) cs (Between names (b.place t.value)) := by
  cases h with
  | @dict inner gap entries hentries hgap =>
      -- The level of the container itself is the frame that is open while it is read.
      rw [Tree.depth] at hdepth
      have hopen := Builder.beginValue_dict (b := b) (by omega)
      have hinner := hentries.leads (Text.bytesOf "dict" :: names) hdue.leaf (by omega) []
      have hvalue := Entries.ofList_eq_settled (Tree.entryValues entries)
      refine leads_container (by exact ⟨by decide, by decide⟩) (by decide) hdue hopen
        (hinner.append (hgap.leads hdue.leaf)) ?_
      rw [Tree.value, ← hvalue, Builder.step_of_dict (b := b.withFrame _) hdue.leaf rfl]
      rfl
  | @array inner gap items hitems hgap =>
      rw [Tree.depth] at hdepth
      have hopen := Builder.beginValue_array (b := b) (by omega)
      have hinner := hitems.leads (Text.bytesOf "array" :: names) hdue.leaf (by omega) []
      refine leads_container (by exact ⟨by decide, by decide⟩) (by decide) hdue hopen
        (hinner.append (hgap.leads hdue.leaf)) ?_
      rw [Tree.value, Builder.step_of_array (b := b.withFrame _) hdue.leaf rfl]
      rfl
  | leaf hleaf =>
      exact hleaf.leads hdue (by rw [hleaf.ne_key.2] at hdepth; omega)

theorem WritesItems.leads {cs : List Char} {items : List Tree} (h : WritesItems cs items)
    (names : List Bytes) {b : Builder} (hleaf : b.leaf = none)
    (hdepth : b.frames.length + 1 + Tree.itemDepth items ≤ maxDepth) (before : List Value) :
    Leads (Between names (b.withFrame (.array before))) cs
      (Between names (b.withFrame (.array (before ++ Tree.itemValues items)))) := by
  cases h with
  | nil =>
      rw [Tree.itemValues, List.append_nil]
      exact Leads.nil _
  | @cons gap item rest t items hgap hitem hrest =>
      rw [Tree.itemDepth] at hdepth
      have hdue := Builder.due_of_array hleaf before
      have hfirst := hitem.leads names hdue
        (by show b.frames.length + 1 + _ ≤ _; omega)
      have hothers := hrest.leads names hleaf (by omega) (before ++ [t.value])
      rw [Tree.itemValues, List.append_cons]
      exact ((hgap.leads hdue.leaf).append hfirst).append hothers

theorem WritesEntries.leads {cs : List Char} {entries : List (String × Tree)}
    (h : WritesEntries cs entries) (names : List Bytes) {b : Builder} (hleaf : b.leaf = none)
    (hdepth : b.frames.length + 1 + Tree.entryDepth entries ≤ maxDepth)
    (before : List (String × Value)) :
    Leads (Between names (b.withFrame (.dict before none))) cs
      (Between names (b.withFrame (.dict ((Tree.entryValues entries).foldl
        (fun dict entry => Entries.put dict entry.1 entry.2) before) none))) := by
  cases h with
  | nil =>
      exact Leads.nil _
  | @cons gap inner between item rest key t entries hgap hkey hbetween hitem hrest =>
      rw [Tree.entryDepth] at hdepth
      have hdue := Builder.due_of_key hleaf before key
      have hfirst := hitem.leads names hdue
        (by show b.frames.length + 1 + _ ≤ _; omega)
      have hothers := hrest.leads names hleaf (by omega)
        (Entries.put before key t.value)
      have hstart : Leads (Between names (b.withFrame (.dict before none))) _ _ :=
        (hgap.leads (b := b.withFrame _) hleaf).append (leads_key hkey hleaf before)
      exact ((hstart.append (hbetween.leads hdue.leaf)).append hfirst).append hothers

end

/-!
# Documents
-/

theorem dropMark_encode {cs : List Char} (h : cs.head? ≠ some '\uFEFF') :
    dropMark (Text.encode cs) = Text.encode cs := by
  refine dropMark_eq_self ?_
  rintro ⟨rest, heq⟩
  have hmark : mark = String.utf8EncodeChar '\uFEFF' := by
    decide
  have hpieces := Text.utf8Pieces_encode cs
  rw [← heq, hmark, Text.utf8Pieces, Text.utf8PiecesAfter_utf8EncodeChar] at hpieces
  cases cs with
  | nil =>
      cases hpieces
  | cons c cs =>
      rw [List.map_cons, List.cons.injEq, Text.Utf8Piece.char.injEq] at hpieces
      rw [List.head?_cons, ← hpieces.1] at h
      exact h rfl

theorem Gap.head?_append_ne {gap : List Char} (h : Gap gap) (rest : List Char) :
    (gap ++ '<' :: rest).head? ≠ some '\uFEFF' := by
  cases h with
  | nil =>
      simp
  | blank hc =>
      intro heq
      cases heq
      exact absurd hc (by decide)
  | comment =>
      simp

theorem WritesDocument.exists_begin {cs : List Char} {t : Tree} (h : WritesDocument cs t) :
    exists gap rest, cs = gap ++ '<' :: rest ∧ Gap gap := by
  cases h with
  | plist hleading =>
      exact ⟨_, _, List.append_assoc _ _ _, hleading⟩

theorem Pauses.finish_eq {names : List Bytes} {b : Builder} {r : Reader} {v : Option Value}
    (h : Pauses names b r) (hfinish : b.finish = .ok v) : r.finish = .ok v := by
  cases h with
  | @pending chunk c htake =>
      have hscanner : Scanner.finish ⟨.text chunk, names⟩ = .ok (Scanner.pending chunk) := by
        cases chunk with
        | nil =>
            rfl
        | cons b chunk =>
            rfl
      unfold Reader.finish
      rw [hscanner]
      dsimp only
      rw [htake]
      exact hfinish

theorem WritesDocument.leads {cs : List Char} {t : Tree} (h : WritesDocument cs t)
    (hdepth : t.depth ≤ maxDepth) :
    Leads (Between [] .start) cs (Between [] { Builder.start with root := some t.value }) := by
  cases h with
  | plist hleading hbefore hitem hafter htrailing =>
      have hopen : Builder.start.step (.opening (Text.bytesOf "plist")) =
          .ok { Builder.start with inPlist := true } := by
        rw [Builder.step_of_top rfl rfl]
        simp only [Builder.stepTop, Text.decodeLenient_bytesOf]
        rfl
      have hdue : Builder.Due { Builder.start with inPlist := true } :=
        Builder.due_of_root rfl rfl rfl rfl
      have hvalue := hitem.leads [Text.bytesOf "plist"] hdue (by show 0 + _ ≤ _; omega)
      have hinner := ((hbefore.leads hdue.leaf).append hvalue).append (hafter.leads rfl)
      have hplist : Leads (Between [] .start) _ (Between [] _) :=
        leads_element ⟨by decide, by decide⟩ rfl hopen rfl between_start hinner
          fun r hr => hr.pauses rfl
      exact ((hleading.leads rfl).append hplist).append (htrailing.leads rfl)

/-- Every tree of at most so many levels can be written, and what it is worth is read from
every document that is written for it. -/
theorem Tree.exists_writes_and_read {t : Tree} (hdepth : t.depth ≤ maxDepth) :
    (exists cs, WritesDocument cs t) ∧
      forall cs, WritesDocument cs t -> read (Text.encode cs) = .ok (some t.value) := by
  refine ⟨exists_writesDocument t, ?_⟩
  intro cs h
  rcases h.exists_begin with ⟨gap, rest, hcs, hgap⟩
  rcases h.leads hdepth .start between_start with ⟨items, r, hreads, hr⟩
  have hmark : dropMark (Text.encode cs) = Text.encode cs :=
    dropMark_encode (hcs ▸ hgap.head?_append_ne rest)
  have hopen : 0x3C ∈ Text.encode cs := by
    rw [Text.mem_encode_iff (by decide), hcs]
    exact ⟨'<', List.mem_append_right _ List.mem_cons_self, rfl⟩
  have hblank : (Text.encode cs).all isAsciiBlank = false :=
    List.all_eq_false.mpr ⟨0x3C, hopen, by decide⟩
  have hpauses := hr.pauses rfl
  exact read_eq_ok_iff.mpr
    (Or.inr ⟨hblank, items, r, hmark.symm ▸ hreads, hpauses.finish_eq rfl⟩)

def crowdedTree : Tree :=
  .dict [("a&b", .array [.integer (-7), .boolean true]), (" k", .string "1 < 2 & 3"),
    ("a&b", .data "QU I=")]

def crowdedText : List Char :=
  "<plist>\u2003<!--<x&--><dict><key>a&amp;b</key><array><integer>-7<!--n--> ".toList ++
    "</integer><true></true></array><key> k</key>\n<string>1 &lt; <![CDATA[2 & 3".toList ++
    "]]></string><key><![CDATA[a&b]]></key><data>Q\nU I=</data></dict></plist>".toList

theorem writesDocument_crowdedText : WritesDocument crowdedText crowdedTree := by
  have hnumber : WritesLeaf .integer ([] ++ "-7".toList ++ "<!--n--> ".toList) (.integer (-7)) :=
    .integer .nil (Content.of_spells (.of_plain (by decide) (by decide)))
      (@Gap.comment "n".toList _ (by decide) (by decide) (.blank (by decide) .nil))
  have hitems := WritesItems.cons .nil (.leaf hnumber)
    (.cons .nil (.leaf (.boolean true)) .nil)
  have hkey : Content "a&amp;b".toList "a&b".toList :=
    Content.of_spells (.plain (by decide) (by decide) (@Spells.named '&' "amp".toList _ _ rfl
      (.plain (by decide) (by decide) .nil)))
  have htext : Content "1 &lt; <![CDATA[2 & 3]]>".toList "1 < 2 & 3".toList := by
    have hfront : Spells "1 &lt; ".toList "1 < ".toList :=
      .plain (by decide) (by decide) (.plain (by decide) (by decide)
        (@Spells.named '<' "lt".toList _ _ rfl (.plain (by decide) (by decide) .nil)))
    exact .spelled hfront (@Content.marked "2 & 3".toList _ _ (by decide) .nil)
  have hmarked : Content "<![CDATA[a&b]]>".toList "a&b".toList :=
    @Content.marked "a&b".toList _ _ (by decide) .nil
  have hdata : WritesLeaf .data "Q\nU I=".toList (.data "QU I=") :=
    .data (Content.of_spells (.of_plain (by decide) (by decide)))
      (.keep (.blank (by decide) (Spread.refl "U I=".toList)))
  have hbreak : Gap "\n".toList :=
    .blank (by decide) .nil
  have hleading : Gap "\u2003<!--<x&-->".toList :=
    .blank (by decide) (@Gap.comment "<x&".toList _ (by decide) (by decide) .nil)
  have hplain : Content " k".toList " k".toList :=
    Content.of_spells (.of_plain (by decide) (by decide))
  have hlast := WritesEntries.cons .nil hmarked .nil (.leaf hdata) .nil
  have hsecond := WritesEntries.cons .nil hplain hbreak (.leaf (.string htext)) hlast
  have hentries := WritesEntries.cons .nil hkey .nil (.array hitems .nil) hsecond
  have hdocument := WritesDocument.plist .nil hleading (.dict hentries .nil) .nil .nil
  refine Eq.subst (motive := fun cs => WritesDocument cs crowdedTree) ?_ hdocument
  decide +kernel

theorem read_crowdedText :
    crowdedTree.depth ≤ maxDepth ∧ WritesDocument crowdedText crowdedTree ∧
      read (Text.encode crowdedText) =
        .ok (some (.dict [("a&b", .data "QUI="), (" k", .string "1 < 2 & 3")])) :=
  have hdepth : crowdedTree.depth ≤ maxDepth := by decide
  ⟨hdepth, writesDocument_crowdedText,
    (Tree.exists_writes_and_read hdepth).2 _ writesDocument_crowdedText⟩

end Plist
end FindingLedger
