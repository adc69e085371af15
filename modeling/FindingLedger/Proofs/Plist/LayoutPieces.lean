import FindingLedger.Proofs.Plist.Layout
import FindingLedger.Proofs.Plist.RootElement

/-!
# Pieces of a layout

Between elements a reader has blanks pending and a builder as the elements before have left it;
inside a leaf it has part of the text pending and the rest in the builder. Each piece of a
layout leads from one of these states to another: gaps change nothing between elements and add
blanks inside a leaf, and what stands in a leaf adds the text that it was written for.
-/

namespace FindingLedger
namespace Plist

open Markup (Item Scanner Scans Spells)

/-!
# States and what leads from one to another
-/

def Builder.reading (b : Builder) (leaf : Leaf) (text : List Char) : Builder :=
  { b with leaf := some (leaf, String.ofList text) }

inductive Between (names : List Bytes) (b : Builder) : Reader -> Prop where
  | blanks {gap : List Char} (hgap : Text.Blanks gap) :
      Between names b ⟨⟨.text (Text.encode gap).reverse, names⟩, b⟩

/-- Whether a reader has read so much text of a leaf, the last of it pending. -/
inductive Within (names : List Bytes) (b : Builder) (leaf : Leaf) : List Char -> Reader -> Prop
    where
  | spelled {spelling text : List Char} (taken : List Char) (hspells : Spells spelling text) :
      Within names b leaf (taken ++ text)
        ⟨⟨.text (Text.encode spelling).reverse, names⟩, b.reading leaf taken⟩

/-- Whether a reader turns into such a builder when it takes the text that is pending. -/
inductive Pauses (names : List Bytes) (c : Builder) : Reader -> Prop where
  | pending {chunk : Bytes} {b : Builder}
      (htake : Reader.take b (Scanner.pending chunk) = .ok c) :
      Pauses names c ⟨⟨.text chunk, names⟩, b⟩

/-- Whether characters lead from every reader of one kind to one of another kind. -/
def Leads (p : Reader -> Prop) (cs : List Char) (q : Reader -> Prop) : Prop :=
  forall r, p r -> exists items t, Reads r (Text.encode cs) items t ∧ q t

namespace Leads

variable {p q s : Reader -> Prop} {cs ds : List Char}

theorem nil (p : Reader -> Prop) : Leads p [] p :=
  fun r hr => ⟨[], r, Reads.nil r, hr⟩

theorem append (h : Leads p cs q) (h' : Leads q ds s) : Leads p (cs ++ ds) s := by
  intro r hr
  rcases h r hr with ⟨items, m, hfront, hm⟩
  rcases h' m hm with ⟨others, t, hback, ht⟩
  refine ⟨items ++ others, t, ?_, ht⟩
  rw [Text.encode_append]
  exact hfront.append hback

theorem weaken {p' q' : Reader -> Prop} (h : Leads p cs q) (hp : forall r, p' r -> p r)
    (hq : forall r, q r -> q' r) : Leads p' cs q' := by
  intro r hr
  rcases h r (hp r hr) with ⟨items, t, hreads, ht⟩
  exact ⟨items, t, hreads, hq t ht⟩

end Leads

/-!
# Pending text
-/

theorem spells_of_blanks {gap : List Char} (h : Text.Blanks gap) : Spells gap gap :=
  .of_plain (fun hmem => absurd (h _ hmem) (by decide))
    fun hmem => absurd (h _ hmem) (by decide)

theorem pending_encode (cs : List Char) :
    Scanner.pending (Text.encode cs).reverse = none ∧ cs = [] ∨
      Scanner.pending (Text.encode cs).reverse = some (.text (Text.encode cs)) := by
  unfold Scanner.pending
  split
  · rename_i hempty
    have hnil := List.reverse_eq_nil_iff.mp (List.isEmpty_iff.mp hempty)
    exact Or.inl ⟨rfl, Text.encode_eq_nil_iff.mp hnil⟩
  · rw [List.reverse_reverse]
    exact Or.inr rfl

theorem take_some (b : Builder) (item : Item) : Reader.take b (some item) = b.step item :=
  rfl

theorem stepText_blanks (b : Builder) {gap : List Char} (h : Text.Blanks gap) (fault : Error) :
    b.stepText (Text.encode gap) fault = .ok b := by
  unfold Builder.stepText
  rw [(spells_of_blanks h).textOf_eq]
  exact if_pos (List.all_eq_true.mpr h)

theorem Between.pauses {names : List Bytes} {b : Builder} {r : Reader} (h : Between names b r)
    (hleaf : b.leaf = none) : Pauses names b r := by
  cases h with
  | @blanks gap hgap =>
      refine Pauses.pending ?_
      rcases pending_encode gap with ⟨hpending, _⟩ | hpending
      · rw [hpending]
        rfl
      · rcases Builder.exists_step_text hleaf (Text.encode gap) with ⟨fault, hstep⟩
        rw [hpending, take_some, hstep]
        exact stepText_blanks b hgap fault

theorem between_start {names : List Bytes} {b : Builder} :
    Between names b ⟨⟨.text [], names⟩, b⟩ :=
  Between.blanks (List.forall_mem_nil _)

theorem Within.pauses {names : List Bytes} {b : Builder} {leaf : Leaf} {text : List Char}
    {r : Reader} (h : Within names b leaf text r) :
    Pauses names (b.reading leaf text) r := by
  cases h with
  | @spelled spelling text taken hspells =>
      refine Pauses.pending ?_
      rcases pending_encode spelling with ⟨hpending, hnil⟩ | hpending
      · subst hnil
        cases hspells
        rw [hpending, List.append_nil]
        rfl
      · rw [hpending]
        rw [take_some, Builder.step_of_leaf rfl]
        unfold Builder.stepLeaf
        dsimp only
        rw [hspells.textOf_eq]
        dsimp only [Builder.reading]
        rw [String.ofList_append]

/-!
# Markup
-/

theorem Reads.of_scans_item {s t : Scanner} {bytes : Bytes} {item : Item} {b c : Builder}
    (h : Scans s bytes [item] t) (hstep : b.step item = .ok c) :
    Reads ⟨s, b⟩ bytes [item] ⟨t, c⟩ := by
  generalize hitems : [item] = items at h
  -- The builder is `b` up to the byte that gives out the item, and `c` from there on.
  induction h with
  | nil =>
      cases hitems
  | @cons s m t byte rest given items head tail ih =>
      cases given with
      | none =>
          exact cons (m := ⟨m, b⟩) head rfl (ih hitems)
      | some other =>
          rw [Option.toList_some, List.singleton_append, List.cons.injEq] at hitems
          rcases hitems with ⟨rfl, rfl⟩
          exact cons (m := ⟨m, c⟩) head hstep (Reads.of_scans tail c)

theorem Leads.markup {names names' : List Bytes} {inner : List Char} {item : Item}
    {b c : Builder} (hscan : Scans ⟨.begun, names⟩ (Text.encode inner) [item] ⟨.text [], names'⟩)
    (hstep : b.step item = .ok c) :
    Leads (Pauses names b) ('<' :: inner) (fun t => t = ⟨⟨.text [], names'⟩, c⟩) := by
  intro r hr
  cases hr with
  | @pending chunk b₀ htake =>
      have hreads := Reads.cons (m := ⟨⟨.begun, names⟩, b⟩) (r := ⟨⟨.text chunk, names⟩, b₀⟩)
        (b := 0x3C) rfl htake (Reads.of_scans_item hscan hstep)
      exact ⟨_, _, hreads, rfl⟩

theorem reads_spelling {names : List Bytes} {b : Builder} {before spelling text : List Char}
    (h : Spells spelling text) :
    Reads ⟨⟨.text (Text.encode before).reverse, names⟩, b⟩ (Text.encode spelling) []
      ⟨⟨.text (Text.encode (before ++ spelling)).reverse, names⟩, b⟩ := by
  have hopen : 0x3C ∉ Text.encode spelling := by
    rw [Text.mem_encode_iff (by decide)]
    rintro ⟨c, hc, heq⟩
    have hc' : c = '<' := Char.toNat_inj.mp heq
    exact h.open_not_mem (hc' ▸ hc)
  rw [Text.encode_append, List.reverse_append]
  exact Reads.of_scans (Scans.of_text hopen) b

/-!
# Gaps
-/

theorem step_silent (b : Builder) : b.step .silent = .ok b := by
  rcases b.exists_position with ⟨step, hposition, hstep⟩
  rw [hstep]
  cases hposition with
  | leaf | top | dict | array =>
      rfl

theorem leads_comment {names : List Bytes} {b : Builder} {text : List Char}
    (h : '-' ∉ text) :
    Leads (Pauses names b) ("<!--".toList ++ text ++ "-->".toList)
      (fun t => t = ⟨⟨.text [], names⟩, b⟩) :=
  Leads.markup (Markup.scans_comment h) (step_silent b)

theorem blanks_singleton {c : Char} (h : Text.isBlank c = true) : Text.Blanks [c] :=
  List.forall_mem_singleton.mpr h

theorem Gap.leads {cs : List Char} (h : Gap cs) {names : List Bytes} {b : Builder}
    (hleaf : b.leaf = none) : Leads (Between names b) cs (Between names b) := by
  induction h with
  | nil =>
      exact Leads.nil _
  | @blank c rest hc _ ih =>
      have hblank := blanks_singleton hc
      have hfirst : Leads (Between names b) [c] (Between names b) := by
        intro r hr
        cases hr with
        | blanks hgap =>
            exact ⟨_, _, reads_spelling (spells_of_blanks hblank),
              Between.blanks (hgap.append hblank)⟩
      exact hfirst.append ih
  | comment hhyphen _ _ ih =>
      have hfirst : Leads (Between names b) _ (Between names b) :=
        (leads_comment hhyphen).weaken (fun r hr => Between.pauses hr hleaf)
          fun t ht => ht ▸ between_start
      exact hfirst.append ih

/-!
# Content of leaves
-/

section Leaves

variable {names : List Bytes} {b : Builder} {leaf : Leaf}

theorem within_start (text : List Char) :
    Within names b leaf text ⟨⟨.text [], names⟩, b.reading leaf text⟩ := by
  have hwithin : Within names b leaf (text ++ []) _ := Within.spelled text Spells.nil
  rwa [List.append_nil] at hwithin

theorem leads_spelling {spelling more : List Char} (h : Spells spelling more)
    (text : List Char) :
    Leads (Within names b leaf text) spelling (Within names b leaf (text ++ more)) := by
  intro r hr
  cases hr with
  | spelled taken hspells =>
      refine ⟨_, _, reads_spelling h, ?_⟩
      rw [List.append_assoc]
      exact Within.spelled taken (hspells.append h)

theorem Gap.exists_blanks {cs : List Char} (h : Gap cs) :
    exists blanks, Text.Blanks blanks ∧ forall names b leaf text,
      Leads (Within names b leaf text) cs (Within names b leaf (text ++ blanks)) := by
  induction h with
  | nil =>
      refine ⟨[], List.forall_mem_nil _, ?_⟩
      intro names b leaf text
      rw [List.append_nil]
      exact Leads.nil _
  | @blank c rest hc _ ih =>
      rcases ih with ⟨blanks, hblanks, hrest⟩
      refine ⟨c :: blanks, List.forall_mem_cons.mpr ⟨hc, hblanks⟩, ?_⟩
      intro names b leaf text
      rw [List.append_cons]
      have hspells := spells_of_blanks (blanks_singleton hc)
      exact (leads_spelling hspells text).append (hrest names b leaf _)
  | comment hhyphen _ _ ih =>
      rcases ih with ⟨blanks, hblanks, hrest⟩
      refine ⟨blanks, hblanks, ?_⟩
      intro names b leaf text
      have hfirst : Leads (Within names b leaf text) _ (Within names b leaf text) :=
        (leads_comment hhyphen).weaken (fun r hr => Within.pauses hr)
          fun t ht => ht ▸ within_start _
      exact hfirst.append (hrest names b leaf text)

theorem Content.leads {inner more : List Char} (h : Content inner more) (text : List Char) :
    Leads (Within names b leaf text) inner (Within names b leaf (text ++ more)) := by
  induction h generalizing text with
  | nil =>
      rw [List.append_nil]
      exact Leads.nil _
  | spelled hspells _ ih =>
      rw [← List.append_assoc]
      exact (leads_spelling hspells text).append (ih _)
  | @marked part rest more htext _ ih =>
      have hstep : (b.reading leaf text).step (.cdata (Text.encode part)) =
          .ok (b.reading leaf (text ++ part)) := by
        rw [Builder.step_of_leaf rfl]
        unfold Builder.stepLeaf
        dsimp only [Builder.reading]
        rw [Text.decodeLenient_encode, String.ofList_append]
      have hfirst : Leads (Within names b leaf text) _ (Within names b leaf (text ++ part)) :=
        (Leads.markup (Markup.scans_cdata htext) hstep).weaken (fun r hr => Within.pauses hr)
          fun t ht => ht ▸ within_start _
      rw [← List.append_assoc]
      exact hfirst.append (ih _)

end Leaves

theorem Spread.filter_eq {spread text : List Char} (h : Spread spread text) :
    (spread.filter fun c => !Text.isBlank c) = text.filter fun c => !Text.isBlank c := by
  induction h with
  | nil =>
      rfl
  | @blank c spread text hc _ ih =>
      rw [List.filter_cons_of_neg (by simp [hc]), ih]
  | @keep c spread text _ ih =>
      rw [List.filter_cons, List.filter_cons, ih]

theorem fitsInt64_toInt (n : Int64) : Text.fitsInt64 n.toInt = true := by
  have hlow := n.le_toInt
  have hhigh := n.toInt_lt
  unfold Text.fitsInt64
  simp
  omega

theorem exists_blanks_around {before inner after text : List Char} (hbefore : Gap before)
    (hinner : Content inner text) (hafter : Gap after) :
    exists front back, Text.Blanks front ∧ Text.Blanks back ∧ forall names b leaf,
      Leads (Within names b leaf []) (before ++ inner ++ after)
        (Within names b leaf (front ++ text ++ back)) := by
  rcases hbefore.exists_blanks with ⟨front, hfront, hleads⟩
  rcases hafter.exists_blanks with ⟨back, hback, hleads'⟩
  refine ⟨front, back, hfront, hback, ?_⟩
  intro names b leaf
  exact ((hleads names b leaf []).append (hinner.leads _)).append (hleads' names b leaf _)

theorem WritesLeaf.exists_text {leaf : Leaf} {inner : List Char} {t : Tree}
    (h : WritesLeaf leaf inner t) :
    exists text : List Char, Builder.leafValue leaf (String.ofList text) = .ok t.value ∧
      forall names b, Leads (Within names b leaf []) inner (Within names b leaf text) := by
  cases h with
  | string hinner =>
      refine ⟨_, ?_, fun names b => hinner.leads []⟩
      rw [List.nil_append, String.ofList_toList]
      rfl
  | date hbefore hinner hafter =>
      rcases exists_blanks_around hbefore hinner hafter with ⟨front, back, hfront, hback, h⟩
      refine ⟨_, ?_, fun names b => h names b .date⟩
      simp only [Builder.leafValue, Tree.value, Text.trim, String.toList_ofList,
        Text.trimChars_between_blanks hfront hback]
  | data hinner hspread =>
      refine ⟨_, ?_, fun names b => hinner.leads []⟩
      simp only [Builder.leafValue, Tree.value, String.toList_ofList, List.nil_append,
        hspread.filter_eq]
  | integer hbefore hinner hafter =>
      rcases exists_blanks_around hbefore hinner hafter with ⟨front, back, hfront, hback, h⟩
      refine ⟨_, ?_, fun names b => h names b .integer⟩
      simp only [Builder.leafValue, Tree.value, String.toList_ofList,
        Text.readInt64?_trimChars_toString (fitsInt64_toInt _) hfront hback]
  | boolean value =>
      exact ⟨[], rfl, fun names b => Leads.nil _⟩

end Plist
end FindingLedger
