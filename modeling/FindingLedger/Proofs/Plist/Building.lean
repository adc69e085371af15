import FindingLedger.Plist.Builder
import FindingLedger.Proofs.Markup.Scanning

/-!
# What items do to a builder

An item begins a value or goes on with one, ends the innermost value, or opens and closes the
document element. The kinds of change are named here, with what each of them does to the number
of open values, to the value of the document and to the document element.
-/

namespace FindingLedger
namespace Plist

open Markup (Item)

namespace Builder

/-!
# Open values
-/

def depth (b : Builder) : Nat :=
  b.frames.length + b.leaf.toList.length

def KeyInside (b : Builder) : Prop :=
  forall text, b.leaf = some (.key, text) -> b.frames ≠ []

theorem keyInside_of_leaf {b : Builder} (h : b.leaf = none) : b.KeyInside := by
  intro text hkey
  rw [h] at hkey
  cases hkey

theorem keyInside_of_frames {b : Builder} (h : b.frames ≠ []) : b.KeyInside :=
  fun _ _ => h

/-- Whether the values that are open can be open together: a key stands in a container, and
there is no value of the document while one is open. -/
structure Sound (b : Builder) : Prop where
  key : b.KeyInside
  root : 0 < b.depth -> b.root = none

theorem sound_start : start.Sound :=
  ⟨keyInside_of_leaf rfl, fun h => absurd h (Nat.lt_irrefl 0)⟩

def opensPlist (b : Builder) (name : Bytes) : Bool :=
  Text.decodeLenient name == "plist" && !b.inPlist

theorem opensPlist_iff {b : Builder} {name : Bytes} :
    b.opensPlist name = true <-> Text.decodeLenient name = "plist" ∧ b.inPlist = false := by
  rw [opensPlist, Bool.and_eq_true, beq_iff_eq, Bool.not_eq_true']

/-- What an item does to a builder. -/
inductive Change (b : Builder) : Item -> Builder -> Prop where
  | content {item : Item} {c : Builder} (content : item.IsContent) (depth : c.depth = b.depth)
      (root : c.root = b.root) (inPlist : c.inPlist = b.inPlist)
      (key : b.KeyInside -> c.KeyInside) : Change b item c
  | plistBegins {name : Bytes} (depth : b.depth = 0) (plist : b.opensPlist name = true) :
      Change b (.opening name) { b with inPlist := true }
  | plistEmpty {name : Bytes} (depth : b.depth = 0) (plist : b.opensPlist name = true) :
      Change b (.selfClosing name) b
  | begins {name : Bytes} {c : Builder} (depth : c.depth = b.depth + 1) (root : c.root = b.root)
      (inPlist : c.inPlist = b.inPlist) (key : c.KeyInside)
      (first : b.depth = 0 -> b.root = none ∧ Text.decodeLenient name ≠ "plist") :
      Change b (.opening name) c
  | rootEmpty {name : Bytes} {v : Value} (depth : b.depth = 0) (root : b.root = none)
      (named : Text.decodeLenient name ≠ "plist") :
      Change b (.selfClosing name) { b with root := some v }
  | innerEmpty {name : Bytes} {c : Builder} (inner : 0 < b.depth) (depth : c.depth = b.depth)
      (root : c.root = b.root) (inPlist : c.inPlist = b.inPlist) (key : c.KeyInside) :
      Change b (.selfClosing name) c
  | plistEnds {name : Bytes} (depth : b.depth = 0) :
      Change b (.closing name) { b with inPlist := false }
  | rootEnds {name : Bytes} {c : Builder} {v : Value} (before : b.depth = 1)
      (after : c.depth = 0) (root : c.root = some v) (inPlist : c.inPlist = b.inPlist)
      (key : c.KeyInside) :
      Change b (.closing name) c
  | innerEnds {name : Bytes} {c : Builder} (depth : b.depth = c.depth + 1) (inner : 0 < c.depth)
      (root : c.root = b.root) (inPlist : c.inPlist = b.inPlist) (key : c.KeyInside) :
      Change b (.closing name) c

/-!
# Steps
-/

section Steps

variable {b c : Builder}

theorem depth_of_frames {frames : List Frame} {leaf : Option (Leaf × String)}
    (hframes : b.frames = frames) (hleaf : b.leaf = leaf) :
    b.depth = frames.length + leaf.toList.length := by
  rw [depth, hframes, hleaf]

theorem stepText_eq_ok {chunk : Bytes} {fault : Error} (h : b.stepText chunk fault = .ok c) :
    c = b := by
  unfold stepText at h
  split at h
  · split at h
    · cases h
      rfl
    · cases h
  · cases h

theorem place_of_nil {v : Value} (h : b.frames = []) : b.place v = { b with root := some v } := by
  rw [place, h]

theorem place_leaf (b : Builder) (v : Value) : (b.place v).leaf = b.leaf := by
  unfold place
  split <;> rfl

theorem place_of_cons {v : Value} (h : b.frames ≠ []) :
    (b.place v).frames.length = b.frames.length ∧ (b.place v).frames ≠ [] ∧
      (b.place v).root = b.root ∧ (b.place v).inPlist = b.inPlist := by
  rcases List.exists_cons_of_ne_nil h with ⟨frame, outer, hframes⟩
  cases frame with
  | dict entries key =>
      rw [place, hframes]
      exact ⟨rfl, List.cons_ne_nil _ _, rfl, rfl⟩
  | array items =>
      rw [place, hframes]
      exact ⟨rfl, List.cons_ne_nil _ _, rfl, rfl⟩

theorem ofName?_eq_some {name : String} {leaf : Leaf} (h : Leaf.ofName? name = some leaf) :
    leaf ≠ .key ∧ name ≠ "plist" := by
  have hname : leaf.name = name := by simpa using List.find?_some h
  have hmem := List.mem_of_find?_eq_some h
  rw [← hname]
  constructor
  · intro hkey
    rw [hkey] at hmem
    exact absurd hmem (by decide)
  · cases leaf with
    | boolean value =>
        cases value with
        | true =>
            decide
        | false =>
            decide
    | _ =>
        decide

theorem beginValue_eq_ok {name : String} (h : b.beginValue name = .ok c) :
    name ≠ "plist" ∧ ((exists frame, c = { b with frames := frame :: b.frames }) ∨
      exists leaf, leaf ≠ Leaf.key ∧ c = { b with leaf := some (leaf, "") }) := by
  unfold beginValue at h
  split at h
  · cases h
  · split at h
    · rename_i hname
      cases h
      rw [beq_iff_eq.mp hname]
      exact ⟨by decide, Or.inl ⟨_, rfl⟩⟩
    · split at h
      · rename_i hname
        cases h
        rw [beq_iff_eq.mp hname]
        exact ⟨by decide, Or.inl ⟨_, rfl⟩⟩
      · split at h
        · rename_i leaf hleaf
          cases h
          have hsome := ofName?_eq_some hleaf
          exact ⟨hsome.2, Or.inr ⟨leaf, hsome.1, rfl⟩⟩
        · cases h

theorem emptyElement_eq_ok {name : String} (h : b.emptyElement name = .ok c) :
    name ≠ "plist" ∧ exists v, c = b.place v := by
  unfold emptyElement at h
  cases hvalue : emptyValue name with
  | error fault =>
      rw [hvalue] at h
      cases h
  | ok v =>
      rw [hvalue] at h
      cases h
      refine ⟨?_, v, rfl⟩
      intro hname
      rw [hname] at hvalue
      cases hvalue

theorem keyInside_of_beginValue {name : String} (h : b.beginValue name = .ok c) :
    c.KeyInside := by
  rcases beginValue_eq_ok h with ⟨_, ⟨frame, rfl⟩ | ⟨leaf, hleaf, rfl⟩⟩
  · exact keyInside_of_frames (List.cons_ne_nil _ _)
  · intro text hkey
    cases hkey
    exact absurd rfl hleaf

theorem change_of_beginValue {name : Bytes} (hleaf : b.leaf = none)
    (h : b.beginValue (Text.decodeLenient name) = .ok c)
    (hroot : b.depth = 0 -> b.root = none) : Change b (.opening name) c := by
  have hkey := keyInside_of_beginValue h
  rcases beginValue_eq_ok h with ⟨hname, ⟨frame, rfl⟩ | ⟨leaf, _, rfl⟩⟩
  · refine Change.begins ?_ rfl rfl hkey fun hdepth => ⟨hroot hdepth, hname⟩
    simp [depth]
    omega
  · refine Change.begins ?_ rfl rfl hkey fun hdepth => ⟨hroot hdepth, hname⟩
    simp [depth, hleaf]

theorem stepTop_change {item : Item} (hframes : b.frames = []) (hleaf : b.leaf = none)
    (h : b.stepTop item = .ok c) : Change b item c := by
  have hdepth : b.depth = 0 := by
    rw [depth_of_frames hframes hleaf]
    rfl
  cases item with
  | text chunk =>
      rw [stepText_eq_ok h]
      exact Change.content trivial rfl rfl rfl id
  | cdata | silent =>
      cases h
      exact Change.content trivial rfl rfl rfl id
  | closing name =>
      cases h
      exact Change.plistEnds hdepth
  | opening name =>
      unfold stepTop at h
      dsimp only at h
      split at h
      · rename_i hplist
        cases h
        exact Change.plistBegins hdepth hplist
      · split at h
        · cases h
        · rename_i hroot
          exact change_of_beginValue hleaf h fun _ => by simpa using hroot
  | selfClosing name =>
      unfold stepTop at h
      dsimp only at h
      split at h
      · rename_i hplist
        cases h
        exact Change.plistEmpty hdepth hplist
      · split at h
        · cases h
        · rename_i hroot
          rcases emptyElement_eq_ok h with ⟨hname, v, rfl⟩
          rw [place_of_nil hframes]
          exact Change.rootEmpty hdepth (by simpa using hroot) hname

theorem change_of_place {name : Bytes} {left : Builder} (v : Value) (hleaf : left.leaf = none)
    (hdepth : b.depth = left.frames.length + 1) (hroot : left.root = b.root)
    (hplist : left.inPlist = b.inPlist) : Change b (.closing name) (left.place v) := by
  have hnone : (left.place v).leaf = none := (place_leaf left v).trans hleaf
  have hkey := keyInside_of_leaf hnone
  by_cases hframes : left.frames = []
  · rw [place_of_nil hframes] at hkey ⊢
    refine Change.rootEnds ?_ ?_ rfl hplist hkey
    · rw [hdepth, hframes]
      rfl
    · simp [depth, hframes, hleaf]
  · rcases place_of_cons hframes (v := v) with ⟨hlength, _, hroot', hplist'⟩
    have hafter : (left.place v).depth = left.frames.length := by
      rw [depth, hlength, hnone]
      rfl
    refine Change.innerEnds ?_ ?_ (hroot'.trans hroot) (hplist'.trans hplist) hkey
    · rw [hafter, hdepth]
    · rw [hafter]
      exact List.length_pos_iff.mpr hframes

theorem setKey_frames (key : String) :
    (b.setKey key).frames.length = b.frames.length ∧ (b.setKey key).root = b.root ∧
      (b.setKey key).inPlist = b.inPlist ∧ (b.setKey key).leaf = b.leaf := by
  unfold setKey
  split
  · rename_i hframes
    rw [hframes]
    exact ⟨rfl, rfl, rfl, rfl⟩
  · exact ⟨rfl, rfl, rfl, rfl⟩

/-- A leaf ends as a value, or as the key of the container that it stands in. -/
theorem endLeaf_change {leaf : Leaf} {text : String} {name : Bytes}
    (hleaf : b.leaf = some (leaf, text)) (hkey : b.KeyInside)
    (h : b.endLeaf leaf text = .ok c) : Change b (.closing name) c := by
  have hdepth : b.depth = b.frames.length + 1 := depth_of_frames rfl hleaf
  unfold endLeaf at h
  dsimp only at h
  split at h
  · have hframes := hkey text hleaf
    cases h
    rcases setKey_frames text (b := { b with leaf := none }) with
      ⟨hlength, hroot, hplist, hnone⟩
    have hafter : ({ b with leaf := none }.setKey text).depth = b.frames.length := by
      rw [depth, hlength, hnone]
      rfl
    refine Change.innerEnds ?_ ?_ hroot hplist (keyInside_of_leaf hnone)
    · rw [hafter, hdepth]
    · rw [hafter]
      exact List.length_pos_iff.mpr hframes
  · cases hvalue : leafValue leaf text with
    | error fault =>
        rw [hvalue] at h
        cases h
    | ok v =>
        rw [hvalue] at h
        cases h
        exact change_of_place v rfl hdepth rfl rfl

theorem stepLeaf_change {leaf : Leaf} {text : String} {item : Item}
    (hleaf : b.leaf = some (leaf, text)) (hkey : b.KeyInside)
    (h : b.stepLeaf leaf text item = .ok c) : Change b item c := by
  have hdepth : b.depth = b.frames.length + 1 := depth_of_frames rfl hleaf
  have hsame : forall more, b.KeyInside ->
      KeyInside { b with leaf := some (leaf, more) } := by
    intro more hb _ heq
    cases heq
    exact hb text hleaf
  cases item with
  | text chunk =>
      unfold stepLeaf at h
      dsimp only at h
      split at h
      · cases h
        exact Change.content trivial hdepth.symm rfl rfl (hsame _)
      · cases h
  | cdata content =>
      cases h
      exact Change.content trivial hdepth.symm rfl rfl (hsame _)
  | silent =>
      cases h
      exact Change.content trivial rfl rfl rfl id
  | opening | selfClosing =>
      cases h
  | closing name =>
      exact endLeaf_change hleaf hkey h

theorem innerEmpty_of_emptyElement {name : Bytes} (hframes : b.frames ≠ [])
    (h : b.emptyElement (Text.decodeLenient name) = .ok c) :
    Change b (.selfClosing name) c := by
  rcases emptyElement_eq_ok h with ⟨_, v, rfl⟩
  rcases place_of_cons hframes (v := v) with ⟨hlength, hne, hroot, hplist⟩
  refine Change.innerEmpty ?_ ?_ hroot hplist (keyInside_of_frames hne)
  · exact Nat.lt_of_lt_of_le (List.length_pos_iff.mpr hframes) (Nat.le_add_right _ _)
  · rw [depth, hlength, place_leaf, depth]

theorem stepDict_change {entries : List (String × Value)} {key : Option String}
    {outer : List Frame} {item : Item} (hframes : b.frames = .dict entries key :: outer)
    (hleaf : b.leaf = none) (h : b.stepDict entries key outer item = .ok c) :
    Change b item c := by
  have hdepth : b.depth = outer.length + 1 := depth_of_frames hframes hleaf
  have hne : b.frames ≠ [] := by
    rw [hframes]
    exact List.cons_ne_nil _ _
  cases item with
  | text chunk =>
      rw [stepText_eq_ok h]
      exact Change.content trivial rfl rfl rfl id
  | cdata | silent =>
      cases h
      exact Change.content trivial rfl rfl rfl id
  | opening name =>
      unfold stepDict at h
      dsimp only at h
      split at h
      · cases h
      · cases h
        refine Change.begins ?_ rfl rfl (keyInside_of_frames hne) fun hzero => by omega
        rw [depth, depth, hleaf]
        rfl
      · exact change_of_beginValue hleaf h fun hzero => by omega
      · cases h
  | selfClosing name =>
      unfold stepDict at h
      dsimp only at h
      split at h
      · cases h
      · cases h
        rcases setKey_frames "" (b := b) with ⟨hlength, hroot, hplist, hnone⟩
        refine Change.innerEmpty (by omega) ?_ hroot hplist
          (keyInside_of_leaf (hnone.trans hleaf))
        rw [depth, hlength, hnone, depth]
      · exact innerEmpty_of_emptyElement hne h
      · cases h
  | closing name =>
      unfold stepDict at h
      dsimp only at h
      split at h
      · cases h
      · cases h
        exact change_of_place _ hleaf hdepth rfl rfl

theorem stepArray_change {items : List Value} {outer : List Frame} {item : Item}
    (hframes : b.frames = .array items :: outer) (hleaf : b.leaf = none)
    (h : b.stepArray items outer item = .ok c) : Change b item c := by
  have hdepth : b.depth = outer.length + 1 := depth_of_frames hframes hleaf
  have hne : b.frames ≠ [] := by
    rw [hframes]
    exact List.cons_ne_nil _ _
  cases item with
  | text chunk =>
      rw [stepText_eq_ok h]
      exact Change.content trivial rfl rfl rfl id
  | cdata | silent =>
      cases h
      exact Change.content trivial rfl rfl rfl id
  | opening name =>
      exact change_of_beginValue hleaf h fun hzero => by omega
  | selfClosing name =>
      exact innerEmpty_of_emptyElement hne h
  | closing name =>
      cases h
      exact change_of_place _ hleaf hdepth rfl rfl

theorem step_of_leaf {leaf : Leaf × String} (hleaf : b.leaf = some leaf) (item : Item) :
    b.step item = b.stepLeaf leaf.1 leaf.2 item := by
  rw [step, hleaf]

theorem step_of_top (hleaf : b.leaf = none) (hframes : b.frames = []) (item : Item) :
    b.step item = b.stepTop item := by
  rw [step, hleaf, hframes]

theorem step_of_dict {entries : List (String × Value)} {key : Option String}
    {outer : List Frame} (hleaf : b.leaf = none) (hframes : b.frames = .dict entries key :: outer)
    (item : Item) : b.step item = b.stepDict entries key outer item := by
  rw [step, hleaf, hframes]

theorem step_of_array {items : List Value} {outer : List Frame} (hleaf : b.leaf = none)
    (hframes : b.frames = .array items :: outer) (item : Item) :
    b.step item = b.stepArray items outer item := by
  rw [step, hleaf, hframes]

/-- The part of a document that a builder is in, with the step that it takes there. -/
inductive Position (b : Builder) : (Item -> Except Error Builder) -> Prop where
  | leaf {leaf : Leaf} {text : String} (reading : b.leaf = some (leaf, text)) :
      Position b (b.stepLeaf leaf text)
  | top (outside : b.leaf = none) (frames : b.frames = []) : Position b b.stepTop
  | dict {entries : List (String × Value)} {key : Option String} {outer : List Frame}
      (outside : b.leaf = none) (frames : b.frames = .dict entries key :: outer) :
      Position b (b.stepDict entries key outer)
  | array {items : List Value} {outer : List Frame} (outside : b.leaf = none)
      (frames : b.frames = .array items :: outer) : Position b (b.stepArray items outer)

theorem exists_position (b : Builder) :
    exists step, Position b step ∧ forall item, b.step item = step item := by
  cases hleaf : b.leaf with
  | some leaf =>
      exact ⟨_, .leaf hleaf, step_of_leaf hleaf⟩
  | none =>
      cases hframes : b.frames with
      | nil =>
          exact ⟨_, .top hleaf hframes, step_of_top hleaf hframes⟩
      | cons frame outer =>
          cases frame with
          | dict entries key =>
              exact ⟨_, .dict hleaf hframes, step_of_dict hleaf hframes⟩
          | array items =>
              exact ⟨_, .array hleaf hframes, step_of_array hleaf hframes⟩

theorem exists_step_text (h : b.leaf = none) (chunk : Bytes) :
    exists fault, b.step (.text chunk) = b.stepText chunk fault := by
  rcases b.exists_position with ⟨step, hposition, hstep⟩
  rw [hstep]
  cases hposition with
  | leaf hreading =>
      cases h.symm.trans hreading
  | top | dict | array =>
      exact ⟨_, rfl⟩

theorem change_of_step {item : Item} (hb : b.Sound) (h : b.step item = .ok c) :
    Change b item c := by
  rcases b.exists_position with ⟨step, hposition, hstep⟩
  rw [hstep] at h
  cases hposition with
  | leaf hreading =>
      exact stepLeaf_change hreading hb.key h
  | top hleaf hframes =>
      exact stepTop_change hframes hleaf h
  | dict hleaf hframes =>
      exact stepDict_change hframes hleaf h
  | array hleaf hframes =>
      exact stepArray_change hframes hleaf h

theorem Sound.step {item : Item} (hb : b.Sound) (h : b.step item = .ok c) : c.Sound where
  root := by
    intro hdepth
    have hroot := hb.root
    cases change_of_step hb h with
    | content _ hsame hroot' | innerEmpty _ hsame hroot' =>
        rw [hroot']
        exact hroot (hsame ▸ hdepth)
    | plistBegins hzero | plistEmpty hzero | plistEnds hzero | rootEmpty hzero =>
        exact absurd hzero (Nat.pos_iff_ne_zero.mp hdepth)
    | begins hmore hroot' _ _ hfirst =>
        rw [hroot']
        rcases Nat.eq_zero_or_pos b.depth with hzero | hpos
        · exact (hfirst hzero).1
        · exact hroot hpos
    | rootEnds _ hafter =>
        rw [hafter] at hdepth
        cases hdepth
    | innerEnds hless _ hroot' =>
        rw [hroot']
        exact hroot (by omega)
  key := by
    cases change_of_step hb h with
    | content _ _ _ _ hkey =>
        exact hkey hb.key
    | begins _ _ _ hkey | innerEmpty _ _ _ _ hkey | rootEnds _ _ _ _ hkey
    | innerEnds _ _ _ _ hkey =>
        exact hkey
    | plistBegins | plistEmpty | plistEnds | rootEmpty =>
        exact hb.key

theorem finish_eq_ok_iff {v : Option Value} :
    b.finish = .ok v <-> b.depth = 0 ∧ b.inPlist = false ∧ b.root = v := by
  unfold finish
  cases hleaf : b.leaf with
  | some leaf =>
      simp [depth, hleaf]
  | none =>
      cases hframes : b.frames with
      | cons frame outer =>
          simp [depth, hframes]
      | nil =>
          cases hplist : b.inPlist with
          | true =>
              simp
          | false =>
              simp [depth, hleaf, hframes]

/-!
# From waiting for a value to having one
-/

def Waiting (b : Builder) : Prop :=
  b.depth = 0 ∧ b.root = none

variable {item : Item}

theorem Change.waiting (h : Change b item c) (hc : c.Waiting) : b.Waiting := by
  rcases hc with ⟨hdepth, hroot⟩
  cases h with
  | content _ hsame hroot' =>
      exact ⟨hsame ▸ hdepth, hroot' ▸ hroot⟩
  | plistBegins | plistEmpty | plistEnds =>
      exact ⟨hdepth, hroot⟩
  | begins hmore | innerEmpty hmore hmore' =>
      omega
  | innerEnds _ hinner =>
      omega
  | rootEmpty =>
      cases hroot
  | rootEnds _ _ hsome =>
      rw [hsome] at hroot
      cases hroot

theorem Change.root_eq (h : Change b item c) (hb : b.Sound) {v : Value}
    (hroot : b.root = some v) : c.root = some v := by
  have hzero : b.depth = 0 := by
    by_contra hne
    rw [hb.root (Nat.pos_of_ne_zero hne)] at hroot
    cases hroot
  cases h with
  | content _ _ hsame =>
      exact hsame.trans hroot
  | plistBegins | plistEmpty | plistEnds =>
      exact hroot
  | begins _ _ _ _ hfirst =>
      rw [(hfirst hzero).1] at hroot
      cases hroot
  | rootEmpty _ hnone =>
      rw [hnone] at hroot
      cases hroot
  | innerEmpty hpos =>
      omega
  | rootEnds hone =>
      omega
  | innerEnds hmore =>
      omega

/-- A tag that begins while a value is waited for begins it, or else the document element. -/
theorem Change.begins_of_waiting (h : Change b item c) (hb : b.Waiting) {name : Bytes}
    (hitem : item.begins? = some name) :
    c.Waiting <-> Text.decodeLenient name = "plist" := by
  rcases hb with ⟨hdepth, hroot⟩
  cases h with
  | content hcontent =>
      cases item with
      | opening | selfClosing =>
          exact hcontent.elim
      | _ =>
          cases hitem
  | plistBegins _ hplist | plistEmpty _ hplist =>
      cases hitem
      exact iff_of_true ⟨hdepth, hroot⟩ (opensPlist_iff.mp hplist).1
  | begins hmore _ _ _ hfirst =>
      cases hitem
      exact iff_of_false (fun hc => by rw [hc.1] at hmore; cases hmore) (hfirst hdepth).2
  | rootEmpty _ _ hname =>
      cases hitem
      exact iff_of_false (fun hc => nomatch hc.2) hname
  | innerEmpty hpos =>
      omega
  | plistEnds | rootEnds | innerEnds =>
      cases hitem

theorem Change.exists_begins (h : Change b item c) (hb : b.Waiting) (hc : ¬ c.Waiting) :
    exists name, item.begins? = some name := by
  rcases hb with ⟨hdepth, hroot⟩
  cases h with
  | content _ hsame hroot' =>
      exact absurd ⟨hsame.trans hdepth, hroot'.trans hroot⟩ hc
  | plistBegins | plistEmpty | begins | rootEmpty | innerEmpty =>
      exact ⟨_, rfl⟩
  | plistEnds =>
      exact absurd ⟨hdepth, hroot⟩ hc
  | rootEnds hone =>
      omega
  | innerEnds hmore =>
      omega

theorem Change.not_isContent_of_root (h : Change b item c) (hb : b.root = none)
    (hc : c.root ≠ none) : ¬ item.IsContent := by
  cases h with
  | content _ _ hsame =>
      exact absurd (hsame.trans hb) hc
  | _ =>
      exact fun hcontent => hcontent

end Steps

/-!
# Values inside and outside of the document element
-/

def withPlist (p : Bool) (b : Builder) : Builder :=
  { b with inPlist := p }

section WithPlist

variable (p : Bool) (b : Builder)

theorem place_withPlist (v : Value) : (b.withPlist p).place v = (b.place v).withPlist p := by
  unfold place withPlist
  dsimp only
  split <;> rfl

theorem setKey_withPlist (key : String) :
    (b.withPlist p).setKey key = (b.setKey key).withPlist p := by
  unfold setKey withPlist
  dsimp only
  split <;> rfl

theorem stepText_withPlist (chunk : Bytes) (fault : Error) :
    (b.withPlist p).stepText chunk fault = (b.stepText chunk fault).map (withPlist p) := by
  unfold stepText
  split
  · split <;> rfl
  · rfl

theorem beginValue_withPlist (name : String) :
    (b.withPlist p).beginValue name = (b.beginValue name).map (withPlist p) := by
  unfold beginValue withPlist
  dsimp only
  split
  · rfl
  · split
    · rfl
    · split
      · rfl
      · split <;> rfl

theorem emptyElement_withPlist (name : String) :
    (b.withPlist p).emptyElement name = (b.emptyElement name).map (withPlist p) := by
  unfold emptyElement
  cases emptyValue name with
  | error fault =>
      rfl
  | ok v =>
      exact congrArg Except.ok (place_withPlist p b v)

theorem stepLeaf_withPlist (leaf : Leaf) (text : String) (item : Item) :
    (b.withPlist p).stepLeaf leaf text item = (b.stepLeaf leaf text item).map (withPlist p) := by
  cases item with
  | text chunk =>
      unfold stepLeaf
      dsimp only
      split <;> rfl
  | cdata | silent | opening | selfClosing =>
      rfl
  | closing name =>
      change (b.withPlist p).endLeaf leaf text = (b.endLeaf leaf text).map (withPlist p)
      unfold endLeaf
      dsimp only
      split
      · exact congrArg Except.ok (setKey_withPlist p { b with leaf := none } text)
      · cases leafValue leaf text with
        | error fault =>
            rfl
        | ok v =>
            exact congrArg Except.ok (place_withPlist p { b with leaf := none } v)

theorem stepDict_withPlist (entries : List (String × Value)) (key : Option String)
    (outer : List Frame) (item : Item) :
    (b.withPlist p).stepDict entries key outer item =
      (b.stepDict entries key outer item).map (withPlist p) := by
  cases item with
  | text chunk =>
      exact stepText_withPlist p b chunk _
  | cdata | silent =>
      rfl
  | opening name =>
      unfold stepDict
      dsimp only
      split
      · rfl
      · rfl
      · exact beginValue_withPlist p b _
      · rfl
  | selfClosing name =>
      unfold stepDict
      dsimp only
      split
      · rfl
      · exact congrArg Except.ok (setKey_withPlist p b "")
      · exact emptyElement_withPlist p b _
      · rfl
  | closing name =>
      unfold stepDict
      dsimp only
      split
      · rfl
      · exact congrArg Except.ok (place_withPlist p { b with frames := outer } _)

theorem stepArray_withPlist (items : List Value) (outer : List Frame) (item : Item) :
    (b.withPlist p).stepArray items outer item =
      (b.stepArray items outer item).map (withPlist p) := by
  cases item with
  | text chunk =>
      exact stepText_withPlist p b chunk _
  | cdata | silent =>
      rfl
  | opening name =>
      exact beginValue_withPlist p b _
  | selfClosing name =>
      exact emptyElement_withPlist p b _
  | closing name =>
      exact congrArg Except.ok (place_withPlist p { b with frames := outer } _)

variable {p b}

theorem stepTop_withPlist {item : Item} {name : Bytes} (hitem : item.begins? = some name)
    (hname : Text.decodeLenient name ≠ "plist") :
    (b.withPlist p).stepTop item = (b.stepTop item).map (withPlist p) := by
  have hno : forall q : Bool, (Text.decodeLenient name == "plist" && q) = false := by
    intro q
    rw [beq_eq_false_iff_ne.mpr hname, Bool.false_and]
  cases item with
  | opening other =>
      cases hitem
      unfold stepTop
      dsimp only
      rw [hno, hno, if_neg Bool.false_ne_true, if_neg Bool.false_ne_true]
      change (if b.root.isSome = true then _ else _) = _
      split
      · rfl
      · exact beginValue_withPlist p b _
  | selfClosing other =>
      cases hitem
      unfold stepTop
      dsimp only
      rw [hno, hno, if_neg Bool.false_ne_true, if_neg Bool.false_ne_true]
      change (if b.root.isSome = true then _ else _) = _
      split
      · rfl
      · exact emptyElement_withPlist p b _
  | _ =>
      cases hitem

/-- Inside a value, and where one begins, it does not matter whether the document element is
open. -/
theorem step_withPlist {item : Item}
    (h : 0 < b.depth ∨ exists name, item.begins? = some name ∧
      Text.decodeLenient name ≠ "plist") :
    (b.withPlist p).step item = (b.step item).map (withPlist p) := by
  cases hleaf : b.leaf with
  | some leaf =>
      rw [step_of_leaf hleaf, ← stepLeaf_withPlist, step_of_leaf (b := b.withPlist p) hleaf]
  | none =>
      cases hframes : b.frames with
      | nil =>
          rcases h with h | ⟨name, hitem, hname⟩
          · rw [depth_of_frames hframes hleaf] at h
            cases h
          · rw [step_of_top hleaf hframes, ← stepTop_withPlist hitem hname,
              step_of_top (b := b.withPlist p) hleaf hframes]
      | cons frame outer =>
          cases frame with
          | dict entries key =>
              rw [step_of_dict hleaf hframes, ← stepDict_withPlist,
                step_of_dict (b := b.withPlist p) hleaf hframes]
          | array items =>
              rw [step_of_array hleaf hframes, ← stepArray_withPlist,
                step_of_array (b := b.withPlist p) hleaf hframes]

end WithPlist

end Builder
end Plist
end FindingLedger
