import FindingLedger.Proofs.Plist.Reading
import FindingLedger.Proofs.Sequencing

/-!
# The elements that are open

A builder knows by name which elements are open: the leaf that is being read, the containers
around it and the document element. They are those that are open for the scanner, so that the
names of the open elements tell in what part of the builder the next item is taken.
-/

namespace FindingLedger
namespace Plist

open Markup (Item Scans Scanner)

namespace Builder

/-!
# Open elements
-/

def openElements (b : Builder) : List String :=
  b.leaf.toList.map (fun leaf => leaf.1.name) ++ b.frames.map (fun frame => frame.container.name) ++
    if b.inPlist then ["plist"] else []

def elementsAfter (elements : List String) : Item -> List String
  | .opening name => Text.decodeLenient name :: elements
  | .closing _ => elements.tail
  | _ => elements

theorem map_namesAfter (names : List Bytes) (item : Item) :
    (Scanner.namesAfter names (some item)).map Text.decodeLenient =
      elementsAfter (names.map Text.decodeLenient) item := by
  cases item with
  | closing name =>
      exact List.map_tail
  | _ =>
      rfl

section Steps

variable {b c : Builder}

theorem openElements_place (b : Builder) (v : Value) :
    (b.place v).openElements = b.openElements := by
  unfold place
  split
  · rfl
  · rename_i hframes
    simp [openElements, hframes, Frame.container]
  · rename_i hframes
    simp [openElements, hframes, Frame.container]

theorem openElements_setKey (b : Builder) (key : String) :
    (b.setKey key).openElements = b.openElements := by
  unfold setKey
  split
  · rename_i hframes
    simp [openElements, hframes, Frame.container]
  · rfl

theorem openElements_emptyElement {name : String} (h : b.emptyElement name = .ok c) :
    c.openElements = b.openElements := by
  rcases emptyElement_eq_ok h with ⟨_, v, rfl⟩
  exact openElements_place b v

theorem openElements_beginValue {name : String} (hleaf : b.leaf = none)
    (h : b.beginValue name = .ok c) : c.openElements = name :: b.openElements := by
  unfold beginValue at h
  split at h
  · cases h
  · split at h
    · rename_i hname
      cases h
      simp [openElements, hleaf, Frame.container, Container.name, beq_iff_eq.mp hname]
    · split at h
      · rename_i hname
        cases h
        simp [openElements, hleaf, Frame.container, Container.name, beq_iff_eq.mp hname]
      · split at h
        · rename_i leaf hfound
          cases h
          have hname : leaf.name = name := by simpa using List.find?_some hfound
          simp [openElements, hleaf, hname]
        · cases h

theorem openElements_stepLeaf {leaf : Leaf} {text : String} {item : Item}
    (hleaf : b.leaf = some (leaf, text)) (h : b.stepLeaf leaf text item = .ok c) :
    c.openElements = elementsAfter b.openElements item := by
  have hsame : forall more, { b with leaf := some (leaf, more) }.openElements = b.openElements := by
    intro more
    simp [openElements, hleaf]
  cases item with
  | text chunk =>
      unfold stepLeaf at h
      dsimp only at h
      split at h
      · cases h
        exact hsame _
      · cases h
  | cdata content =>
      cases h
      exact hsame _
  | silent =>
      cases h
      rfl
  | opening | selfClosing =>
      cases h
  | closing name =>
      have hrest : { b with leaf := none }.openElements = b.openElements.tail := by
        simp [openElements, hleaf]
      unfold stepLeaf endLeaf at h
      dsimp only at h
      split at h
      · cases h
        exact (openElements_setKey _ _).trans hrest
      · rcases map_eq_ok_iff.mp h with ⟨v, _, rfl⟩
        exact (openElements_place _ _).trans hrest

theorem openElements_stepText {chunk : Bytes} {fault : Error}
    (h : b.stepText chunk fault = .ok c) : c.openElements = b.openElements :=
  congrArg openElements (stepText_eq_ok h)

theorem openElements_stepTop {item : Item} (hleaf : b.leaf = none) (hframes : b.frames = [])
    (h : b.stepTop item = .ok c) : c.openElements = elementsAfter b.openElements item := by
  cases item with
  | text chunk =>
      exact openElements_stepText h
  | cdata | silent =>
      cases h
      rfl
  | closing name =>
      cases h
      cases hplist : b.inPlist <;> simp [openElements, elementsAfter, hleaf, hframes, hplist]
  | opening name =>
      unfold stepTop at h
      dsimp only at h
      split at h
      · rename_i hplist
        rcases opensPlist_iff.mp hplist with ⟨hname, hclosed⟩
        cases h
        simp [openElements, elementsAfter, hleaf, hframes, hname, hclosed]
      · split at h
        · cases h
        · exact openElements_beginValue hleaf h
  | selfClosing name =>
      unfold stepTop at h
      dsimp only at h
      split at h
      · cases h
        rfl
      · split at h
        · cases h
        · exact openElements_emptyElement h

theorem openElements_stepDict {entries : List (String × Value)} {key : Option String}
    {outer : List Frame} {item : Item} (hleaf : b.leaf = none)
    (hframes : b.frames = .dict entries key :: outer)
    (h : b.stepDict entries key outer item = .ok c) :
    c.openElements = elementsAfter b.openElements item := by
  cases item with
  | text chunk =>
      exact openElements_stepText h
  | cdata | silent =>
      cases h
      rfl
  | opening name =>
      unfold stepDict at h
      dsimp only at h
      split at h
      · cases h
      · rename_i hkey
        cases h
        simp [openElements, elementsAfter, hleaf, Leaf.name, beq_iff_eq.mp hkey]
      · exact openElements_beginValue hleaf h
      · cases h
  | selfClosing name =>
      unfold stepDict at h
      dsimp only at h
      split at h
      · cases h
      · cases h
        exact openElements_setKey _ _
      · exact openElements_emptyElement h
      · cases h
  | closing name =>
      unfold stepDict at h
      dsimp only at h
      split at h
      · cases h
      · cases h
        rw [openElements_place]
        simp [openElements, elementsAfter, hleaf, hframes]

theorem openElements_stepArray {items : List Value} {outer : List Frame} {item : Item}
    (hleaf : b.leaf = none) (hframes : b.frames = .array items :: outer)
    (h : b.stepArray items outer item = .ok c) :
    c.openElements = elementsAfter b.openElements item := by
  cases item with
  | text chunk =>
      exact openElements_stepText h
  | cdata | silent =>
      cases h
      rfl
  | opening name =>
      exact openElements_beginValue hleaf h
  | selfClosing name =>
      exact openElements_emptyElement h
  | closing name =>
      cases h
      rw [openElements_place]
      simp [openElements, elementsAfter, hleaf, hframes]

theorem openElements_step {item : Item} (h : b.step item = .ok c) :
    c.openElements = elementsAfter b.openElements item := by
  rcases b.exists_position with ⟨step, hposition, hstep⟩
  rw [hstep] at h
  cases hposition with
  | leaf hreading =>
      exact openElements_stepLeaf hreading h
  | top hleaf hframes =>
      exact openElements_stepTop hleaf hframes h
  | dict hleaf hframes =>
      exact openElements_stepDict hleaf hframes h
  | array hleaf hframes =>
      exact openElements_stepArray hleaf hframes h

end Steps

/-!
# One item after another
-/

def stepAll (b : Builder) (items : List Item) : Except Error Builder :=
  items.foldlM step b

theorem stepAll_cons (b : Builder) (item : Item) (items : List Item) :
    b.stepAll (item :: items) = b.step item >>= fun c => c.stepAll items :=
  List.foldlM_cons

theorem stepAll_append (b : Builder) (items others : List Item) :
    b.stepAll (items ++ others) = b.stepAll items >>= fun c => c.stepAll others :=
  List.foldlM_append

end Builder

theorem openElements_of_scans {s t : Scanner} {bytes : Bytes} {items : List Item}
    {b c : Builder} (h : Scans s bytes items t) (hstep : b.stepAll items = .ok c)
    (hb : b.openElements = s.openNames.map Text.decodeLenient) :
    c.openElements = t.openNames.map Text.decodeLenient := by
  induction h generalizing b with
  | nil s =>
      cases hstep
      exact hb
  | @cons s m t byte rest item items head _ ih =>
      have hnames := (Scanner.turn_of_step head).openNames_eq
      cases item with
      | none =>
          exact ih hstep (by rw [hnames, hb]; rfl)
      | some item =>
          rw [Option.toList_some, List.singleton_append, Builder.stepAll_cons] at hstep
          rcases bind_eq_ok_iff.mp hstep with ⟨d, hd, hrest⟩
          refine ih hrest ?_
          rw [Builder.openElements_step hd, hb, hnames, Builder.map_namesAfter]

/-!
# Places between elements
-/

/-- Whether what stands directly inside of elements of these names, the innermost first, stands
outside of every key and every leaf. -/
def BetweenElements (names : List Bytes) : Prop :=
  forall name, names.head? = some name -> Text.decodeLenient name ∈ ["plist", "dict", "array"]

/-- The number of dictionaries and arrays among open elements. -/
def containerCount (names : List Bytes) : Nat :=
  names.countP fun name => ["dict", "array"].contains (Text.decodeLenient name)

section Places

variable {b : Builder} {names : List Bytes}

theorem Leaf.name_not_mem (leaf : Leaf) : leaf.name ∉ ["plist", "dict", "array"] := by
  cases leaf with
  | boolean value =>
      cases value with
      | true | false =>
          decide
  | _ =>
      decide

theorem leaf_eq_none_of_betweenElements
    (hopen : b.openElements = names.map Text.decodeLenient) (h : BetweenElements names) :
    b.leaf = none := by
  cases hleaf : b.leaf with
  | none =>
      rfl
  | some leaf =>
      have hhead : names.head?.map Text.decodeLenient = some leaf.1.name := by
        rw [← List.head?_map, ← hopen, Builder.openElements, hleaf]
        rfl
      rcases Option.map_eq_some_iff.mp hhead with ⟨name, hname, hshown⟩
      exact absurd (hshown ▸ h name hname) leaf.1.name_not_mem

theorem length_frames_eq (hopen : b.openElements = names.map Text.decodeLenient) :
    b.frames.length = containerCount names := by
  have hleaf : forall leaf : Leaf × String, leaf.1.name ∉ ["dict", "array"] :=
    fun leaf hmem => leaf.1.name_not_mem (List.mem_cons_of_mem _ hmem)
  have hframe : forall container : Container, container.name ∈ ["dict", "array"] := by
    intro container
    cases container with
    | dict | array =>
        decide
  have hcount : containerCount names =
      b.openElements.countP fun name => ["dict", "array"].contains name := by
    rw [hopen, List.countP_map]
    rfl
  have hplist : (if b.inPlist then ["plist"] else []).countP
      (fun name => ["dict", "array"].contains name) = 0 := by
    split
    · rfl
    · rfl
  rw [hcount, Builder.openElements, List.countP_append, List.countP_append, hplist,
    List.countP_map, List.countP_map, List.countP_eq_zero.mpr ?_, List.countP_eq_length.mpr ?_]
  · omega
  · intro frame _
    exact List.contains_iff_mem.mpr (hframe frame.container)
  · intro leaf _ hmem
    exact hleaf leaf (List.contains_iff_mem.mp hmem)

end Places

end Plist
end FindingLedger
