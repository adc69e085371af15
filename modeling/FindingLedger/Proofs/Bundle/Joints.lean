import Mathlib.Data.List.Sort
import FindingLedger.Proofs.Bundle.RoundTrip

/-!
# Joints of control edges

Where two edges of control meet, one ends where the other starts. A path is made of the steps
of its pieces, without the places that have just been passed. Every other step stays, in
its order. Pieces that give no step do not keep the edges around them apart.
-/

namespace FindingLedger

open Plist (Value)

namespace PathElement

def event? : PathElement -> Option PathEvent
  | event e => some e
  | point _ => none

end PathElement

namespace Bundle

/-!
# Steps of a piece
-/

/-- Whether a side of an edge gives certain steps: the start of its range, or none where the
side is missing. -/
inductive SideGives (sides : List (String × Value)) (side : String) :
    List PathElement -> Prop where
  | missing (hside : Entries.get? sides side = none) : SideGives sides side []
  | range {v : Value} {r : SourceRange} (hside : Entries.get? sides side = some v)
      (hrange : decodeRange side v = .ok r) : SideGives sides side [.point r.first]

inductive EdgeGives : Value -> List PathElement -> Prop where
  | sides {sides : List (String × Value)} {first last : List PathElement}
      (hfirst : SideGives sides "start" first) (hlast : SideGives sides "end" last) :
      EdgeGives (.dict sides) (first ++ last)

/-- Whether a piece of a path gives certain steps: its event, the starts of the ranges of its
edges, or none where its kind is neither of the two. -/
inductive PieceGives : Value -> List PathElement -> Prop where
  | event {entries : List (String × Value)} {e : PathEvent}
      (hkind : Entries.get? entries "kind" = some (.string "event"))
      (hevent : decodeEvent entries = .ok e) : PieceGives (.dict entries) [.event e]
  | control {entries : List (String × Value)} {edges : List Value}
      {steps : List (List PathElement)}
      (hkind : Entries.get? entries "kind" = some (.string "control"))
      (hedges : (Entries.get? entries "edges").getD (.array []) = .array edges)
      (hsteps : List.Forall₂ EdgeGives edges steps) :
      PieceGives (.dict entries) steps.flatten
  | unknown {entries : List (String × Value)} {kind : String}
      (hkind : Entries.get? entries "kind" = some (.string kind)) (hevent : kind ≠ "event")
      (hcontrol : kind ≠ "control") : PieceGives (.dict entries) []
  | missing {entries : List (String × Value)} (hkind : Entries.get? entries "kind" = none) :
      PieceGives (.dict entries) []

theorem decodeSide_eq_ok_iff {sides : List (String × Value)} {side : String}
    {steps : List PathElement} :
    decodeSide sides side = .ok steps <-> SideGives sides side steps := by
  unfold decodeSide
  constructor
  · intro h
    cases hside : Entries.get? sides side with
    | none =>
        rw [hside] at h
        cases h
        exact .missing hside
    | some v =>
        rw [hside] at h
        rcases bind_eq_ok_iff.mp h with ⟨r, hrange, hsteps⟩
        cases hsteps
        exact .range hside hrange
  · intro h
    cases h with
    | missing hside =>
        rw [hside]
    | range hside hrange =>
        rw [hside]
        exact bind_eq_ok_iff.mpr ⟨_, hrange, rfl⟩

theorem decodeEdge_eq_ok_iff {index : Nat} {v : Value} {steps : List PathElement} :
    decodeEdge index v = .ok steps <-> EdgeGives v steps := by
  unfold decodeEdge
  simp only [bind_eq_ok_iff, asDict_eq_ok_iff, decodeSide_eq_ok_iff]
  constructor
  · rintro ⟨sides, rfl, first, hfirst, last, hlast, hsteps⟩
    cases hsteps
    exact .sides hfirst hlast
  · intro h
    cases h with
    | sides hfirst hlast =>
        exact ⟨_, rfl, _, hfirst, _, hlast, rfl⟩

theorem decodeEdges_eq_ok_iff {edges : List Value} {steps : List (List PathElement)} :
    decodeEach decodeEdge 0 edges = .ok steps <-> List.Forall₂ EdgeGives edges steps :=
  decodeEach_eq_ok_iff_forall₂ EdgeGives fun _ _ _ => decodeEdge_eq_ok_iff

theorem decodePiece_eq_ok_iff {index : Nat} {v : Value} {steps : List PathElement} :
    decodePiece index v = .ok steps <-> PieceGives v steps := by
  unfold decodePiece
  simp only [bind_eq_ok_iff, asDict_eq_ok_iff, optionalString_eq_ok_iff]
  constructor
  · rintro ⟨entries, rfl, kind, hkind, hsteps⟩
    split at hsteps
    · rcases bind_eq_ok_iff.mp hsteps with ⟨e, hevent, hsteps⟩
      cases hsteps
      exact .event hkind hevent
    · simp only [bind_eq_ok_iff, optionalArray_eq_ok_iff, decodeEdges_eq_ok_iff] at hsteps
      rcases hsteps with ⟨edges, hedges, given, hgiven, hsteps⟩
      cases hsteps
      exact .control hkind hedges hgiven
    · rename_i hevent hcontrol
      cases hsteps
      cases kind with
      | none =>
          exact .missing hkind
      | some kind =>
          exact .unknown hkind (fun h => hevent (congrArg some h))
            (fun h => hcontrol (congrArg some h))
  · intro h
    cases h with
    | event hkind hevent =>
        exact ⟨_, rfl, some "event", hkind, bind_eq_ok_iff.mpr ⟨_, hevent, rfl⟩⟩
    | control hkind hedges hsteps =>
        refine ⟨_, rfl, some "control", hkind, ?_⟩
        simp only [bind_eq_ok_iff, optionalArray_eq_ok_iff, decodeEdges_eq_ok_iff]
        exact ⟨_, hedges, _, hsteps, rfl⟩
    | @unknown entries kind hkind hevent hcontrol =>
        refine ⟨_, rfl, some kind, hkind, ?_⟩
        split
        · rename_i heq
          exact absurd (Option.some.inj heq) hevent
        · rename_i heq
          exact absurd (Option.some.inj heq) hcontrol
        · rfl
    | missing hkind =>
        exact ⟨_, rfl, none, hkind, rfl⟩

/-!
# Joints
-/

/-- Whether a point stands at a place with an equal point right before it. -/
def JointAt (steps : List PathElement) (place : Nat) : Prop :=
  exists l before, before + 1 = place ∧ steps[before]? = some (.point l) ∧
    steps[place]? = some (.point l)

/-- Whether a path has all steps but the joints, each in its order. -/
def KeepsRest (steps path : List PathElement) : Prop :=
  exists places : List Nat, places.Pairwise (· < ·) ∧
    (forall place, place ∈ places <-> place < steps.length ∧ ¬ JointAt steps place) ∧
    List.Forall₂ (fun place e => steps[place]? = some e) places path

theorem isJoint_eq_true_iff {previous : Option PathElement} {e : PathElement} :
    isJoint previous e = true <-> exists l, previous = some (.point l) ∧ e = .point l := by
  cases e with
  | event e =>
      simp [isJoint]
  | point l =>
      simp only [isJoint, beq_iff_eq]
      constructor
      · intro h
        exact ⟨l, h, rfl⟩
      · rintro ⟨l', h, hpoint⟩
        rw [h, hpoint]

theorem mergeJoints_concat (previous : Option PathElement) (steps : List PathElement)
    (e : PathElement) :
    mergeJoints previous (steps ++ [e]) = mergeJoints previous steps ++
      if isJoint (steps.getLast?.or previous) e then [] else [e] := by
  induction steps generalizing previous with
  | nil =>
      rfl
  | cons a rest ih =>
      have hlast : (a :: rest).getLast?.or previous = rest.getLast?.or (some a) := by
        rw [List.getLast?_cons]
        cases rest.getLast? <;> rfl
      rw [hlast, List.cons_append, mergeJoints, mergeJoints]
      by_cases hjoint : isJoint previous a = true
      · -- The joint that is left out equals the step that was kept before it.
        rcases isJoint_eq_true_iff.mp hjoint with ⟨l, rfl, rfl⟩
        rw [if_pos hjoint, if_pos hjoint, ih]
      · rw [if_neg hjoint, if_neg hjoint, ih, List.cons_append]

section Concat

variable {steps path : List PathElement} {e : PathElement}

theorem jointAt_concat_of_lt {place : Nat} (h : place < steps.length) :
    JointAt (steps ++ [e]) place <-> JointAt steps place := by
  unfold JointAt
  refine exists_congr fun l => exists_congr fun before => and_congr_right fun hbefore => ?_
  subst hbefore
  rw [List.getElem?_append_left (Nat.lt_of_succ_lt h), List.getElem?_append_left h]

theorem jointAt_concat_length :
    JointAt (steps ++ [e]) steps.length <-> isJoint (steps.getLast?.or none) e = true := by
  rw [Option.or_none, isJoint_eq_true_iff]
  unfold JointAt
  refine exists_congr fun l => ?_
  rw [List.getElem?_concat_length, Option.some.injEq]
  constructor
  · rintro ⟨before, hbefore, hpoint, he⟩
    have hlt : before < steps.length := hbefore ▸ Nat.lt_succ_self before
    rw [List.getElem?_append_left hlt] at hpoint
    rw [List.getLast?_eq_getElem?, ← hbefore, Nat.add_sub_cancel]
    exact ⟨hpoint, he⟩
  · rintro ⟨hlast, he⟩
    rw [List.getLast?_eq_getElem?] at hlast
    rcases List.getElem?_eq_some_iff.mp hlast with ⟨hlt, _⟩
    refine ⟨steps.length - 1, Nat.sub_add_cancel (Nat.one_le_of_lt hlt), ?_, he⟩
    rw [List.getElem?_append_left hlt]
    exact hlast

theorem kept_concat_iff {place : Nat} :
    place < (steps ++ [e]).length ∧ ¬ JointAt (steps ++ [e]) place <->
      (place < steps.length ∧ ¬ JointAt steps place) ∨
        (place = steps.length ∧ ¬ JointAt (steps ++ [e]) steps.length) := by
  rw [List.length_append, List.length_singleton, Nat.lt_succ_iff_lt_or_eq, or_and_right]
  apply or_congr
  · exact and_congr_right fun hlt => not_congr (jointAt_concat_of_lt hlt)
  · constructor
    · rintro ⟨rfl, hnot⟩
      exact ⟨rfl, hnot⟩
    · rintro ⟨rfl, hnot⟩
      exact ⟨rfl, hnot⟩

theorem forall₂_getElem?_concat {places : List Nat}
    (h : List.Forall₂ (fun place e' => steps[place]? = some e') places path) :
    List.Forall₂ (fun place e' => (steps ++ [e])[place]? = some e') places path := by
  refine h.imp fun place e' he' => ?_
  rcases List.getElem?_eq_some_iff.mp he' with ⟨hlt, _⟩
  rw [List.getElem?_append_left hlt]
  exact he'

theorem KeepsRest.concat_of_joint (h : KeepsRest steps path)
    (hjoint : JointAt (steps ++ [e]) steps.length) : KeepsRest (steps ++ [e]) path := by
  rcases h with ⟨places, hsorted, hplaces, hkept⟩
  refine ⟨places, hsorted, ?_, forall₂_getElem?_concat hkept⟩
  intro place
  rw [kept_concat_iff, hplaces]
  constructor
  · exact .inl
  · rintro (hplace | ⟨_, hnot⟩)
    · exact hplace
    · exact absurd hjoint hnot

theorem KeepsRest.concat_of_not_joint (h : KeepsRest steps path)
    (hnot : ¬ JointAt (steps ++ [e]) steps.length) :
    KeepsRest (steps ++ [e]) (path ++ [e]) := by
  rcases h with ⟨places, hsorted, hplaces, hkept⟩
  refine ⟨places ++ [steps.length], ?_, ?_, ?_⟩
  · rw [List.pairwise_append]
    refine ⟨hsorted, List.pairwise_singleton _ _, ?_⟩
    intro place hplace next hnext
    rw [List.mem_singleton.mp hnext]
    exact ((hplaces place).mp hplace).1
  · intro place
    rw [kept_concat_iff, List.mem_append, List.mem_singleton, hplaces]
    exact or_congr_right (and_iff_left hnot).symm
  · exact List.rel_append (forall₂_getElem?_concat hkept) (.cons List.getElem?_concat_length .nil)

end Concat

theorem keepsRest_mergeJoints (steps : List PathElement) :
    KeepsRest steps (mergeJoints none steps) := by
  induction steps using List.reverseRecOn with
  | nil =>
      refine ⟨[], List.Pairwise.nil, ?_, List.Forall₂.nil⟩
      intro place
      simp
  | append_singleton steps e ih =>
      rw [mergeJoints_concat]
      by_cases hjoint : isJoint (steps.getLast?.or none) e = true
      · rw [if_pos hjoint, List.append_nil]
        exact ih.concat_of_joint (jointAt_concat_length.mpr hjoint)
      · rw [if_neg hjoint]
        exact ih.concat_of_not_joint (mt jointAt_concat_length.mp hjoint)

theorem KeepsRest.unique {steps path other : List PathElement} (h : KeepsRest steps path)
    (h' : KeepsRest steps other) : path = other := by
  rcases h with ⟨places, hsorted, hplaces, hkept⟩
  rcases h' with ⟨places', hsorted', hplaces', hkept'⟩
  have heq : places = places' := by
    apply hsorted.eq_of_mem_iff hsorted'
    intro place
    rw [hplaces, hplaces']
  subst heq
  refine List.right_unique_forall₂' ?_ hkept hkept'
  intro place e e' he he'
  exact Option.some.inj (he.symm.trans he')

theorem filterMap_event?_mergeJoints (previous : Option PathElement)
    (steps : List PathElement) :
    (mergeJoints previous steps).filterMap PathElement.event? =
      steps.filterMap PathElement.event? := by
  induction steps generalizing previous with
  | nil =>
      rfl
  | cons e rest ih =>
      rw [mergeJoints]
      by_cases hjoint : isJoint previous e = true
      · rcases isJoint_eq_true_iff.mp hjoint with ⟨l, _, rfl⟩
        rw [if_pos hjoint, ih]
        rfl
      · rw [if_neg hjoint, List.filterMap_cons, List.filterMap_cons, ih]

theorem advances_mergeJoints (previous : Option PathElement) (steps : List PathElement) :
    Advances (previous.toList ++ mergeJoints previous steps) := by
  induction steps generalizing previous with
  | nil =>
      cases previous with
      | none =>
          exact List.IsChain.nil
      | some previous =>
          exact List.IsChain.singleton previous
  | cons e rest ih =>
      rw [mergeJoints]
      by_cases hjoint : isJoint previous e = true
      · rw [if_pos hjoint]
        exact ih previous
      · rw [if_neg hjoint]
        cases previous with
        | none =>
            exact ih (some e)
        | some previous =>
            refine List.isChain_cons_cons.mpr ⟨?_, ih (some e)⟩
            rintro l ⟨rfl, rfl⟩
            exact hjoint (isJoint_eq_true_iff.mpr ⟨l, rfl, rfl⟩)

/-!
# Paths
-/

/-- Whether a path is made of steps by leaving out the joints alone: no two equal points stand
next to each other in it, and all events are left. -/
structure MergesJoints (steps path : List PathElement) : Prop where
  keepsRest : KeepsRest steps path
  events : path.filterMap PathElement.event? = steps.filterMap PathElement.event?
  advances : Advances path

theorem mergesJoints_iff {steps path : List PathElement} :
    MergesJoints steps path <-> mergeJoints none steps = path := by
  constructor
  · intro h
    exact (keepsRest_mergeJoints steps).unique h.keepsRest
  · rintro rfl
    exact ⟨keepsRest_mergeJoints steps, filterMap_event?_mergeJoints none steps,
      advances_mergeJoints none steps⟩

/-- The pieces of a path can be read if and only if each of them gives steps. The path is made
of these steps, one piece after the other, without the joints. -/
theorem decodePath_eq_ok_iff_mergesJoints {pieces : List Value} {path : List PathElement} :
    decodePath pieces = .ok path <->
      exists steps, List.Forall₂ PieceGives pieces steps ∧
        MergesJoints steps.flatten path := by
  unfold decodePath
  simp only [bind_eq_ok_iff, mergesJoints_iff,
    decodeEach_eq_ok_iff_forall₂ PieceGives fun _ _ _ => decodePiece_eq_ok_iff]
  refine exists_congr fun steps => and_congr_right fun _ => ?_
  exact ⟨Except.ok.inj, congrArg Except.ok⟩

end Bundle
end FindingLedger
