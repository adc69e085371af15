import Mathlib.Algebra.BigOperators.Ring.List
import Mathlib.Algebra.Ring.Nat
import Mathlib.Data.List.SplitBy
import FindingLedger.Identity.Context

/-!
# Room for declarations

The pattern of a declaration is a text with some blanks in it, so that the room that its
automata take grows with the name by one state for each byte. Names that are short enough
have a pattern; the bound given here is far above the length of any name in use.
-/

namespace FindingLedger
namespace Layout

open Text

/-!
# Bounds on room
-/

/-- Whether there is a result, and the room that it takes is no more than a bound. -/
def TakesUpTo {α : Type} (room : α -> Nat) (bound : Nat) (result : Option α) : Prop :=
  exists a, result = some a ∧ room a ≤ bound

section TakesUpTo

variable {α β : Type} {room : α -> Nat} {room' : β -> Nat} {bound bound' : Nat}
  {result : Option α}

theorem takesUpTo_some {a : α} (h : room a ≤ bound) : TakesUpTo room bound (some a) :=
  ⟨a, rfl, h⟩

theorem TakesUpTo.isSome (h : TakesUpTo room bound result) : result.isSome = true := by
  rcases h with ⟨a, rfl, _⟩
  rfl

theorem TakesUpTo.bind {f : α -> Option β} (h : TakesUpTo room bound result)
    (hf : forall a, room a ≤ bound -> TakesUpTo room' bound' (f a)) :
    TakesUpTo room' bound' (result >>= f) := by
  rcases h with ⟨a, rfl, ha⟩
  exact hf a ha

theorem TakesUpTo.le (h : TakesUpTo room bound result) (hle : bound ≤ bound') :
    TakesUpTo room bound' result := by
  rcases h with ⟨a, hresult, ha⟩
  exact ⟨a, hresult, Nat.le_trans ha hle⟩

theorem takesUpTo_foldlM {f : α -> β -> Option α} {cost : β -> Nat}
    (hf : forall a b n, room a ≤ n -> n + cost b ≤ maxRoom ->
      TakesUpTo room (n + cost b) (f a b))
    (bs : List β) {a : α} {n : Nat} (ha : room a ≤ n)
    (hn : n + (bs.map cost).sum ≤ maxRoom) :
    TakesUpTo room (n + (bs.map cost).sum) (bs.foldlM f a) := by
  induction bs generalizing a n with
  | nil =>
      exact takesUpTo_some ha
  | cons b bs ih =>
      rw [List.map_cons, List.sum_cons, ← Nat.add_assoc] at hn ⊢
      rw [List.foldlM_cons]
      refine (hf a b n ha (by omega)).bind ?_
      intro a ha
      exact ih ha hn

end TakesUpTo

/-!
# States
-/

section States

variable {l : Layout} {n : Nat} (hl : l.room ≤ n)

include hl

theorem takesUpTo_add (extra : Nat) (hn : n + stateRoom + extra ≤ maxRoom) :
    TakesUpTo Layout.room (n + stateRoom + extra) (l.add extra) := by
  unfold add
  have hroom : l.room + stateRoom + extra ≤ n + stateRoom + extra := by omega
  dsimp only
  rw [if_pos (Nat.le_trans hroom hn)]
  exact takesUpTo_some hroom

theorem takesUpTo_addMany {count : Nat} (hn : n + stateRoom * count ≤ maxRoom) :
    TakesUpTo Layout.room (n + stateRoom * count) (addMany count l) := by
  induction count generalizing l n with
  | zero =>
      exact takesUpTo_some hl
  | succ count ih =>
      rw [Nat.mul_succ] at hn ⊢
      rcases takesUpTo_add hl 0 (by omega) with ⟨next, hnext, hroom⟩
      rw [addMany, hnext]
      exact (ih hroom (by omega)).le (by omega)

theorem room_leadOn_le : l.leadOn.room ≤ n + wayRoom := by
  unfold leadOn
  split
  · exact Nat.add_le_add_right hl wayRoom
  · exact Nat.le_trans hl (Nat.le_add_right n wayRoom)

theorem takesUpTo_addFront (anchored : Bool) (hn : n + 3 * stateRoom + 2 * arcRoom ≤ maxRoom) :
    TakesUpTo Layout.room (n + 3 * stateRoom + 2 * arcRoom) (addFront anchored l) := by
  have hway : 2 * wayRoom = arcRoom := rfl
  unfold addFront
  split
  · exact (takesUpTo_add hl _ (by omega)).le (by omega)
  · refine (takesUpTo_add hl _ (by omega)).bind ?_
    intro l hl
    refine (takesUpTo_add hl _ (by omega)).bind ?_
    intro l hl
    exact (takesUpTo_add hl _ (by omega)).le (by omega)

end States

/-!
# Sets
-/

def size (encodings : List (List Span)) : Nat :=
  (encodings.map List.length).sum

theorem size_append (a b : List (List Span)) : size (a ++ b) = size a + size b := by
  simp [size]

theorem size_flatten (groups : List (List (List Span))) :
    size groups.flatten = (groups.map size).sum := by
  induction groups with
  | nil =>
      rfl
  | cons group groups ih =>
      rw [List.flatten_cons, size_append, ih, List.map_cons, List.sum_cons]

theorem size_cons (encoding : List Span) (encodings : List (List Span)) :
    size (encoding :: encodings) = encoding.length + size encodings :=
  rfl

theorem size_drop_le (encodings : List (List Span)) :
    size (encodings.map (List.drop 1)) ≤ size encodings := by
  induction encodings with
  | nil =>
      exact Nat.le_refl _
  | cons encoding encodings ih =>
      rw [List.map_cons, size_cons, size_cons, List.length_drop]
      omega

def Sharing.room (s : Sharing) : Nat :=
  s.layout.room

theorem takesUpTo_share {s : Sharing} {n places extra : Nat} {numbers : List Nat}
    (hs : s.room ≤ n) (hn : n + stateRoom + extra ≤ maxRoom) :
    TakesUpTo (fun shared => shared.2.room) (n + stateRoom + extra)
      (share places extra numbers s) := by
  unfold share
  dsimp only
  split
  · refine takesUpTo_some ?_
    dsimp only
    omega
  · refine (takesUpTo_add hs _ hn).bind ?_
    intro layout hlayout
    exact takesUpTo_some hlayout

/-- The most room for a byte of an encoding: a state, and an arc that is written as three
numbers. -/
def byteRoom : Nat :=
  stateRoom + 3 * arcRoom

/-- The room of arcs that have been collected, written as three numbers each, and of the states
that they lead to. -/
def arcsRoom (collected : List Nat × Sharing) : Nat :=
  collected.2.room + arcRoom * collected.1.length

theorem arcsRoom_append (arcs : List Nat) (first last next : Nat) (s : Sharing) :
    arcsRoom (arcs ++ [first, last, next], s) =
      s.room + arcRoom * arcs.length + 3 * arcRoom := by
  have hlength : (arcs ++ [first, last, next]).length = arcs.length + 3 := List.length_append
  rw [arcsRoom, hlength, Nat.mul_add, Nat.mul_comm arcRoom 3, Nat.add_assoc]

theorem takesUpTo_shareFront (target depth : Nat) {encodings : List (List Span)} {s : Sharing}
    {n : Nat} (hs : s.room ≤ n) (hn : n + stateRoom + byteRoom * size encodings ≤ maxRoom) :
    TakesUpTo (fun shared => shared.2.room) (n + stateRoom + byteRoom * size encodings)
      (shareFront target depth encodings s) := by
  induction depth generalizing encodings s n with
  | zero =>
      refine takesUpTo_some ?_
      dsimp only
      omega
  | succ depth ih =>
      have hgroups : byteRoom * size encodings = ((encodings.splitBy fun a b =>
          a.head? == b.head?).map fun group => byteRoom * size group).sum := by
        rw [List.sum_map_mul_left _ size byteRoom, ← size_flatten, List.flatten_splitBy]
      rw [shareFront]
      refine TakesUpTo.bind (?_ : TakesUpTo arcsRoom (n + byteRoom * size encodings) _) ?_
      · rw [hgroups] at hn ⊢
        refine takesUpTo_foldlM ?_ _ hs (by omega)
        intro collected group n hcollected hn
        rcases collected with ⟨arcs, s⟩
        have hunit : byteRoom = stateRoom + 3 * arcRoom := rfl
        unfold arcsRoom at hcollected
        dsimp only at hcollected ⊢
        split
        · rename_i run rest others
          have hsize : byteRoom * (size (((run :: rest) :: others).map (List.drop 1)) + 1) ≤
              byteRoom * size ((run :: rest) :: others) := by
            refine Nat.mul_le_mul_left byteRoom ?_
            have := size_drop_le others
            rw [List.map_cons, size_cons, size_cons, List.drop_one, List.tail_cons,
              List.length_cons]
            omega
          rw [Nat.mul_succ] at hsize
          split
          · refine takesUpTo_some ?_
            rw [arcsRoom_append]
            dsimp only
            omega
          · refine (ih (Nat.le_refl s.room) (by omega)).bind ?_
            intro shared hshared
            refine takesUpTo_some ?_
            rw [arcsRoom_append]
            omega
        · exact takesUpTo_some (Nat.le_add_right_of_le hcollected)
      · intro collected hcollected
        have hextra : collected.1.length / 3 * arcRoom ≤ arcRoom * collected.1.length := by
          rw [Nat.mul_comm]
          exact Nat.mul_le_mul_left arcRoom (Nat.div_le_self _ _)
        unfold arcsRoom at hcollected
        exact (takesUpTo_share (Nat.le_refl _) (by omega)).le (by omega)

theorem takesUpTo_shareBack {next : Nat} {encoding : List Span} {s : Sharing} {n : Nat}
    (hs : s.room ≤ n) (hn : n + stateRoom * encoding.length ≤ maxRoom) :
    TakesUpTo Sharing.room (n + stateRoom * encoding.length) (shareBack next encoding s) := by
  induction encoding generalizing next s n with
  | nil =>
      exact takesUpTo_some hs
  | cons run rest ih =>
      rw [List.length_cons, Nat.mul_succ] at hn ⊢
      rw [shareBack]
      refine (takesUpTo_share hs (by omega)).bind ?_
      intro shared hshared
      exact (ih hshared (by omega)).le (by omega)

theorem takesUpTo_shareBacks (next : Nat) {encodings : List (List Span)} {s : Sharing} {n : Nat}
    (hs : s.room ≤ n) (hn : n + stateRoom * size encodings ≤ maxRoom) :
    TakesUpTo Sharing.room (n + stateRoom * size encodings)
      (encodings.foldlM (fun shared encoding => shareBack next encoding shared) s) := by
  have hsum : (encodings.map fun encoding => stateRoom * encoding.length).sum =
      stateRoom * size encodings :=
    List.sum_map_mul_left _ List.length stateRoom
  rw [← hsum] at hn ⊢
  refine takesUpTo_foldlM ?_ encodings hs hn
  intro shared encoding n hshared hn
  exact takesUpTo_shareBack hshared hn

theorem ofSet_of_cut?_eq_none {s : CharSet}
    (hs : forall r, r ∈ s.runs -> Encoding.cut? r.first r.last = none) :
    Encoding.ofSet s = s.runs.map fun r =>
      List.zipWith Span.mk (Encoding.bytesOf r.first) (Encoding.bytesOf r.last) := by
  rw [Encoding.ofSet, List.map_eq_flatMap]
  refine List.flatMap_congr fun r hr => ?_
  rw [Encoding.ofRun, hs r hr]

def setRoom (s : CharSet) : Nat :=
  3 * stateRoom + s.runs.length * arcRoom + (Encoding.ofSet s).length * wayRoom +
    byteRoom * size (Encoding.ofSet s)

theorem takesUpTo_addSet (backward : Bool) (s : CharSet) {l : Layout} {n : Nat}
    (hl : l.room ≤ n) (hn : n + setRoom s ≤ maxRoom) :
    TakesUpTo Layout.room (n + setRoom s) (addSet backward s l) := by
  unfold setRoom at hn ⊢
  unfold addSet
  split
  · refine (takesUpTo_add hl _ (by omega)).bind ?_
    intro l hl
    exact (takesUpTo_add hl _ (by omega)).le (by omega)
  · split
    · have hencodings : stateRoom * size (Encoding.ofSet s) ≤
          byteRoom * size (Encoding.ofSet s) :=
        Nat.mul_le_mul_right _ (Nat.le_add_right _ _)
      unfold addBackward
      refine (takesUpTo_add hl _ (by omega)).bind ?_
      intro l hl
      refine (takesUpTo_add hl _ (by omega)).bind ?_
      intro l hl
      refine (takesUpTo_shareBacks _ (s := ⟨l, ∅⟩) hl (by omega)).bind ?_
      intro shared hshared
      exact takesUpTo_some (Nat.le_trans hshared (by omega))
    · unfold addForward
      refine (takesUpTo_add hl _ (by omega)).bind ?_
      intro l hl
      refine (takesUpTo_shareFront _ _ (s := ⟨l, ∅⟩) hl (by omega)).bind ?_
      intro shared hshared
      exact takesUpTo_some (Nat.le_trans hshared (by omega))

/-!
# Declarations
-/

theorem takesUpTo_addRepeated {part : Layout -> Option Layout} {cost : Nat}
    (hpart : forall l n, l.room ≤ n -> n + cost ≤ maxRoom ->
      TakesUpTo Layout.room (n + cost) (part l))
    (takes : Bool) {l : Layout} {n : Nat} (hl : l.room ≤ n)
    (hn : n + cost + 3 * stateRoom + 5 * wayRoom ≤ maxRoom) :
    TakesUpTo Layout.room (n + cost + 3 * stateRoom + 5 * wayRoom)
      (addRepeated part takes 0 none l) := by
  rw [addRepeated]
  split
  · refine (takesUpTo_add hl wayRoom (by omega)).bind ?_
    intro l hl
    refine (hpart l _ hl (by omega)).bind ?_
    intro l hl
    refine takesUpTo_some ?_
    have := room_leadOn_le hl
    dsimp only
    omega
  · refine (hpart l _ hl (by omega)).bind ?_
    intro l hl
    refine (takesUpTo_add (room_leadOn_le hl) _ (by omega)).bind ?_
    intro l hl
    refine (takesUpTo_add hl _ (by omega)).bind ?_
    intro l hl
    exact (takesUpTo_add hl _ (by omega)).le (by omega)

end Layout

def declarationPlan (name : List Char) : Plan :=
  .seq [.anchor (.wordEdge .boundary false), .text name, .repeated (.set .blank) 0 none,
    .text ['(']]

namespace Plan

theorem ofSet_single (c : Char) : ofSet (.single c) = .text [c] := by
  rw [ofSet, CharSet.single, CharSet.range_single, CharSet.only?]
  simp

theorem ofPatterns_append (ps qs : List Pattern) :
    ofPatterns (ps ++ qs) = ofPatterns ps ++ ofPatterns qs := by
  induction ps with
  | nil =>
      rfl
  | cons p ps ih =>
      rw [List.cons_append, ofPatterns, ih, ofPatterns, List.cons_append]

theorem foldr_joinPart_text (name : List Char) (hname : name ≠ []) (rest : List Plan)
    (hrest : forall cs more, rest ≠ .text cs :: more) :
    (name.map fun c => Plan.text [c]).foldr joinPart rest = .text name :: rest := by
  induction name with
  | nil =>
      exact absurd rfl hname
  | cons c name ih =>
      rw [List.map_cons, List.foldr_cons]
      cases name with
      | nil =>
          cases rest with
          | nil =>
              rfl
          | cons p rest =>
              cases p with
              | text cs =>
                  exact absurd rfl (hrest cs rest)
              | _ =>
                  rfl
      | cons d name =>
          rw [ih (List.cons_ne_nil d name)]
          rfl

theorem ofPatterns_singles (name : List Char) :
    (ofPatterns (name.map fun c => .one (.single c))).flatMap parts =
      name.map fun c => .text [c] := by
  induction name with
  | nil =>
      rfl
  | cons c name ih =>
      rw [List.map_cons, ofPatterns, ofPattern, ofSet_single, List.flatMap_cons, ih]
      rfl

theorem ofPattern_declarationOf {name : List Char} (hname : name ≠ []) :
    ofPattern (Identity.declarationOf name) = declarationPlan name := by
  have hlast : ((ofPatterns [.repeated (.one .blank) 0 none, .one (.single '(')]).flatMap
      parts).foldr joinPart [] = [.repeated (.set .blank) 0 none, .text ['(']] := by
    rfl
  have htext := foldr_joinPart_text name hname
    [.repeated (.set .blank) 0 none, .text ['(']] (fun _ _ h => nomatch h)
  rw [Identity.declarationOf, ofPattern, List.cons_append, ofPatterns, ofPatterns_append,
    seqOf, List.flatMap_cons, List.flatMap_append, ofPatterns_singles, List.foldr_append,
    List.foldr_append, hlast, htext]
  rfl

end Plan

namespace Layout

open Text

theorem length_bytesOf (backward : Bool) (cs : List Char) :
    (bytesOf backward cs).length = (cs.map Char.utf8Size).sum := by
  have hbytes : (cs.flatMap fun c => Encoding.bytesOf c.toNat).length =
      (cs.map Char.utf8Size).sum := by
    induction cs with
    | nil =>
        rfl
    | cons c cs ih =>
        rw [List.flatMap_cons, List.length_append, ih, List.map_cons, List.sum_cons,
          Encoding.bytesOf, Char.ofNat_toNat, List.length_map, String.length_utf8EncodeChar]
  unfold bytesOf
  dsimp only
  split
  · rw [List.length_reverse, hbytes]
  · exact hbytes

theorem ofSet_blank : Encoding.ofSet .blank = CharSet.blank.runs.map fun r =>
    List.zipWith Span.mk (Encoding.bytesOf r.first) (Encoding.bytesOf r.last) :=
  ofSet_of_cut?_eq_none (by decide)

theorem setRoom_blank : setRoom .blank = 1560 := by
  rw [setRoom, ofSet_blank]
  rfl

def partRoom : Plan -> Nat
  | .text cs => stateRoom * (cs.map Char.utf8Size).sum
  | .repeated (.set s) _ _ => setRoom s + 3 * stateRoom + 5 * wayRoom
  | _ => stateRoom

theorem takesUpTo_addPlan_part (backward : Bool) {name : List Char} {p : Plan}
    (hp : p ∈ [.anchor (.wordEdge .boundary false), .text name, .repeated (.set .blank) 0 none,
      .text ['(']]) {l : Layout} {n : Nat} (hl : l.room ≤ n) (hn : n + partRoom p ≤ maxRoom) :
    TakesUpTo Layout.room (n + partRoom p) (addPlan backward p l) := by
  have htext : forall cs, n + partRoom (.text cs) ≤ maxRoom ->
      TakesUpTo Layout.room (n + partRoom (.text cs)) (addPlan backward (.text cs) l) := by
    intro cs hn
    rw [partRoom] at hn ⊢
    rw [← length_bytesOf backward] at hn ⊢
    rw [addPlan]
    exact takesUpTo_addMany hl hn
  simp only [List.mem_cons, List.not_mem_nil, or_false] at hp
  rcases hp with rfl | rfl | rfl | rfl
  · rw [addPlan]
    exact takesUpTo_add hl _ hn
  · exact htext name hn
  · rw [partRoom] at hn ⊢
    rw [addPlan]
    have hset : forall l n, Layout.room l ≤ n -> n + setRoom .blank ≤ maxRoom ->
        TakesUpTo Layout.room (n + setRoom .blank) (addPlan backward (.set .blank) l) := by
      intro l n hl hn
      rw [addPlan]
      exact takesUpTo_addSet backward .blank hl hn
    exact (takesUpTo_addRepeated hset _ hl (by omega)).le (by omega)
  · exact htext ['('] hn

section Seq

variable (cost : Plan -> Nat) {ps : List Plan}

theorem takesUpTo_addSeq (hps : forall p, p ∈ ps -> forall l n, Layout.room l ≤ n ->
      n + cost p ≤ maxRoom -> TakesUpTo Layout.room (n + cost p) (addPlan false p l))
    {l : Layout} {n : Nat} (hl : l.room ≤ n)
    (hn : n + (ps.map fun p => cost p + wayRoom).sum ≤ maxRoom) :
    TakesUpTo Layout.room (n + (ps.map fun p => cost p + wayRoom).sum) (addSeq ps l) := by
  induction ps generalizing l n with
  | nil =>
      exact takesUpTo_some hl
  | cons p ps ih =>
      rw [List.map_cons, List.sum_cons] at hn ⊢
      cases ps with
      | nil =>
          rw [addSeq]
          exact (hps p List.mem_cons_self l n hl (by omega)).le (by omega)
      | cons q ps =>
          rw [addSeq]
          · refine (hps p List.mem_cons_self l n hl (by omega)).bind ?_
            intro l hl
            refine (ih ?_ (room_leadOn_le hl) (by omega)).le (by omega)
            exact fun p hp => hps p (List.mem_cons_of_mem _ hp)
          · exact fun h => nomatch h

theorem takesUpTo_addSeqBack (hps : forall p, p ∈ ps -> forall l n, Layout.room l ≤ n ->
      n + cost p ≤ maxRoom -> TakesUpTo Layout.room (n + cost p) (addPlan true p l))
    {l : Layout} {n : Nat} (hl : l.room ≤ n)
    (hn : n + (ps.map fun p => cost p + wayRoom).sum ≤ maxRoom) :
    TakesUpTo Layout.room (n + (ps.map fun p => cost p + wayRoom).sum) (addSeqBack ps l) := by
  induction ps generalizing l n with
  | nil =>
      exact takesUpTo_some hl
  | cons p ps ih =>
      rw [List.map_cons, List.sum_cons] at hn ⊢
      cases ps with
      | nil =>
          rw [addSeqBack]
          exact (hps p List.mem_cons_self l n hl (by omega)).le (by omega)
      | cons q ps =>
          rw [addSeqBack]
          · refine (ih (fun p hp => hps p (List.mem_cons_of_mem _ hp)) hl (by omega)).bind ?_
            intro l hl
            exact (hps p List.mem_cons_self _ _ (room_leadOn_le hl) (by omega)).le (by omega)
          · exact fun h => nomatch h

end Seq

def declarationRoom (bytes : Nat) : Nat :=
  stateRoom * bytes + 2000

theorem sum_partRoom_le (name : List Char) :
    ([.anchor (.wordEdge .boundary false), .text name, .repeated (.set .blank) 0 none,
      .text ['(']].map fun p => partRoom p + wayRoom).sum ≤
      declarationRoom (name.map Char.utf8Size).sum := by
  have hopen : Char.utf8Size '(' = 1 := rfl
  simp only [List.map_cons, List.map_nil, List.sum_cons, List.sum_nil, partRoom,
    setRoom_blank]
  rw [hopen, declarationRoom, stateRoom, wayRoom]
  omega

theorem takesUpTo_addPlan_declaration (backward : Bool) (name : List Char) {l : Layout}
    {n : Nat} (hl : l.room ≤ n)
    (hn : n + declarationRoom (name.map Char.utf8Size).sum ≤ maxRoom) :
    TakesUpTo Layout.room (n + declarationRoom (name.map Char.utf8Size).sum)
      (addPlan backward (declarationPlan name) l) := by
  have hsum := sum_partRoom_le name
  rw [declarationPlan, addPlan]
  split
  · refine (takesUpTo_addSeqBack partRoom ?_ hl (by omega)).le (by omega)
    exact fun p hp l n => takesUpTo_addPlan_part true hp
  · refine (takesUpTo_addSeq partRoom ?_ hl (by omega)).le (by omega)
    exact fun p hp l n => takesUpTo_addPlan_part false hp

def frameRoom : Nat :=
  6 * stateRoom + 2 * arcRoom + 2 * wayRoom

theorem isSome_of_takesUpTo_addPlan {p : Plan} {cost : Nat}
    (hp : forall backward l n, Layout.room l ≤ n -> n + cost ≤ maxRoom ->
      TakesUpTo Layout.room (n + cost) (addPlan backward p l))
    (hcost : cost + frameRoom ≤ maxRoom) :
    (ofForward p).isSome = true ∧ (ofBackward p).isSome = true := by
  rw [frameRoom] at hcost
  have hstart : start.room ≤ 0 := Nat.le_refl 0
  have hforward : TakesUpTo Layout.room (cost + frameRoom) (ofForward p) := by
    unfold ofForward
    refine (takesUpTo_addFront hstart _ (by omega)).bind ?_
    intro l hl
    have hgroup : TakesUpTo Layout.room (cost + 5 * stateRoom + 2 * arcRoom + wayRoom)
        (addPlan false (.group p) l) := by
      rw [addPlan]
      refine (takesUpTo_add hl 0 (by omega)).bind ?_
      intro l hl
      refine (hp false l _ hl (by omega)).bind ?_
      intro l hl
      exact (takesUpTo_add (room_leadOn_le hl) _ (by omega)).le (by omega)
    refine hgroup.bind ?_
    intro l hl
    exact (takesUpTo_add (room_leadOn_le hl) _ (by omega)).le (by rw [frameRoom]; omega)
  have hbackward : TakesUpTo Layout.room (cost + frameRoom) (ofBackward p) := by
    unfold ofBackward
    refine (takesUpTo_addFront hstart _ (by omega)).bind ?_
    intro l hl
    refine (hp true l _ hl (by omega)).bind ?_
    intro l hl
    exact (takesUpTo_add (room_leadOn_le hl) _ (by omega)).le (by rw [frameRoom]; omega)
  exact ⟨hforward.isSome, hbackward.isSome⟩

end Layout

namespace Identity

theorem fits_declarationOf {name : List Char} (hname : name ≠ [])
    (hsize : (name.map Char.utf8Size).sum ≤ 300000) :
    (declarationOf name).fits = true := by
  have hroom : Layout.declarationRoom (name.map Char.utf8Size).sum + Layout.frameRoom ≤
      Layout.maxRoom := by
    rw [Layout.declarationRoom, Layout.frameRoom, Layout.stateRoom, Layout.arcRoom,
      Layout.wayRoom, Layout.maxRoom]
    omega
  have hboth := Layout.isSome_of_takesUpTo_addPlan
    (fun backward _ _ => Layout.takesUpTo_addPlan_declaration backward name) hroom
  rw [Pattern.fits, Plan.ofPattern_declarationOf hname, Bool.and_eq_true]
  exact hboth

end Identity
end FindingLedger
