import Mathlib.Data.List.Basic
import FindingLedger.Pattern.Search

/-!
# Searching finds what matches

The search carries a set of places to the places where matches from them can end. Here it is
shown to carry them to no others and to miss none: `occursIn_iff_exists_matches` says that
a pattern is found in a text exactly when some stretch of the text matches it. Repetition is
where this takes an argument, since the search leaves out rounds that cannot reach anything
new.
-/

namespace FindingLedger
namespace Pattern

/-!
# Steps of a relation
-/

/-- Whether so many steps of a relation lead from one place to another. -/
def Steps (r : Nat -> Nat -> Prop) : Nat -> Nat -> Nat -> Prop
  | 0, i, j => i = j
  | count + 1, i, j => exists m, r i m ∧ Steps r count m j

section Steps

variable {r : Nat -> Nat -> Prop}

theorem Steps.append {k l i m j : Nat} (h : Steps r k i m) (h' : Steps r l m j) :
    Steps r (k + l) i j := by
  induction k generalizing i with
  | zero =>
      rw [Nat.zero_add, show i = m from h]
      exact h'
  | succ k ih =>
      rcases h with ⟨n, hin, hnm⟩
      rw [Nat.succ_add]
      exact ⟨n, hin, ih hnm⟩

theorem Steps.split {k l i j : Nat} (h : Steps r (k + l) i j) :
    exists m, Steps r k i m ∧ Steps r l m j := by
  induction k generalizing i with
  | zero =>
      rw [Nat.zero_add] at h
      exact ⟨i, rfl, h⟩
  | succ k ih =>
      rw [Nat.succ_add] at h
      rcases h with ⟨n, hin, hnj⟩
      rcases ih hnj with ⟨m, hnm, hmj⟩
      exact ⟨m, ⟨n, hin, hnm⟩, hmj⟩

theorem Steps.le {bound : Nat} (hr : forall i j, i ≤ bound -> r i j -> j ≤ bound) {k i j : Nat}
    (h : Steps r k i j) (hi : i ≤ bound) : j ≤ bound := by
  induction k generalizing i with
  | zero =>
      rw [← show i = j from h]
      exact hi
  | succ k ih =>
      rcases h with ⟨m, him, hmj⟩
      exact ih hmj (hr i m hi him)

theorem Steps.fewer {k l i j : Nat} (h : Steps r k i j)
    (htrans : forall i m j, r i m -> r m j -> r i j) (hl : 0 < l) (hlk : l ≤ k) :
    Steps r l i j := by
  induction k generalizing i with
  | zero =>
      omega
  | succ k ih =>
      rcases Nat.lt_or_eq_of_le hlk with hlt | heq
      · rcases h with ⟨m, him, hmj⟩
        cases k with
        | zero =>
            omega
        | succ k =>
            rcases hmj with ⟨n, hmn, hnj⟩
            exact ih ⟨n, htrans i m n him hmn, hnj⟩ (Nat.le_of_lt_succ hlt)
      · rw [heq]
        exact h

end Steps

/-!
# Functions that carry places along
-/

/-- Whether a function carries places up to a bound to all places that a relation leads to. -/
def Carries (f : List Nat -> List Nat) (r : Nat -> Nat -> Prop) (bound : Nat) : Prop :=
  forall places : List Nat, (forall i, i ∈ places -> i ≤ bound) ->
    forall j, j ∈ f places <-> exists i, i ∈ places ∧ r i j

section Carries

variable {f : List Nat -> List Nat} {r : Nat -> Nat -> Prop} {bound : Nat}

theorem Carries.le (hf : Carries f r bound) (hr : forall i j, i ≤ bound -> r i j -> j ≤ bound)
    {places : List Nat} (hplaces : forall i, i ∈ places -> i ≤ bound) :
    forall j, j ∈ f places -> j ≤ bound := by
  intro j hj
  rcases (hf places hplaces j).mp hj with ⟨i, hi, hij⟩
  exact hr i j (hplaces i hi) hij

theorem carries_iterate (hf : Carries f r bound)
    (hr : forall i j, i ≤ bound -> r i j -> j ≤ bound) (count : Nat) :
    Carries (iterate f count) (Steps r count) bound := by
  induction count with
  | zero =>
      intro places _ j
      simp [iterate, Steps]
  | succ count ih =>
      intro places hplaces j
      have hnext : (exists i, i ∈ places ∧ Steps r (count + 1) i j) <->
          exists m, m ∈ f places ∧ Steps r count m j := by
        constructor
        · intro h
          rcases h with ⟨i, hi, m, him, hmj⟩
          exact ⟨m, (hf places hplaces m).mpr ⟨i, hi, him⟩, hmj⟩
        · intro h
          rcases h with ⟨m, hm, hmj⟩
          rcases (hf places hplaces m).mp hm with ⟨i, hi, him⟩
          exact ⟨i, hi, m, him, hmj⟩
      rw [hnext, ← ih (f places) (hf.le hr hplaces) j, iterate]
      split
      · -- A step that changes nothing goes on changing nothing.
        rename_i hsame
        have hsame : f places = places := by simpa using hsame
        rw [hsame]
        have hfixed : forall n, iterate f n places = places := by
          intro n
          cases n with
          | zero =>
              rfl
          | succ n =>
              simp [iterate, hsame]
        rw [hfixed]
      · rfl

theorem exists_steps_of_iterate {places ends : List Nat} {least : Nat}
    (hends : forall j, j ∈ ends <-> exists i, i ∈ places ∧ Steps r least i j)
    (q : Nat -> Prop) {j : Nat} :
    (exists i k, i ∈ ends ∧ q k ∧ Steps r k i j) <->
      exists i, i ∈ places ∧ exists k, least ≤ k ∧ q (k - least) ∧ Steps r k i j := by
  constructor
  · intro h
    rcases h with ⟨i, k, hi, hk, hij⟩
    rcases (hends i).mp hi with ⟨m, hm, hmi⟩
    exact ⟨m, hm, least + k, by omega, by rwa [Nat.add_sub_cancel_left], hmi.append hij⟩
  · intro h
    rcases h with ⟨i, hi, k, hk, hq, hij⟩
    rcases Nat.exists_eq_add_of_le hk with ⟨l, rfl⟩
    rcases hij.split with ⟨m, him, hmj⟩
    exact ⟨m, l, (hends m).mpr ⟨i, hi, him⟩, by rwa [Nat.add_sub_cancel_left] at hq, hmj⟩

/-!
## Searching outwards
-/

/-- Whether all that one step leads to from places seen before the frontier has been seen. -/
structure Explored (r : Nat -> Nat -> Prop) (seen frontier : List Nat) : Prop where
  seen_of_frontier : forall i, i ∈ frontier -> i ∈ seen
  closed : forall i, i ∈ seen -> i ∉ frontier -> forall j, r i j -> j ∈ seen

theorem explored_self (places : List Nat) : Explored r places places :=
  ⟨fun _ hi => hi, fun _ hi hnot => absurd hi hnot⟩

variable (hf : Carries f r bound) {seen frontier : List Nat}
  (hseen : forall i, i ∈ seen -> i ≤ bound) (h : Explored r seen frontier)

include hf hseen h

theorem Explored.mem_fresh_iff {j : Nat} :
    j ∈ NatSet.minus (f frontier) seen <-> (exists i, i ∈ frontier ∧ r i j) ∧ j ∉ seen := by
  rw [NatSet.mem_minus, hf frontier fun i hi => hseen i (h.seen_of_frontier i hi)]

theorem Explored.next :
    Explored r (NatSet.union seen (NatSet.minus (f frontier) seen))
      (NatSet.minus (f frontier) seen) := by
  refine ⟨fun i hi => NatSet.mem_union.mpr (Or.inr hi), ?_⟩
  intro i hi hold j hij
  rcases NatSet.mem_union.mp hi with hi | hi
  · by_cases hj : j ∈ seen
    · exact NatSet.mem_union.mpr (Or.inl hj)
    · by_cases hfrontier : i ∈ frontier
      · exact NatSet.mem_union.mpr
          (Or.inr ((h.mem_fresh_iff hf hseen).mpr ⟨⟨i, hfrontier, hij⟩, hj⟩))
      · exact absurd (h.closed i hi hfrontier j hij) hj
  · exact absurd hi hold

/-- What steps lead to from a place that has been seen has been seen too, or fewer steps lead
to it from a fresh place. -/
theorem Explored.seen_or_fresh {k i j : Nat} (hi : i ∈ seen) (hij : Steps r k i j) :
    j ∈ seen ∨ exists m l, m ∈ NatSet.minus (f frontier) seen ∧ l < k ∧ Steps r l m j := by
  induction k generalizing i with
  | zero =>
      rw [← show i = j from hij]
      exact Or.inl hi
  | succ k ih =>
      rcases hij with ⟨m, him, hmj⟩
      by_cases hm : m ∈ seen
      · rcases ih hm hmj with hj | ⟨n, l, hn, hl, hnj⟩
        · exact Or.inl hj
        · exact Or.inr ⟨n, l, hn, Nat.lt_succ_of_lt hl, hnj⟩
      · by_cases hfrontier : i ∈ frontier
        · exact Or.inr ⟨m, k, (h.mem_fresh_iff hf hseen).mpr ⟨⟨i, hfrontier, him⟩, hm⟩,
            Nat.lt_succ_self k, hmj⟩
        · exact absurd (h.closed i hi hfrontier m him) hm

theorem Explored.le_of_mem_next (hr : forall i j, i ≤ bound -> r i j -> j ≤ bound) :
    forall i, i ∈ NatSet.union seen (NatSet.minus (f frontier) seen) -> i ≤ bound := by
  intro i hi
  rcases NatSet.mem_union.mp hi with hi | hi
  · exact hseen i hi
  · rcases (h.mem_fresh_iff hf hseen).mp hi with ⟨⟨m, hm, hmi⟩, _⟩
    exact hr m i (hseen m (h.seen_of_frontier m hm)) hmi

theorem Explored.exists_step {k m j : Nat} (hm : m ∈ NatSet.minus (f frontier) seen)
    (hmj : Steps r k m j) : exists i, i ∈ seen ∧ Steps r (k + 1) i j := by
  rcases (h.mem_fresh_iff hf hseen).mp hm with ⟨⟨i, hi, him⟩, _⟩
  exact ⟨i, h.seen_of_frontier i hi, m, him, hmj⟩

theorem Explored.mem_of_no_fresh (hnone : NatSet.minus (f frontier) seen = []) {k i j : Nat}
    (hi : i ∈ seen) (hij : Steps r k i j) : j ∈ seen := by
  rcases h.seen_or_fresh hf hseen hi hij with hj | ⟨m, _, hm, _⟩
  · exact hj
  · rw [hnone] at hm
    cases hm

theorem Explored.steps_of_next {k i j : Nat}
    (hi : i ∈ NatSet.union seen (NatSet.minus (f frontier) seen)) (hij : Steps r k i j) :
    exists m l, m ∈ seen ∧ l ≤ k + 1 ∧ Steps r l m j := by
  rcases NatSet.mem_union.mp hi with hi | hi
  · exact ⟨i, k, hi, Nat.le_succ k, hij⟩
  · rcases h.exists_step hf hseen hi hij with ⟨m, hm, hmj⟩
    exact ⟨m, k + 1, hm, Nat.le_refl _, hmj⟩

theorem Explored.steps_to_next {k i j : Nat} (hi : i ∈ seen) (hij : Steps r k i j) :
    exists m l, m ∈ NatSet.union seen (NatSet.minus (f frontier) seen) ∧ l ≤ k - 1 ∧
      Steps r l m j := by
  rcases h.seen_or_fresh hf hseen hi hij with hj | ⟨m, l, hm, hl, hmj⟩
  · exact ⟨j, 0, NatSet.mem_union.mpr (Or.inl hj), Nat.zero_le _, rfl⟩
  · exact ⟨m, l, NatSet.mem_union.mpr (Or.inr hm), Nat.le_pred_of_lt hl, hmj⟩

theorem mem_upTo_iff (hr : forall i j, i ≤ bound -> r i j -> j ≤ bound) {count j : Nat} :
    j ∈ upTo f count seen frontier <-> exists i k, i ∈ seen ∧ k ≤ count ∧ Steps r k i j := by
  induction count generalizing seen frontier with
  | zero =>
      simp [upTo, Steps]
  | succ count ih =>
      rw [upTo]
      split
      · rename_i hnone
        rw [List.isEmpty_iff] at hnone
        constructor
        · intro hj
          exact ⟨j, 0, hj, Nat.zero_le _, rfl⟩
        · intro hj
          rcases hj with ⟨i, k, hi, _, hij⟩
          exact h.mem_of_no_fresh hf hseen hnone hi hij
      · rw [ih (h.le_of_mem_next hf hseen hr) (h.next hf hseen)]
        constructor
        · intro hj
          rcases hj with ⟨i, k, hi, hk, hij⟩
          rcases h.steps_of_next hf hseen hi hij with ⟨m, l, hm, hl, hmj⟩
          exact ⟨m, l, hm, by omega, hmj⟩
        · intro hj
          rcases hj with ⟨i, k, hi, hk, hij⟩
          rcases h.steps_to_next hf hseen hi hij with ⟨m, l, hm, hl, hmj⟩
          exact ⟨m, l, hm, by omega, hmj⟩

end Carries

def unseenCount (bound : Nat) (seen : List Nat) : Nat :=
  (List.range (bound + 1)).countP fun i => !seen.contains i

theorem unseenCount_lt {bound : Nat} {seen fresh : List Nat} {i : Nat} (hi : i ≤ bound)
    (hold : i ∉ seen) (hfresh : i ∈ fresh) :
    unseenCount bound (NatSet.union seen fresh) < unseenCount bound seen := by
  unfold unseenCount
  rw [List.countP_eq_length_filter, List.countP_eq_length_filter]
  have hfilter : (List.range (bound + 1)).filter
      (fun n => !(NatSet.union seen fresh).contains n) =
      ((List.range (bound + 1)).filter fun n => !seen.contains n).filter
        fun n => !fresh.contains n := by
    rw [List.filter_filter]
    refine List.filter_congr ?_
    intro n _
    rw [Bool.eq_iff_iff]
    simp [NatSet.mem_union, and_comm]
  rw [hfilter]
  refine List.length_filter_lt_length_iff_exists.mpr ⟨i, ?_, ?_⟩
  · simp [hold, Nat.lt_succ_of_le hi]
  · simp [hfresh]

theorem mem_close_iff {f : List Nat -> List Nat} {r : Nat -> Nat -> Prop} {bound : Nat}
    (hf : Carries f r bound) (hr : forall i j, i ≤ bound -> r i j -> j ≤ bound)
    {seen frontier : List Nat} (hseen : forall i, i ∈ seen -> i ≤ bound)
    (h : Explored r seen frontier) {rounds : Nat} (hrounds : unseenCount bound seen ≤ rounds)
    {j : Nat} :
    j ∈ close f rounds seen frontier <-> exists i k, i ∈ seen ∧ Steps r k i j := by
  induction rounds generalizing seen frontier with
  | zero =>
      -- All places have been seen.
      rw [close]
      constructor
      · intro hj
        exact ⟨j, 0, hj, rfl⟩
      · intro hj
        rcases hj with ⟨i, k, hi, hij⟩
        have hle := hij.le hr (hseen i hi)
        have hnone := List.countP_eq_zero.mp (Nat.le_zero.mp hrounds) j
          (List.mem_range.mpr (Nat.lt_succ_of_le hle))
        simpa using hnone
  | succ rounds ih =>
      rw [close]
      split
      · rename_i hnone
        rw [List.isEmpty_iff] at hnone
        constructor
        · intro hj
          exact ⟨j, 0, hj, rfl⟩
        · intro hj
          rcases hj with ⟨i, k, hi, hij⟩
          exact h.mem_of_no_fresh hf hseen hnone hi hij
      · rename_i hsome
        rcases List.exists_mem_of_ne_nil _ (mt List.isEmpty_iff.mpr hsome) with ⟨n, hn⟩
        have hnext := h.le_of_mem_next hf hseen hr
        have hless : unseenCount bound (NatSet.union seen (NatSet.minus (f frontier) seen)) ≤
            rounds := by
          have hlt := unseenCount_lt (hnext n (NatSet.mem_union.mpr (Or.inr hn)))
            (NatSet.mem_minus.mp hn).2 hn
          omega
        rw [ih hnext (h.next hf hseen) hless]
        constructor
        · intro hj
          rcases hj with ⟨i, k, hi, hij⟩
          rcases h.steps_of_next hf hseen hi hij with ⟨m, l, hm, _, hmj⟩
          exact ⟨m, l, hm, hmj⟩
        · intro hj
          rcases hj with ⟨i, k, hi, hij⟩
          rcases h.steps_to_next hf hseen hi hij with ⟨m, l, hm, _, hmj⟩
          exact ⟨m, l, hm, hmj⟩

/-!
# What matches, by kind of pattern
-/

section Matches

variable {text : Array Char} {p : Pattern} {ps : List Pattern} {i j : Nat}

theorem matches_one_iff {set : CharSet} :
    Matches text (.one set) i j <-> exists c, text[i]? = some c ∧ set.has c = true ∧ j = i + 1 := by
  constructor
  · intro h
    cases h with
    | one here mem =>
        exact ⟨_, here, mem, rfl⟩
  · intro h
    rcases h with ⟨c, here, mem, rfl⟩
    exact Matches.one here mem

theorem matches_anchor_iff {a : Anchor} :
    Matches text (.anchor a) i j <-> a.holds text i = true ∧ i = j := by
  constructor
  · intro h
    cases h with
    | anchor holds =>
        exact ⟨holds, rfl⟩
  · intro h
    rcases h with ⟨holds, rfl⟩
    exact Matches.anchor holds

theorem matches_group_iff : Matches text (.group p) i j <-> Matches text p i j := by
  constructor
  · intro h
    cases h with
    | group inner =>
        exact inner
  · exact Matches.group

theorem matches_nil_iff : Matches text (.seq []) i j <-> i = j := by
  constructor
  · intro h
    cases h with
    | nil =>
        rfl
  · intro h
    exact h ▸ Matches.nil i

theorem matches_cons_iff :
    Matches text (.seq (p :: ps)) i j <->
      exists m, Matches text p i m ∧ Matches text (.seq ps) m j := by
  constructor
  · intro h
    cases h with
    | cons head tail =>
        exact ⟨_, head, tail⟩
  · intro h
    rcases h with ⟨m, head, tail⟩
    exact Matches.cons head tail

theorem matches_choice_iff :
    Matches text (.choice ps) i j <-> exists q, q ∈ ps ∧ Matches text q i j := by
  constructor
  · intro h
    cases h with
    | choice mem branch =>
        exact ⟨_, mem, branch⟩
  · intro h
    rcases h with ⟨q, mem, branch⟩
    exact Matches.choice mem branch

theorem Matches.steps_of_repeated {least : Nat} {more : Option Nat}
    (h : Matches text (.repeated p least more) i j) :
    exists k, least ≤ k ∧ (forall m, more = some m -> k ≤ least + m) ∧
      Steps (Matches text p) k i j := by
  generalize hq : Pattern.repeated p least more = q at h
  induction h generalizing least more with
  | done =>
      cases hq
      exact ⟨0, Nat.le_refl _, fun _ _ => Nat.zero_le _, rfl⟩
  | least head _ _ ih =>
      cases hq
      rcases ih rfl with ⟨k, hleast, hmore, hsteps⟩
      refine ⟨k + 1, by omega, ?_, _, head, hsteps⟩
      intro m hm
      have := hmore m hm
      omega
  | more head _ _ ih =>
      cases hq
      rcases ih rfl with ⟨k, _, hmore, hsteps⟩
      refine ⟨k + 1, by omega, ?_, _, head, hsteps⟩
      intro m hm
      have := hmore _ rfl
      cases hm
      omega
  | further head _ _ ih =>
      cases hq
      rcases ih rfl with ⟨k, _, _, hsteps⟩
      exact ⟨k + 1, by omega, fun _ hm => (nomatch hm), _, head, hsteps⟩
  | one | anchor | group | nil | cons | choice =>
      cases hq

theorem matches_repeated_of_steps {k least : Nat} {more : Option Nat} (hleast : least ≤ k)
    (hmore : forall m, more = some m -> k ≤ least + m)
    (hsteps : Steps (Matches text p) k i j) : Matches text (.repeated p least more) i j := by
  induction k generalizing least more i with
  | zero =>
      cases Nat.le_zero.mp hleast
      rw [show i = j from hsteps]
      exact Matches.done p more j
  | succ k ih =>
      rcases hsteps with ⟨m, head, hsteps⟩
      cases least with
      | succ least =>
          refine Matches.least head (ih (by omega) ?_ hsteps)
          intro m hm
          have := hmore m hm
          omega
      | zero =>
          cases more with
          | none =>
              exact Matches.further head (ih (Nat.zero_le _) (fun _ hm => nomatch hm) hsteps)
          | some more =>
              cases more with
              | zero =>
                  have := hmore 0 rfl
                  omega
              | succ more =>
                  refine Matches.more head (ih (Nat.zero_le _) ?_ hsteps)
                  intro m hm
                  have := hmore (more + 1) rfl
                  cases hm
                  omega

theorem matches_repeated_iff {least : Nat} {more : Option Nat} :
    Matches text (.repeated p least more) i j <->
      exists k, least ≤ k ∧ (forall m, more = some m -> k ≤ least + m) ∧
        Steps (Matches text p) k i j := by
  constructor
  · exact Matches.steps_of_repeated
  · intro h
    rcases h with ⟨k, hleast, hmore, hsteps⟩
    exact matches_repeated_of_steps hleast hmore hsteps

theorem Matches.le_size (h : Matches text p i j) (hi : i ≤ text.size) : j ≤ text.size := by
  induction h with
  | one here =>
      exact (Array.getElem?_eq_some_iff.mp here).1
  | anchor | done | nil =>
      exact hi
  | group _ ih | choice _ _ ih =>
      exact ih hi
  | least _ _ ihHead ihTail | more _ _ ihHead ihTail | further _ _ ihHead ihTail
  | cons _ _ ihHead ihTail =>
      exact ihTail (ihHead hi)

theorem matches_of_settles {p : Pattern} (hp : settles p = true) {i m j : Nat}
    (him : Matches text p i m) (hmj : Matches text p m j) : Matches text p i j := by
  induction p using settles.induct generalizing i m j with
  | case1 a =>
      rw [matches_anchor_iff] at him
      rw [him.2]
      exact hmj
  | case2 p ih =>
      rw [settles] at hp
      rw [matches_group_iff] at him hmj ⊢
      exact ih hp him hmj
  | case3 p least =>
      rw [settles, decide_eq_true_eq] at hp
      rw [matches_repeated_iff] at him hmj ⊢
      rcases him with ⟨k, hk, _, him⟩
      rcases hmj with ⟨l, _, _, hmj⟩
      exact ⟨k + l, by omega, fun _ hm => (nomatch hm), him.append hmj⟩
  | case4 p least more ih =>
      rw [settles, Bool.and_eq_true, decide_eq_true_eq] at hp
      rw [matches_repeated_iff] at him hmj ⊢
      rcases him with ⟨k, hleast, hk, him⟩
      rcases hmj with ⟨l, _, hl, hmj⟩
      have hk := hk more rfl
      have hl := hl more rfl
      -- Each side is at most one match, and two of them make one.
      cases k with
      | zero =>
          exact ⟨0 + l, by omega, fun m hm => by cases hm; omega, him.append hmj⟩
      | succ k =>
          refine ⟨k + 1, hleast, fun m hm => by cases hm; exact hk, ?_⟩
          exact (him.append hmj).fewer (fun _ _ _ => ih hp.2) (Nat.succ_pos k)
            (Nat.le_add_right _ _)
  | case5 p hanchor hgroup hall hsome =>
      rw [settles] at hp
      · cases hp
      all_goals assumption

end Matches

/-!
# Searching
-/

theorem stepOver_eq_some_iff {text : Array Char} {set : CharSet} {i j : Nat} :
    stepOver text set i = some j <-> Matches text (.one set) i j := by
  rw [matches_one_iff, stepOver]
  split
  · rename_i c here
    split
    · rename_i mem
      constructor
      · intro h
        exact ⟨c, here, mem, (Option.some.inj h).symm⟩
      · intro h
        rcases h with ⟨_, _, _, rfl⟩
        rfl
    · rename_i mem
      simp [here, mem]
  · rename_i here
    simp [here]

theorem carries_repeated {text : Array Char} {p : Pattern}
    (hp : Carries (reach text p) (Matches text p) text.size) (least : Nat)
    (more : Option Nat) :
    Carries (reach text (.repeated p least more)) (Matches text (.repeated p least more))
      text.size := by
  intro places hplaces j
  have hr : forall i j, i ≤ text.size -> Matches text p i j -> j ≤ text.size :=
    fun i j hi hij => hij.le_size hi
  have hstart := carries_iterate hp hr least places hplaces
  have hle : forall i, i ∈ iterate (reach text p) least places -> i ≤ text.size := by
    intro i hi
    rcases (hstart i).mp hi with ⟨m, hm, hmi⟩
    exact hmi.le hr (hplaces m hm)
  unfold reach
  split
  · rename_i hsettles
    rw [Bool.and_eq_true, decide_eq_true_eq] at hsettles
    rw [hstart]
    refine exists_congr fun i => and_congr_right fun _ => ?_
    rw [matches_repeated_iff]
    constructor
    · intro h
      exact ⟨least, Nat.le_refl _, fun _ _ => Nat.le_add_right _ _, h⟩
    · intro h
      rcases h with ⟨k, hk, _, h⟩
      exact h.fewer (fun _ _ _ => matches_of_settles hsettles.2) hsettles.1 hk
  · cases more with
    | none =>
        have hrounds : unseenCount text.size (iterate (reach text p) least places) ≤
            text.size + 1 :=
          Nat.le_trans List.countP_le_length (Nat.le_of_eq List.length_range)
        dsimp only
        rw [mem_close_iff hp hr hle (explored_self _) hrounds]
        simpa [matches_repeated_iff] using exists_steps_of_iterate hstart fun _ => True
    | some more =>
        dsimp only
        rw [mem_upTo_iff hp hle (explored_self _) hr,
          exists_steps_of_iterate hstart fun k => k ≤ more]
        refine exists_congr fun i => and_congr_right fun _ => ?_
        rw [matches_repeated_iff]
        refine exists_congr fun k => and_congr_right fun hk => and_congr_left fun _ => ?_
        constructor
        · intro h m hm
          cases hm
          omega
        · intro h
          have := h more rfl
          omega

mutual

theorem carries_reach (text : Array Char) :
    (p : Pattern) -> Carries (reach text p) (Matches text p) text.size
  | .one set => by
      intro places _ j
      rw [reach, List.mem_filterMap]
      exact exists_congr fun i => and_congr_right fun _ => stepOver_eq_some_iff
  | .anchor a => by
      intro places _ j
      rw [reach, List.mem_filter]
      constructor
      · intro h
        exact ⟨j, h.1, Matches.anchor h.2⟩
      · intro h
        rcases h with ⟨i, hi, hij⟩
        rcases matches_anchor_iff.mp hij with ⟨holds, rfl⟩
        exact ⟨hi, holds⟩
  | .group p => by
      intro places hplaces j
      rw [reach, carries_reach text p places hplaces j]
      exact exists_congr fun i => and_congr_right fun _ => matches_group_iff.symm
  | .repeated p least more => carries_repeated (carries_reach text p) least more
  | .seq ps => by
      intro places hplaces j
      rw [reach]
      exact carries_reachAll text ps places hplaces j
  | .choice ps => by
      intro places hplaces j
      rw [reach]
      exact carries_reachAny text ps places hplaces j

theorem carries_reachAll (text : Array Char) :
    (ps : List Pattern) -> Carries (reachAll text ps) (Matches text (.seq ps)) text.size
  | [] => by
      intro places _ j
      simp [reachAll, matches_nil_iff]
  | p :: ps => by
      intro places hplaces j
      have hp := carries_reach text p
      have hle := hp.le (fun i j hi hij => hij.le_size hi) hplaces
      rw [reachAll, carries_reachAll text ps _ hle j]
      constructor
      · intro h
        rcases h with ⟨m, hm, hmj⟩
        rcases (hp places hplaces m).mp hm with ⟨i, hi, him⟩
        exact ⟨i, hi, Matches.cons him hmj⟩
      · intro h
        rcases h with ⟨i, hi, hij⟩
        rcases matches_cons_iff.mp hij with ⟨m, him, hmj⟩
        exact ⟨m, (hp places hplaces m).mpr ⟨i, hi, him⟩, hmj⟩

theorem carries_reachAny (text : Array Char) :
    (ps : List Pattern) -> Carries (reachAny text ps) (Matches text (.choice ps)) text.size
  | [] => by
      intro places _ j
      simp [reachAny, matches_choice_iff]
  | p :: ps => by
      intro places hplaces j
      rw [reachAny, NatSet.mem_union, carries_reach text p places hplaces j,
        carries_reachAny text ps places hplaces j]
      simp only [matches_choice_iff, List.mem_cons]
      constructor
      · rintro (⟨i, hi, hij⟩ | ⟨i, hi, q, hq, hij⟩)
        · exact ⟨i, hi, p, Or.inl rfl, hij⟩
        · exact ⟨i, hi, q, Or.inr hq, hij⟩
      · rintro ⟨i, hi, q, rfl | hq, hij⟩
        · exact Or.inl ⟨i, hi, hij⟩
        · exact Or.inr ⟨i, hi, q, hq, hij⟩

end

/-- A pattern is found in a text exactly when some stretch of the text matches it. -/
theorem occursIn_iff_exists_matches {p : Pattern} {text : List Char} :
    p.occursIn text = true <->
      exists i j, i ≤ text.length ∧ Matches text.toArray p i j := by
  have hplaces : forall i, i ∈ List.range (text.toArray.size + 1) <-> i ≤ text.length := by
    intro i
    rw [List.mem_range, List.size_toArray]
    exact Nat.lt_succ_iff
  have hreach := carries_reach text.toArray p (List.range (text.toArray.size + 1))
    (fun i hi => by rw [List.size_toArray]; exact (hplaces i).mp hi)
  rw [occursIn, Bool.not_eq_true', Bool.eq_false_iff, Ne, List.isEmpty_iff]
  constructor
  · intro h
    rcases List.exists_mem_of_ne_nil _ h with ⟨j, hj⟩
    rcases (hreach j).mp hj with ⟨i, hi, hij⟩
    exact ⟨i, j, (hplaces i).mp hi, hij⟩
  · intro h
    rcases h with ⟨i, j, hi, hij⟩
    exact List.ne_nil_of_mem ((hreach j).mpr ⟨i, (hplaces i).mpr hi, hij⟩)

end Pattern
end FindingLedger
