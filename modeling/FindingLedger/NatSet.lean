/-!
# Sets of numbers

A set of numbers is its sorted list without repetition. Each operation is described by the
members of its result, and by the order in which `pairwise_ofList` says they stand.
-/

namespace FindingLedger
namespace NatSet

def insert (n : Nat) : List Nat → List Nat
  | [] => [n]
  | m :: rest =>
      if n < m then n :: m :: rest
      else if n == m then m :: rest
      else m :: insert n rest

def union (a b : List Nat) : List Nat :=
  a.foldr insert b

def ofList (ns : List Nat) : List Nat :=
  union ns []

def minus (a b : List Nat) : List Nat :=
  a.filter fun n => !b.contains n

/-!
## Members and order
-/

theorem mem_insert {k n : Nat} {s : List Nat} : k ∈ insert n s ↔ k = n ∨ k ∈ s := by
  induction s with
  | nil => simp [insert]
  | cons m rest ih =>
      unfold insert
      split
      · simp
      · split
        · rename_i hnm
          have hnm : n = m := by simpa using hnm
          simp [hnm]
        · simp only [List.mem_cons, ih]
          exact or_left_comm

theorem mem_union {k : Nat} {a b : List Nat} : k ∈ union a b ↔ k ∈ a ∨ k ∈ b := by
  induction a with
  | nil => simp [union]
  | cons n rest ih =>
      simp only [union, List.foldr_cons] at ih ⊢
      rw [mem_insert, ih, List.mem_cons, or_assoc]

@[simp] theorem mem_ofList {k : Nat} {ns : List Nat} : k ∈ ofList ns ↔ k ∈ ns := by
  simp [ofList, mem_union]

@[simp] theorem mem_minus {k : Nat} {a b : List Nat} : k ∈ minus a b ↔ k ∈ a ∧ k ∉ b := by
  simp [minus]

theorem pairwise_insert (n : Nat) {s : List Nat} (h : s.Pairwise (· < ·)) :
    (insert n s).Pairwise (· < ·) := by
  induction s with
  | nil => simp [insert]
  | cons m rest ih =>
      have hm := List.pairwise_cons.1 h
      unfold insert
      split
      · rename_i hlt
        refine List.pairwise_cons.2 ⟨fun k hk => ?_, h⟩
        rcases List.mem_cons.1 hk with rfl | hk
        · exact hlt
        · exact Nat.lt_trans hlt (hm.1 k hk)
      · split
        · exact h
        · rename_i hlt hne
          have hne : n ≠ m := by simpa using hne
          refine List.pairwise_cons.2 ⟨fun k hk => ?_, ih hm.2⟩
          rcases mem_insert.1 hk with rfl | hk
          · omega
          · exact hm.1 k hk

theorem pairwise_union (a : List Nat) {b : List Nat} (h : b.Pairwise (· < ·)) :
    (union a b).Pairwise (· < ·) := by
  induction a with
  | nil => exact h
  | cons n rest ih => exact pairwise_insert n ih

theorem pairwise_ofList (ns : List Nat) : (ofList ns).Pairwise (· < ·) :=
  pairwise_union ns List.Pairwise.nil

end NatSet
end FindingLedger
