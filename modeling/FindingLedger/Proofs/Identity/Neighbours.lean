import FindingLedger.Proofs.Identity.Surroundings
import FindingLedger.Proofs.Source.Lines

/-!
# Neighbours in a list of lines

What is gathered around a line of a file is told from the list of the file's lines: on either
side the nearest ones that are not blank, among those that the search reaches.
-/

namespace FindingLedger
namespace Identity

def filled (lines : List String) : List String :=
  lines.filter fun line => !Text.allBlank line

/-- The first so many lines that are not blank, among so many of the nearest ones, squeezed.
The nearest line stands first. -/
def neighbours (wanted steps : Nat) (lines : List String) : List String :=
  ((filled (lines.take steps)).take wanted).map Text.squeeze

theorem filled_cons_of_blank {line : String} (h : Text.allBlank line = true)
    (lines : List String) : filled (line :: lines) = filled lines := by
  simp [filled, h]

theorem filled_cons_of_filled {line : String} (h : Text.allBlank line = false)
    (lines : List String) : filled (line :: lines) = line :: filled lines := by
  simp [filled, h]

theorem gather_eq_neighbours {read? : Nat -> Option String} {lines : List String}
    {distance : Nat} (h : forall i, read? (distance + i) = lines[i]?) (wanted steps : Nat) :
    gather read? wanted steps distance = neighbours wanted steps lines := by
  induction steps generalizing lines distance wanted with
  | zero =>
      simp [gather, neighbours, filled]
  | succ steps ih =>
      have hread : read? distance = lines[0]? := h 0
      cases lines with
      | nil =>
          rw [gather_succ_of_none hread]
          simp [neighbours, filled]
      | cons line rest =>
          have hrest : forall i, read? (distance + 1 + i) = rest[i]? := by
            intro i
            rw [Nat.add_right_comm]
            exact h (i + 1)
          cases hblank : Text.allBlank line with
          | true =>
              rw [gather_succ_of_blank hread hblank, ih hrest, neighbours, neighbours,
                List.take_succ_cons, filled_cons_of_blank hblank]
          | false =>
              cases wanted with
              | zero =>
                  rw [gather_no_more]
                  rfl
              | succ wanted =>
                  rw [gather_succ_of_filled hread hblank, ih hrest, neighbours, neighbours,
                    List.take_succ_cons, filled_cons_of_filled hblank, List.take_succ_cons,
                    List.map_cons]

section Around

variable {sources : Sources} {path text : String} {before after : List String}

theorem line?_sub_of_hasLines (h : sources.HasLines path (before ++ text :: after)) (i : Nat) :
    sources.line? path (before.length + 1 - (1 + i)) = before.reverse[i]? := by
  by_cases hi : i < before.length
  · have hplace : before.length + 1 - (1 + i) = before.length - 1 - i + 1 := by omega
    rw [hplace, h.2, List.getElem?_append_left (by omega), List.getElem?_reverse hi]
  · have hplace : before.length + 1 - (1 + i) = 0 := by omega
    rw [hplace, h.1, List.getElem?_eq_none (by simpa using hi)]

theorem line?_add_of_hasLines (h : sources.HasLines path (before ++ text :: after)) (i : Nat) :
    sources.line? path (before.length + 1 + (1 + i)) = after[i]? := by
  have hplace : before.length + 1 + (1 + i) = before.length + (i + 1) + 1 := by omega
  rw [hplace, h.2, List.getElem?_append_right (by omega), Nat.add_sub_cancel_left,
    List.getElem?_cons_succ]

theorem linesAbove_eq_neighbours (h : sources.HasLines path (before ++ text :: after))
    (settings : Settings) :
    linesAbove sources settings path (before.length + 1) =
      (neighbours settings.contextWindow (reach settings) before.reverse).reverse := by
  have hread := line?_sub_of_hasLines h
  have htake : before.reverse.take (min (before.length + 1 - 1) (reach settings)) =
      before.reverse.take (reach settings) := by
    rw [Nat.add_sub_cancel, Nat.min_comm, ← List.length_reverse, ← List.take_take,
      List.take_length]
  unfold linesAbove
  rw [gather_eq_neighbours hread, neighbours, htake]
  rfl

theorem linesBelow_eq_neighbours (h : sources.HasLines path (before ++ text :: after))
    (settings : Settings) :
    linesBelow sources settings path (before.length + 1) =
      neighbours settings.contextWindow (reach settings) after :=
  gather_eq_neighbours (line?_add_of_hasLines h) _ _

end Around

end Identity
end FindingLedger
