import Mathlib.Data.Nat.Count
import FindingLedger.Identity.Key
import FindingLedger.Identity.Surroundings
import FindingLedger.Proofs.Text.Words

/-!
# The lines around a finding as one text

The lines that are gathered around a finding are squeezed and not empty. So they can be
told apart in the text that joins them. There are as many of them as are wanted if enough
lines that are not blank can be read, and then nothing beyond them counts.
-/

namespace FindingLedger
namespace Identity

/-- Whether a text can stand for one line of several. -/
def IsLine (text : String) : Prop :=
  text ≠ "" ∧ '\n' ∉ text.toList

/-!
# Joined lines
-/

theorem toList_joinLines (lines : List String) :
    (joinLines lines).toList = ['\n'].intercalate (lines.map String.toList) := by
  induction lines with
  | nil =>
      rfl
  | cons line lines ih =>
      cases lines with
      | nil =>
          simp [joinLines]
      | cons next more =>
          rw [joinLines, String.toList_append, String.toList_append, ih]
          simp

theorem joinLines_cons_ne_empty {line : String} {lines : List String}
    (hline : IsLine line) : joinLines (line :: lines) ≠ "" := by
  intro h
  refine hline.1 ?_
  cases lines with
  | nil =>
      exact h
  | cons next more =>
      rw [joinLines, String.append_eq_empty_iff, String.append_eq_empty_iff] at h
      exact h.1.1

theorem splitOn_joinLines {lines : List String} (hne : lines ≠ [])
    (hlines : forall line, line ∈ lines -> IsLine line) :
    (joinLines lines).toList.splitOn '\n' = lines.map String.toList := by
  rw [toList_joinLines]
  refine List.splitOn_intercalate '\n' ?_ ?_
  · intro cs hcs
    rcases List.mem_map.mp hcs with ⟨line, hline, htext⟩
    rw [← htext]
    exact (hlines line hline).2
  · simpa using hne

theorem joinLines_inj {lines others : List String}
    (hlines : forall line, line ∈ lines -> IsLine line)
    (hothers : forall line, line ∈ others -> IsLine line) :
    joinLines lines = joinLines others <-> lines = others := by
  constructor
  · intro h
    -- No lines and a single empty line are joined alike, so the empty list stands apart.
    cases lines with
    | nil =>
        cases others with
        | nil =>
            rfl
        | cons other others =>
            exact absurd h.symm (joinLines_cons_ne_empty (hothers other List.mem_cons_self))
    | cons line lines =>
        cases others with
        | nil =>
            exact absurd h (joinLines_cons_ne_empty (hlines line List.mem_cons_self))
        | cons other others =>
            have hsplit := splitOn_joinLines (List.cons_ne_nil line lines) hlines
            rw [h, splitOn_joinLines (List.cons_ne_nil other others) hothers] at hsplit
            exact ((List.map_inj_right fun _ _ => String.toList_injective).mp hsplit).symm
  · intro h
    rw [h]

/-!
# Gathered lines
-/

theorem isLine_of_mem_gather {read? : Nat -> Option String} {wanted steps distance : Nat} :
    forall line, line ∈ gather read? wanted steps distance -> IsLine line := by
  induction steps generalizing wanted distance with
  | zero =>
      intro line hline
      cases hline
  | succ steps ih =>
      intro line hline
      rw [gather] at hline
      split at hline
      · cases hline
      · split at hline
        · cases hline
        · rename_i text _
          dsimp only at hline
          split at hline
          · exact ih line hline
          · rename_i hempty
            rcases List.mem_cons.mp hline with hline | hline
            · rw [hline]
              exact ⟨by simpa using hempty, Text.lineFeed_not_mem_squeeze text⟩
            · exact ih line hline

theorem gather_no_more (read? : Nat -> Option String) (steps distance : Nat) :
    gather read? 0 steps distance = [] := by
  cases steps <;> rfl

theorem gather_succ_of_none {read? : Nat -> Option String} {distance : Nat}
    (hread : read? distance = none) (wanted steps : Nat) :
    gather read? wanted (steps + 1) distance = [] := by
  rw [gather, hread]
  split <;> rfl

theorem gather_succ_of_blank {read? : Nat -> Option String} {distance : Nat} {text : String}
    (hread : read? distance = some text) (hblank : Text.allBlank text = true)
    (wanted steps : Nat) :
    gather read? wanted (steps + 1) distance = gather read? wanted steps (distance + 1) := by
  cases wanted with
  | zero =>
      rw [gather_no_more, gather_no_more]
  | succ wanted =>
      rw [gather, hread]
      simp only [Nat.add_one_ne_zero, if_false, Text.isEmpty_squeeze, hblank, if_true]

theorem gather_succ_of_filled {read? : Nat -> Option String} {distance : Nat} {text : String}
    (hread : read? distance = some text) (hfilled : Text.allBlank text = false)
    (wanted steps : Nat) :
    gather read? (wanted + 1) (steps + 1) distance =
      Text.squeeze text :: gather read? wanted steps (distance + 1) := by
  rw [gather, hread]
  simp only [Nat.add_one_ne_zero, if_false, Text.isEmpty_squeeze, hfilled,
    Bool.false_eq_true, Nat.add_sub_cancel]

theorem length_gather_le (read? : Nat -> Option String) (wanted steps distance : Nat) :
    (gather read? wanted steps distance).length ≤ wanted := by
  induction steps generalizing wanted distance with
  | zero =>
      exact Nat.zero_le wanted
  | succ steps ih =>
      cases hread : read? distance with
      | none =>
          rw [gather_succ_of_none hread]
          exact Nat.zero_le wanted
      | some text =>
          cases hblank : Text.allBlank text with
          | true =>
              rw [gather_succ_of_blank hread hblank]
              exact ih wanted (distance + 1)
          | false =>
              cases wanted with
              | zero =>
                  rw [gather_no_more]
                  exact Nat.le_refl 0
              | succ wanted =>
                  rw [gather_succ_of_filled hread hblank, List.length_cons]
                  exact Nat.succ_le_succ (ih wanted (distance + 1))

def isFilled (read? : Nat -> Option String) (distance : Nat) : Bool :=
  (read? distance).any fun text => !Text.allBlank text

theorem count_isFilled_succ (read? : Nat -> Option String) (steps distance : Nat) :
    Nat.count (fun i => isFilled read? (distance + i) = true) (steps + 1) =
      Nat.count (fun i => isFilled read? (distance + 1 + i) = true) steps +
        if isFilled read? distance = true then 1 else 0 := by
  rw [Nat.count_succ']
  simp only [Nat.add_zero, Nat.add_assoc, Nat.add_comm 1]

/-- Where no line is missing before one that can be read, lines are gathered until there are
enough of them or no more. -/
theorem min_count_le_length_gather {read? : Nat -> Option String}
    (hclosed : forall m n, m ≤ n -> (read? n).isSome = true -> (read? m).isSome = true)
    (wanted steps distance : Nat) :
    min wanted (Nat.count (fun i => isFilled read? (distance + i) = true) steps) ≤
      (gather read? wanted steps distance).length := by
  induction steps generalizing wanted distance with
  | zero =>
      simp
  | succ steps ih =>
      cases hread : read? distance with
      | none =>
          -- Beyond a line that is missing there are none that could count.
          have hzero : Nat.count (fun i => isFilled read? (distance + i) = true)
              (steps + 1) = 0 := by
            rw [Nat.count_iff_forall_not]
            intro i _ hfilled
            rw [isFilled, Option.any_eq_true] at hfilled
            rcases hfilled with ⟨text, htext, _⟩
            have hsome := hclosed distance (distance + i) (Nat.le_add_right _ _)
              (by rw [htext]; rfl)
            rw [hread] at hsome
            cases hsome
          rw [hzero, Nat.min_zero]
          exact Nat.zero_le _
      | some text =>
          have hfilled : isFilled read? distance = !Text.allBlank text := by
            rw [isFilled, hread, Option.any_some]
          rw [count_isFilled_succ, hfilled]
          cases hblank : Text.allBlank text with
          | true =>
              rw [gather_succ_of_blank hread hblank]
              exact ih wanted (distance + 1)
          | false =>
              cases wanted with
              | zero =>
                  rw [Nat.zero_min]
                  exact Nat.zero_le _
              | succ wanted =>
                  rw [gather_succ_of_filled hread hblank, List.length_cons, Bool.not_false,
                    if_pos rfl, Nat.add_min_add_right]
                  exact Nat.succ_le_succ (ih wanted (distance + 1))

/-- What is gathered in full is gathered alike by any other reading that knows the same
lines, and within more steps too. -/
theorem gather_eq_of_length_eq {read? other? : Nat -> Option String}
    (hother : forall n text, read? n = some text -> other? n = some text)
    {wanted steps more distance : Nat}
    (hlength : (gather read? wanted steps distance).length = wanted) (hmore : steps ≤ more) :
    gather other? wanted more distance = gather read? wanted steps distance := by
  induction steps generalizing wanted more distance with
  | zero =>
      have hnone : wanted = 0 := hlength.symm
      rw [hnone, gather_no_more, gather_no_more]
  | succ steps ih =>
      cases wanted with
      | zero =>
          rw [gather_no_more, gather_no_more]
      | succ wanted =>
          cases more with
          | zero =>
              exact absurd hmore (Nat.not_succ_le_zero steps)
          | succ more =>
              have hsteps : steps ≤ more := Nat.le_of_succ_le_succ hmore
              cases hread : read? distance with
              | none =>
                  rw [gather_succ_of_none hread] at hlength
                  cases hlength
              | some text =>
                  have hread' := hother distance text hread
                  cases hblank : Text.allBlank text with
                  | true =>
                      rw [gather_succ_of_blank hread hblank] at hlength ⊢
                      rw [gather_succ_of_blank hread' hblank]
                      exact ih hlength hsteps
                  | false =>
                      rw [gather_succ_of_filled hread hblank] at hlength ⊢
                      rw [gather_succ_of_filled hread' hblank,
                        ih (Nat.succ.inj hlength) hsteps]

theorem isLine_of_mem_linesAbove {sources : Sources} {settings : Settings} {path : String}
    {n : Nat} : forall line, line ∈ linesAbove sources settings path n -> IsLine line := by
  intro line hline
  exact isLine_of_mem_gather line (List.mem_reverse.mp hline)

theorem isLine_of_mem_linesBelow {sources : Sources} {settings : Settings} {path : String}
    {n : Nat} : forall line, line ∈ linesBelow sources settings path n -> IsLine line := by
  intro line hline
  exact isLine_of_mem_gather line hline

end Identity
end FindingLedger
