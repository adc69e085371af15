import Mathlib.Data.List.DropRight
import FindingLedger.Proofs.Text.Numerals
import FindingLedger.Proofs.Text.Words

/-!
# What blanks at the ends of a text leave alone

A text is its trimmed form between blanks. So what neither a blank in front nor one at the end
can change is told from the trimmed form, the words of a text among it.
-/

namespace FindingLedger
namespace Text

theorem eq_trimChars_between_blanks (cs : List Char) :
    exists before after, Blanks before ∧ Blanks after ∧
      cs = before ++ trimChars cs ++ after := by
  have hblank : forall ds : List Char, Blanks (ds.takeWhile isBlank) := by
    intro ds c hc
    exact List.all_eq_true.mp List.all_takeWhile c hc
  exists cs.takeWhile isBlank, ((cs.dropWhile isBlank).reverse.takeWhile isBlank).reverse
  refine ⟨hblank cs, ?_, ?_⟩
  · intro c hc
    exact hblank _ c (List.mem_reverse.mp hc)
  · unfold trimChars dropBlankEnd
    rw [List.append_assoc, ← List.reverse_append, List.takeWhile_append_dropWhile,
      List.reverse_reverse, List.takeWhile_append_dropWhile]

/-- What no blank at either end of a text can change holds of the text as of its trimmed
form. -/
theorem iff_trimChars (holds : List Char -> Prop)
    (hfront : forall c cs, isBlank c = true -> (holds (c :: cs) <-> holds cs))
    (hback : forall c cs, isBlank c = true -> (holds (cs ++ [c]) <-> holds cs))
    (cs : List Char) : holds cs <-> holds (trimChars cs) := by
  have hbefore : forall before ds : List Char, Blanks before ->
      (holds (before ++ ds) <-> holds ds) := by
    intro before ds hblank
    induction before with
    | nil =>
        exact Iff.rfl
    | cons c before ih =>
        rw [Blanks, List.forall_mem_cons] at hblank
        rw [List.cons_append, hfront c _ hblank.1]
        exact ih hblank.2
  have hafter : forall after ds : List Char, Blanks after ->
      (holds (ds ++ after) <-> holds ds) := by
    intro after ds hblank
    induction after generalizing ds with
    | nil =>
        rw [List.append_nil]
    | cons c after ih =>
        rw [Blanks, List.forall_mem_cons] at hblank
        rw [← hback c ds hblank.1, ← ih (ds ++ [c]) hblank.2, List.append_assoc,
          List.singleton_append]
  rcases eq_trimChars_between_blanks cs with ⟨before, after, hb, ha, hcs⟩
  conv => lhs; rw [hcs]
  rw [hafter _ _ ha, hbefore _ _ hb]

/-!
# Trimmed texts
-/

/-- Whether a text holds something and has no blank at either end. -/
structure Trimmed (s : String) : Prop where
  ne_empty : s ≠ ""
  front : forall c, s.toList.head? = some c -> isBlank c = false
  back : forall c, s.toList.getLast? = some c -> isBlank c = false

theorem isBlank_of_head?_dropWhile {cs : List Char} {c : Char}
    (h : (cs.dropWhile isBlank).head? = some c) : isBlank c = false := by
  have hnot := List.head?_dropWhile_not isBlank cs
  rw [h] at hnot
  exact hnot

theorem trimmed_trim {s : String} (h : trim s ≠ "") : Trimmed (trim s) := by
  refine ⟨h, ?_, ?_⟩
  · intro c hc
    rw [trim, String.toList_ofList] at hc
    -- What is cut off at the end leaves the first character in its place.
    have hpart : trimChars s.toList <+: s.toList.dropWhile isBlank := by
      unfold trimChars dropBlankEnd
      exact List.rdropWhile_prefix isBlank _
    rcases hpart with ⟨after, hafter⟩
    apply isBlank_of_head?_dropWhile
    rw [← hafter, List.head?_append, hc]
    rfl
  · intro c hc
    rw [trim, String.toList_ofList, trimChars, dropBlankEnd, List.getLast?_reverse] at hc
    exact isBlank_of_head?_dropWhile hc

theorem trimmed_of_trim_eq {s : String} (h : trim s = s) (hne : s ≠ "") : Trimmed s := by
  rw [← h] at hne ⊢
  exact trimmed_trim hne

theorem trim_ne_empty {s : String} (h : allBlank s = false) : trim s ≠ "" := by
  intro hempty
  rcases eq_trimChars_between_blanks s.toList with ⟨before, after, hbefore, hafter, hs⟩
  rw [String.ofList_eq_empty_iff.mp hempty, List.append_nil] at hs
  have hblank : allBlank s = true := by
    rw [allBlank, hs]
    exact List.all_eq_true.mpr (hbefore.append hafter)
  rw [hblank] at h
  cases h

/-!
# Words
-/

theorem wordsOf_concat_of_blank {c : Char} (hc : isBlank c = true) (cs : List Char) :
    wordsOf (cs ++ [c]) = wordsOf cs := by
  induction cs with
  | nil =>
      rw [List.nil_append, wordsOf_cons_of_blank hc]
  | cons d cs ih =>
      cases cs with
      | nil =>
          cases hd : isBlank d with
          | true =>
              rw [List.cons_append, List.nil_append, wordsOf_cons_of_blank hd,
                wordsOf_cons_of_blank hd, wordsOf_cons_of_blank hc]
          | false =>
              simp [wordsOf, hd, hc]
      | cons e cs =>
          -- Which words there are is decided by the next character, which stays.
          rw [List.cons_append, List.cons_append, wordsOf.eq_def, wordsOf.eq_def (d :: e :: cs)]
          rw [List.cons_append] at ih
          simp only [ih]

theorem wordsOf_trimChars (cs : List Char) : wordsOf (trimChars cs) = wordsOf cs := by
  apply (iff_trimChars (fun ds => wordsOf ds = wordsOf cs) ?_ ?_ cs).mp
  · rfl
  · intro c ds hc
    rw [wordsOf_cons_of_blank hc]
  · intro c ds hc
    rw [wordsOf_concat_of_blank hc]

theorem trimChars_eq_of_trim_eq {s t : String} (h : trim s = trim t) :
    trimChars s.toList = trimChars t.toList :=
  String.ofList_injective h

theorem wordsOf_eq_of_trim_eq {s t : String} (h : trim s = trim t) :
    wordsOf s.toList = wordsOf t.toList := by
  rw [← wordsOf_trimChars s.toList, trimChars_eq_of_trim_eq h, wordsOf_trimChars]

theorem squeeze_eq_of_wordsOf_eq {s t : String} (h : wordsOf s.toList = wordsOf t.toList) :
    squeeze s = squeeze t := by
  unfold squeeze
  rw [h]

end Text
end FindingLedger
