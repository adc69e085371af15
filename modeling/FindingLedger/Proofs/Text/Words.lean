import FindingLedger.Text.Blank

/-!
# Squeezed lines

A squeezed line is made of words and single spaces. So no blank other than the space is
left in it, and no line feed.
-/

namespace FindingLedger
namespace Text

/-!
# Words
-/

theorem wordsOf_cons_of_blank {c : Char} (hc : isBlank c = true) (rest : List Char) :
    wordsOf (c :: rest) = wordsOf rest := by
  rw [wordsOf.eq_def]
  simp only [hc, if_true]

theorem wordsOf_cons_of_not_blank {c : Char} (hc : isBlank c = false) (rest : List Char) :
    wordsOf (c :: rest) = [c] :: wordsOf rest ∨
      exists first others, wordsOf rest = first :: others ∧
        wordsOf (c :: rest) = (c :: first) :: others := by
  rw [wordsOf.eq_def (c :: rest)]
  simp only [hc, Bool.false_eq_true, if_false]
  cases rest with
  | nil =>
      exact Or.inl rfl
  | cons d more =>
      cases hd : isBlank d with
      | true =>
          exact Or.inl (if_pos hd)
      | false =>
          -- The next character belongs to the same word, so the rest has a first word.
          simp only [hd, Bool.false_eq_true, if_false]
          cases wordsOf (d :: more) with
          | nil =>
              exact Or.inl rfl
          | cons first others =>
              exact Or.inr ⟨first, others, rfl, rfl⟩

theorem isBlank_eq_false_of_mem_wordsOf {cs : List Char} :
    forall word, word ∈ wordsOf cs -> forall c, c ∈ word -> isBlank c = false := by
  induction cs with
  | nil =>
      intro word hword
      cases hword
  | cons c rest ih =>
      cases hc : isBlank c with
      | true =>
          rw [wordsOf_cons_of_blank hc]
          exact ih
      | false =>
          intro word hword d hd
          rcases wordsOf_cons_of_not_blank hc rest with hwords | ⟨first, others, hrest, hwords⟩
          · rw [hwords] at hword
            rcases List.mem_cons.mp hword with hword | hword
            · subst hword
              rw [List.mem_singleton.mp hd]
              exact hc
            · exact ih word hword d hd
          · rw [hrest] at ih
            rw [hwords] at hword
            rcases List.mem_cons.mp hword with hword | hword
            · subst hword
              rcases List.mem_cons.mp hd with hd | hd
              · rw [hd]
                exact hc
              · exact ih first List.mem_cons_self d hd
            · exact ih word (List.mem_cons_of_mem first hword) d hd

theorem wordsOf_eq_nil_iff {cs : List Char} : wordsOf cs = [] <-> cs.all isBlank = true := by
  induction cs with
  | nil =>
      simp [wordsOf]
  | cons c rest ih =>
      cases hc : isBlank c with
      | true =>
          rw [wordsOf_cons_of_blank hc, ih, List.all_cons, hc, Bool.true_and]
      | false =>
          rw [List.all_cons, hc]
          rcases wordsOf_cons_of_not_blank hc rest with hwords | ⟨_, _, _, hwords⟩ <;>
            simp [hwords]

theorem ne_nil_of_mem_wordsOf {cs : List Char} :
    forall word, word ∈ wordsOf cs -> word ≠ [] := by
  induction cs with
  | nil =>
      intro word hword
      cases hword
  | cons c rest ih =>
      cases hc : isBlank c with
      | true =>
          rw [wordsOf_cons_of_blank hc]
          exact ih
      | false =>
          intro word hword
          rcases wordsOf_cons_of_not_blank hc rest with hwords | ⟨first, others, hrest, hwords⟩
          · rw [hwords] at hword
            rcases List.mem_cons.mp hword with hword | hword
            · rw [hword]
              exact List.cons_ne_nil c []
            · exact ih word hword
          · rw [hrest] at ih
            rw [hwords] at hword
            rcases List.mem_cons.mp hword with hword | hword
            · rw [hword]
              exact List.cons_ne_nil c first
            · exact ih word (List.mem_cons_of_mem first hword)

/-!
# Words joined
-/

theorem joinWords_eq_nil_iff {words : List (List Char)}
    (h : forall word, word ∈ words -> word ≠ []) : joinWords words = [] <-> words = [] := by
  cases words with
  | nil =>
      simp [joinWords]
  | cons word words =>
      have hword := h word List.mem_cons_self
      cases words <;> simp [joinWords, hword]

theorem eq_space_or_mem_of_mem_joinWords {words : List (List Char)} {c : Char}
    (hc : c ∈ joinWords words) : c = ' ' ∨ exists word, word ∈ words ∧ c ∈ word := by
  induction words with
  | nil =>
      cases hc
  | cons word words ih =>
      cases words with
      | nil =>
          exact Or.inr ⟨word, List.mem_singleton.mpr rfl, hc⟩
      | cons next more =>
          rw [joinWords, List.mem_append, List.mem_cons] at hc
          rcases hc with hc | hc | hc
          · exact Or.inr ⟨word, List.mem_cons_self, hc⟩
          · exact Or.inl hc
          · rcases ih hc with hspace | ⟨other, hother, hmem⟩
            · exact Or.inl hspace
            · exact Or.inr ⟨other, List.mem_cons_of_mem word hother, hmem⟩

theorem lineFeed_not_mem_squeeze (line : String) : '\n' ∉ (squeeze line).toList := by
  intro h
  rw [squeeze, String.toList_ofList] at h
  rcases eq_space_or_mem_of_mem_joinWords h with hspace | ⟨word, hword, hmem⟩
  · exact absurd hspace (by decide)
  · have hblank := isBlank_eq_false_of_mem_wordsOf word hword '\n' hmem
    exact absurd hblank (by decide)

theorem isEmpty_squeeze (line : String) : (squeeze line).isEmpty = allBlank line := by
  rw [Bool.eq_iff_iff, String.isEmpty_iff, squeeze, allBlank, ← wordsOf_eq_nil_iff,
    ← joinWords_eq_nil_iff ne_nil_of_mem_wordsOf, ← String.toList_eq_nil_iff,
    String.toList_ofList]

end Text
end FindingLedger
