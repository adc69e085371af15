import FindingLedger.Text.Blank
import FindingLedger.Text.Decimal

/-!
# Numerals between blanks

Blanks on either side of a text leave no trace once it is trimmed, and a whole number that
fits into 64 bits is read back from its decimal numeral.
-/

namespace FindingLedger
namespace Text

/-!
# Trimming
-/

def Blanks (cs : List Char) : Prop :=
  forall c, c ∈ cs -> isBlank c = true

theorem Blanks.append {cs ds : List Char} (h : Blanks cs) (h' : Blanks ds) :
    Blanks (cs ++ ds) := by
  intro c hc
  rcases List.mem_append.mp hc with hc | hc
  · exact h c hc
  · exact h' c hc

theorem dropBlankEnd_append_blanks {after : List Char} (h : Blanks after) (cs : List Char) :
    dropBlankEnd (cs ++ after) = dropBlankEnd cs := by
  have hreverse : forall c, c ∈ after.reverse -> isBlank c = true := by
    intro c hc
    exact h c (List.mem_reverse.mp hc)
  unfold dropBlankEnd
  rw [List.reverse_append, List.dropWhile_append_of_pos hreverse]

theorem trimChars_between_blanks {before after : List Char} (hbefore : Blanks before)
    (hafter : Blanks after) (cs : List Char) :
    trimChars (before ++ cs ++ after) = trimChars cs := by
  unfold trimChars
  rw [List.append_assoc, List.dropWhile_append_of_pos hbefore, List.dropWhile_append]
  split
  · rename_i hblank
    have hnil : cs.dropWhile isBlank = [] := List.isEmpty_iff.mp hblank
    have hafter' : after.dropWhile isBlank = [] := by
      rw [← List.append_nil after, List.dropWhile_append_of_pos hafter]
      rfl
    rw [hnil, hafter']
  · exact dropBlankEnd_append_blanks hafter _

theorem trimChars_eq_self {cs : List Char} (h : forall c, c ∈ cs -> isBlank c = false) :
    trimChars cs = cs := by
  have hfront : forall ds : List Char, (forall c, c ∈ ds -> isBlank c = false) ->
      ds.dropWhile isBlank = ds := by
    intro ds hds
    cases ds with
    | nil =>
        rfl
    | cons d ds =>
        exact List.dropWhile_cons_of_neg (by simp [hds d List.mem_cons_self])
  have hback : forall c, c ∈ cs.reverse -> isBlank c = false := by
    intro c hc
    exact h c (List.mem_reverse.mp hc)
  unfold trimChars dropBlankEnd
  rw [hfront cs h, hfront cs.reverse hback, List.reverse_reverse]

/-!
# Numerals
-/

theorem digit?_of_isDigit {c : Char} (h : c.isDigit = true) :
    digit? c = some (c.toNat - '0'.toNat) := by
  have hrange : 48 ≤ c.toNat ∧ c.toNat ≤ 57 := by
    simpa [Char.isDigit, UInt32.le_iff_toNat_le] using h
  unfold digit?
  rw [if_pos (by simpa using hrange)]
  rfl

theorem readDigits?_of_isDigit {cs : List Char} (h : forall c, c ∈ cs -> c.isDigit = true)
    (n : Nat) : readDigits? n cs = some (Nat.ofDigitChars 10 cs n) := by
  induction cs generalizing n with
  | nil =>
      rfl
  | cons c cs ih =>
      rw [readDigits?, digit?_of_isDigit (h c List.mem_cons_self), Nat.ofDigitChars_cons]
      exact ih (fun d hd => h d (List.mem_cons_of_mem c hd)) _

theorem isDigit_of_mem_numeral {n : Nat} {c : Char} (hc : c ∈ Nat.toDigits 10 n) :
    c.isDigit = true :=
  Nat.isDigit_of_mem_toDigits (by decide) (by decide) hc

theorem readNat?_toDigits (n : Nat) : readNat? (Nat.toDigits 10 n) = some n := by
  have hread := readDigits?_of_isDigit (fun c hc => isDigit_of_mem_numeral (n := n) hc) 0
  rw [Nat.ofDigitChars_ten_toDigits] at hread
  cases hcs : Nat.toDigits 10 n with
  | nil =>
      exact absurd hcs Nat.toDigits_ne_nil
  | cons c cs =>
      rw [hcs] at hread
      exact hread

theorem readSigned?_toDigits (n : Nat) : readSigned? (Nat.toDigits 10 n) = some (n : Int) := by
  have hread := readNat?_toDigits n
  cases hcs : Nat.toDigits 10 n with
  | nil =>
      exact absurd hcs Nat.toDigits_ne_nil
  | cons c cs =>
      have hdigit : c.isDigit = true := by
        refine isDigit_of_mem_numeral (n := n) ?_
        rw [hcs]
        exact List.mem_cons_self
      rw [hcs] at hread
      unfold readSigned?
      split
      · rename_i heq
        cases heq
        exact absurd hdigit (by decide)
      · unfold readUnsigned?
        split
        · rename_i heq
          cases heq
          exact absurd hdigit (by decide)
        · rw [hread]
          rfl

theorem readSigned?_toString (n : Int) : readSigned? (toString n).toList = some n := by
  rw [Int.toString_eq_repr, Int.repr_eq_if]
  split
  · rename_i hn
    rw [Nat.toList_repr, readSigned?_toDigits, Int.toNat_of_nonneg hn]
  · rename_i hn
    have hsign : "-".toList = ['-'] := by decide
    rw [String.toList_append, Nat.toList_repr, hsign, List.singleton_append, readSigned?,
      readNat?_toDigits]
    show some (-((-n).toNat : Int)) = some n
    rw [Int.toNat_of_nonneg (by omega), Int.neg_neg]

theorem readInt64?_toString {n : Int} (h : fitsInt64 n = true) :
    readInt64? (toString n).toList = some n := by
  rw [readInt64?, readSigned?_toString, Option.filter_some, if_pos h]

theorem isBlank_of_mem_toDigits {n : Nat} {c : Char} (hc : c ∈ Nat.toDigits 10 n) :
    isBlank c = false := by
  have hdigit := isDigit_of_mem_numeral hc
  have hrange : 48 ≤ c.toNat ∧ c.toNat ≤ 57 := by
    simpa [Char.isDigit, UInt32.le_iff_toNat_le] using hdigit
  unfold isBlank
  simp
  omega

theorem isBlank_of_mem_toString {n : Int} {c : Char} (hc : c ∈ (toString n).toList) :
    isBlank c = false := by
  rw [Int.toString_eq_repr, Int.repr_eq_if] at hc
  split at hc
  · rw [Nat.toList_repr] at hc
    exact isBlank_of_mem_toDigits hc
  · rw [String.toList_append, Nat.toList_repr, List.mem_append] at hc
    rcases hc with hc | hc
    · rw [List.mem_singleton.mp hc]
      rfl
    · exact isBlank_of_mem_toDigits hc

theorem readInt64?_trimChars_toString {n : Int} (h : fitsInt64 n = true)
    {before after : List Char} (hbefore : Blanks before) (hafter : Blanks after) :
    readInt64? (trimChars (before ++ (toString n).toList ++ after)) = some n := by
  rw [trimChars_between_blanks hbefore hafter,
    trimChars_eq_self fun c hc => isBlank_of_mem_toString hc, readInt64?_toString h]

end Text
end FindingLedger
