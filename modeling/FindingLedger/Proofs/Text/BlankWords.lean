import FindingLedger.Text.Word

/-!
# Blanks belong to no word

No character with the White_Space property is among those that make up words. Beyond the ASCII
range this is read off the tables of characters.
-/

namespace FindingLedger
namespace Text

def wideBlanks : List Span :=
  [⟨0x85, 0x85⟩, ⟨0xA0, 0xA0⟩, ⟨0x1680, 0x1680⟩, ⟨0x2000, 0x200A⟩, ⟨0x2028, 0x2029⟩,
    ⟨0x202F, 0x202F⟩, ⟨0x205F, 0x205F⟩, ⟨0x3000, 0x3000⟩]

theorem anyContains_wideBlanks_of_isBlank {c : Char} (h : isBlank c = true)
    (hc : 128 ≤ c.toNat) : Span.anyContains wideBlanks c.toNat = true := by
  simp only [isBlank, Bool.or_eq_true, Bool.and_eq_true, decide_eq_true_eq, beq_iff_eq] at h
  simp only [Span.anyContains, wideBlanks, Span.contains, List.any_cons, List.any_nil,
    Bool.or_eq_true, Bool.and_eq_true, decide_eq_true_eq]
  omega

/-!
# Tables without blanks
-/

namespace Span

def spareBlanks (spans : List Span) : Bool :=
  spans.all fun s => wideBlanks.all fun b => s.last < b.first || b.last < s.first

theorem anyContains_of_spareBlanks {spans : List Span} (h : spareBlanks spans = true) {n : Nat}
    (hn : anyContains wideBlanks n = true) : anyContains spans n = false := by
  rcases List.any_eq_true.mp hn with ⟨b, hb, hmem⟩
  apply List.any_eq_false.mpr
  intro s hs
  have hapart := List.all_eq_true.mp (List.all_eq_true.mp h s hs) b hb
  simp only [contains, Bool.or_eq_true, Bool.and_eq_true, decide_eq_true_eq] at hapart hmem ⊢
  omega

theorem spareBlanks_ofText {table : String} {cs : List Char} (htable : String.ofList cs = table)
    (h : spareBlanks ((wordsOf cs).map ofWord) = true) : spareBlanks (ofText table) = true := by
  rw [← htable, ofText, String.toList_ofList]
  exact h

end Span

def wordCategories : List Category :=
  [.uppercaseLetter, .lowercaseLetter, .titlecaseLetter, .modifierLetter, .otherLetter,
    .nonspacingMark, .spacingMark, .letterNumber, .enclosingMark, .decimalNumber,
    .connectorPunctuation]

set_option maxRecDepth 100000 in
theorem spareBlanks_of_mem_table :
    forall row, row ∈ Category.table -> row.1 ∈ wordCategories ->
      Span.spareBlanks row.2 = true := by
  unfold Category.table
  simp only [List.forall_mem_cons]
  -- A row does not count for words, or its runs are compared with the blanks.
  repeat' apply And.intro
  all_goals first
    | exact fun hword => absurd hword (by decide)
    | exact fun _ => Span.spareBlanks_ofText rfl (by decide +kernel)
    | exact fun row hrow => absurd hrow List.not_mem_nil

set_option maxRecDepth 100000 in
theorem alphabetic_spares_blanks :
    (forall category, category ∈ Property.alphabetic.categories ->
      category ∈ wordCategories) ∧
    Span.spareBlanks Property.alphabetic.exceptions = true := by
  simp only [Property.alphabetic]
  constructor
  · decide
  · exact Span.spareBlanks_ofText rfl (by decide +kernel)

/-!
# Words
-/

theorem exists_row_of_ofCodePoint (n : Nat) :
    Category.ofCodePoint n = .unassigned ∨
      exists row, row ∈ Category.table ∧ Span.anyContains row.2 n = true ∧
        Category.ofCodePoint n = row.1 := by
  -- The table is put out of sight first, since it is too long to be evaluated.
  generalize hcategory : Category.ofCodePoint = category
  delta Category.ofCodePoint at hcategory
  generalize Category.table = table at hcategory ⊢
  subst hcategory
  dsimp only
  cases hfind : table.find? fun row => Span.anyContains row.2 n with
  | none =>
      exact Or.inl rfl
  | some row =>
      right
      have hholds := List.find?_some hfind
      exact ⟨row, List.mem_of_find?_eq_some hfind, hholds, rfl⟩

theorem ofCodePoint_not_mem_wordCategories {n : Nat}
    (hn : Span.anyContains wideBlanks n = true) :
    Category.ofCodePoint n ∉ wordCategories := by
  intro hword
  rcases exists_row_of_ofCodePoint n with hnone | ⟨row, hrow, hholds, hcategory⟩
  · rw [hnone] at hword
    exact absurd hword (by decide)
  · rw [hcategory] at hword
    have hspare := spareBlanks_of_mem_table row hrow hword
    rw [Span.anyContains_of_spareBlanks hspare hn] at hholds
    cases hholds

theorem toNat_of_isAsciiWord {c : Char} (h : isAsciiWord c = true) :
    32 < c.toNat ∧ c.toNat < 128 := by
  rw [isAsciiWord, isAsciiLetter, isAsciiDigit] at h
  simp only [Bool.or_eq_true, Bool.and_eq_true, decide_eq_true_eq, beq_iff_eq] at h
  rcases h with (_ | _) | h
  · omega
  · omega
  · rw [h]
    decide

theorem isWord_of_lt {c : Char} (h : c.toNat < 128) : isWord c = isAsciiWord c :=
  if_pos h

theorem isWord_of_isBlank {c : Char} (h : isBlank c = true) : isWord c = false := by
  rcases Nat.lt_or_ge c.toNat 128 with hascii | hwide
  · rw [isWord_of_lt hascii, Bool.eq_false_iff]
    intro hword
    have hbounds := toNat_of_isAsciiWord hword
    simp only [isBlank, Bool.or_eq_true, Bool.and_eq_true, decide_eq_true_eq, beq_iff_eq] at h
    omega
  · have hblank := anyContains_wideBlanks_of_isBlank h hwide
    have hcategory : Category.of c ∉ wordCategories :=
      ofCodePoint_not_mem_wordCategories hblank
    rcases alphabetic_spares_blanks with ⟨hcategories, hexceptions⟩
    have halphabetic : Property.alphabetic.holds c = false := by
      rw [Property.holds, Span.anyContains_of_spareBlanks hexceptions hblank, Bool.bne_false,
        Bool.eq_false_iff]
      intro hmem
      exact hcategory (hcategories _ (List.contains_iff_mem.mp hmem))
    simp only [wordCategories, List.mem_cons, List.not_mem_nil, or_false, not_or] at hcategory
    simp only [isBlank, Bool.or_eq_true, Bool.and_eq_true, decide_eq_true_eq, beq_iff_eq] at h
    rw [isWord, if_neg (Nat.not_lt.mpr hwide), halphabetic, Bool.false_or, Bool.eq_false_iff]
    intro hword
    simp only [Bool.or_eq_true, List.contains_iff_mem, List.mem_cons, List.not_mem_nil,
      or_false, hcategory, false_or, beq_iff_eq] at hword
    omega

end Text
end FindingLedger
