import FindingLedger.Identity.Context

/-!
# Where contexts begin

The search for the beginning of a context finds the nearest line that declares the context,
no further up than the scan goes, and the first brace from there on. Both searches are
described by the line they find and by the lines they pass over.
-/

namespace FindingLedger
namespace Identity

/-!
# Nearest lines
-/

theorem nearestAbove?_eq_some_iff {p : Nat -> Bool} {line count n : Nat}
    (hcount : count ≤ line + 1) :
    nearestAbove? p line count = some n <->
      n ≤ line ∧ line < n + count ∧ p n = true ∧
        forall m, n < m -> m ≤ line -> p m = false := by
  induction count generalizing line with
  | zero =>
      simp only [nearestAbove?, reduceCtorEq, false_iff]
      omega
  | succ count ih =>
      rw [nearestAbove?]
      cases hp : p line with
      | true =>
          simp only [if_true, Option.some.injEq]
          constructor
          · intro h
            subst h
            exact ⟨Nat.le_refl line, by omega, hp, by omega⟩
          · intro h
            rcases h with ⟨hle, _, _, hpassed⟩
            by_cases heq : line = n
            · exact heq
            · have hfalse := hpassed line (by omega) (Nat.le_refl line)
              rw [hp] at hfalse
              cases hfalse
      | false =>
          simp only [Bool.false_eq_true, if_false]
          cases line with
          | zero =>
              -- No line is left above, so the search ends here.
              have hzero : count = 0 := by omega
              subst hzero
              simp only [nearestAbove?, reduceCtorEq, false_iff]
              intro h
              rcases h with ⟨hle, _, hn, _⟩
              rw [Nat.le_zero.mp hle, hp] at hn
              cases hn
          | succ line =>
              rw [Nat.add_sub_cancel, ih (by omega)]
              constructor
              · intro h
                rcases h with ⟨hle, hlt, hn, hpassed⟩
                refine ⟨by omega, by omega, hn, ?_⟩
                intro m hnm hm
                rcases Nat.lt_or_eq_of_le hm with hm | hm
                · exact hpassed m hnm (by omega)
                · rw [hm]
                  exact hp
              · intro h
                rcases h with ⟨hle, hlt, hn, hpassed⟩
                have hne : n ≠ line + 1 := by
                  intro heq
                  rw [heq, hp] at hn
                  cases hn
                exact ⟨by omega, by omega, hn, fun m hnm hm => hpassed m hnm (by omega)⟩

theorem nearestBelow?_eq_some_iff {p : Nat -> Bool} {line count n : Nat} :
    nearestBelow? p line count = some n <->
      line ≤ n ∧ n < line + count ∧ p n = true ∧
        forall m, line ≤ m -> m < n -> p m = false := by
  induction count generalizing line with
  | zero =>
      simp only [nearestBelow?, reduceCtorEq, false_iff]
      omega
  | succ count ih =>
      rw [nearestBelow?]
      cases hp : p line with
      | true =>
          simp only [if_true, Option.some.injEq]
          constructor
          · intro h
            subst h
            exact ⟨Nat.le_refl line, by omega, hp, by omega⟩
          · intro h
            rcases h with ⟨hle, _, _, hpassed⟩
            by_cases heq : line = n
            · exact heq
            · have hfalse := hpassed line (Nat.le_refl line) (by omega)
              rw [hp] at hfalse
              cases hfalse
      | false =>
          simp only [Bool.false_eq_true, if_false]
          rw [ih]
          constructor
          · intro h
            rcases h with ⟨hle, hlt, hn, hpassed⟩
            refine ⟨by omega, by omega, hn, ?_⟩
            intro m hm hmn
            rcases Nat.lt_or_eq_of_le hm with hm | hm
            · exact hpassed m hm hmn
            · rw [← hm]
              exact hp
          · intro h
            rcases h with ⟨hle, hlt, hn, hpassed⟩
            have hne : n ≠ line := by
              intro heq
              rw [heq, hp] at hn
              cases hn
            exact ⟨by omega, by omega, hn, fun m hm hmn => hpassed m (by omega) hmn⟩

theorem nearestBelow?_eq_none_iff {p : Nat -> Bool} {line count : Nat} :
    nearestBelow? p line count = none <->
      forall m, line ≤ m -> m < line + count -> p m = false := by
  induction count generalizing line with
  | zero =>
      simp only [nearestBelow?, true_iff]
      omega
  | succ count ih =>
      rw [nearestBelow?]
      cases hp : p line with
      | true =>
          simp only [if_true, reduceCtorEq, false_iff]
          intro h
          have hfalse := h line (Nat.le_refl line) (by omega)
          rw [hp] at hfalse
          cases hfalse
      | false =>
          simp only [Bool.false_eq_true, if_false]
          rw [ih]
          constructor
          · intro h m hm hlt
            rcases Nat.lt_or_eq_of_le hm with hm | hm
            · exact h m hm (by omega)
            · rw [← hm]
              exact hp
          · intro h m hm hlt
            exact h m (by omega) (by omega)

/-!
# Beginnings
-/

def holdsBrace (sources : Sources) (path : String) (line : Nat) : Bool :=
  lineMeets sources path (fun text => text.contains '\x7b') line

def lowestLine (settings : Settings) (line : Nat) : Nat :=
  max 1 (line - min settings.maxContextScan maxLine)

/-- The nearest line from some line upwards that meets a condition, no further up than some
other line. -/
structure NearestAbove (p : Nat -> Bool) (lowest line n : Nat) : Prop where
  lowest_le : lowest ≤ n
  le_line : n ≤ line
  meets : p n = true
  passed : forall m, n < m -> m ≤ line -> p m = false

theorem nearestAbove?_eq_some_iff_nearestAbove {p : Nat -> Bool} {lowest line n : Nat} :
    nearestAbove? p line (line + 1 - lowest) = some n <-> NearestAbove p lowest line n := by
  rw [nearestAbove?_eq_some_iff (Nat.sub_le _ _)]
  constructor
  · intro h
    rcases h with ⟨hle, hlt, hmeets, hpassed⟩
    have hlowest : lowest ≤ n := by omega
    exact ⟨hlowest, hle, hmeets, hpassed⟩
  · intro h
    rcases h with ⟨hlowest, hle, hmeets, hpassed⟩
    exact ⟨hle, by omega, hmeets, hpassed⟩

/-- The line with which a body opens that belongs to a declaration: the first that holds a
brace, or the declaration itself if none does. -/
inductive Opens (brace : Nat -> Bool) (declared line : Nat) : Nat -> Prop where
  | brace {start : Nat} (declared_le : declared ≤ start) (le_line : start ≤ line)
      (holds : brace start = true)
      (passed : forall m, declared ≤ m -> m < start -> brace m = false) :
      Opens brace declared line start
  | noBrace (passed : forall m, declared ≤ m -> m ≤ line -> brace m = false) :
      Opens brace declared line declared

theorem opens_getD_nearestBelow? (brace : Nat -> Bool) {declared line : Nat}
    (hdeclared : declared ≤ line) :
    Opens brace declared line
      ((nearestBelow? brace declared (line + 1 - declared)).getD declared) := by
  cases h : nearestBelow? brace declared (line + 1 - declared) with
  | none =>
      rw [nearestBelow?_eq_none_iff] at h
      exact Opens.noBrace fun m hm hle => h m hm (by omega)
  | some start =>
      rw [nearestBelow?_eq_some_iff] at h
      rcases h with ⟨hle, hlt, hbrace, hpassed⟩
      have hline : start ≤ line := by omega
      exact Opens.brace hle hline hbrace hpassed

theorem Opens.declared_le {brace : Nat -> Bool} {declared line start : Nat}
    (h : Opens brace declared line start) : declared ≤ start := by
  cases h with
  | brace hle =>
      exact hle
  | noBrace =>
      exact Nat.le_refl declared

theorem Opens.unique {brace : Nat -> Bool} {declared line s t : Nat}
    (hs : Opens brace declared line s) (ht : Opens brace declared line t) : s = t := by
  cases hs with
  | brace hs hsline hsbrace hspassed =>
      cases ht with
      | brace ht htline htbrace htpassed =>
          rcases Nat.lt_trichotomy s t with hlt | heq | hlt
          · rw [htpassed s hs hlt] at hsbrace
            cases hsbrace
          · exact heq
          · rw [hspassed t ht hlt] at htbrace
            cases htbrace
      | noBrace htpassed =>
          rw [htpassed s hs hsline] at hsbrace
          cases hsbrace
  | noBrace hspassed =>
      cases ht with
      | brace ht htline htbrace htpassed =>
          rw [hspassed t ht htline] at htbrace
          cases htbrace
      | noBrace =>
          rfl

theorem contextStart?_of_pattern {sources : Sources} {settings : Settings}
    {context path : String} {line : Nat} {pattern : Pattern}
    (h : declaration? context = some pattern) :
    contextStart? sources settings context path line =
      (nearestAbove? (lineMeets sources path pattern.occursIn) line
        (line + 1 - lowestLine settings line)).map fun declared =>
          (nearestBelow? (holdsBrace sources path) declared (line + 1 - declared)).getD
            declared := by
  simp only [contextStart?, h, lowestLine]
  cases nearestAbove? (lineMeets sources path pattern.occursIn) line
      (line + 1 - max 1 (line - min settings.maxContextScan maxLine)) with
  | none =>
      rfl
  | some declared =>
      rfl

theorem contextStart?_eq_some_iff {sources : Sources} {settings : Settings}
    {context path : String} {line start : Nat} :
    contextStart? sources settings context path line = some start <->
      exists pattern declared, declaration? context = some pattern ∧
        NearestAbove (lineMeets sources path pattern.occursIn) (lowestLine settings line) line
          declared ∧
        Opens (holdsBrace sources path) declared line start := by
  cases hpattern : declaration? context with
  | none =>
      simp [contextStart?, hpattern]
  | some pattern =>
      rw [contextStart?_of_pattern hpattern, Option.map_eq_some_iff]
      constructor
      · rintro ⟨declared, hdeclared, rfl⟩
        have hnear := nearestAbove?_eq_some_iff_nearestAbove.mp hdeclared
        exact ⟨pattern, declared, rfl, hnear, opens_getD_nearestBelow? _ hnear.le_line⟩
      · rintro ⟨_, declared, hsame, hnear, hopens⟩
        cases hsame
        exact ⟨declared, nearestAbove?_eq_some_iff_nearestAbove.mpr hnear,
          Opens.unique (opens_getD_nearestBelow? _ hnear.le_line) hopens⟩

end Identity
end FindingLedger
