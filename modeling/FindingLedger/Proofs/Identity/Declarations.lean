import FindingLedger.Proofs.Pattern.Room
import FindingLedger.Proofs.Pattern.Search
import FindingLedger.Proofs.Text.BlankWords
import FindingLedger.Proofs.Text.Numerals

/-!
# Lines that declare a name

The search for the beginning of a context takes a line for a declaration if the name stands
in it as a word of its own with a parenthesis after it. A call of the name looks the same.
-/

namespace FindingLedger

namespace Pattern

open Text

/-!
# Matches in lists of characters
-/

section Matches

variable {text : List Char} {i j : Nat}

theorem drop_eq_cons_iff {c : Char} {rest : List Char} :
    text.drop i = c :: rest <-> text[i]? = some c ∧ text.drop (i + 1) = rest := by
  constructor
  · intro h
    have hhead := congrArg List.head? h
    have htail := congrArg List.tail h
    rw [List.head?_drop] at hhead
    rw [List.tail_drop] at htail
    exact ⟨hhead, htail⟩
  · intro h
    rcases List.getElem?_eq_some_iff.mp h.1 with ⟨hi, hc⟩
    rw [List.drop_eq_getElem_cons hi, hc, h.2]

theorem drop_add_of_drop_eq {word rest : List Char} (h : text.drop i = word ++ rest) :
    text.drop (i + word.length) = rest := by
  rw [← List.drop_drop, h, List.drop_left]

theorem matches_one_drop_iff {set : CharSet} :
    Matches text.toArray (.one set) i j <->
      exists c rest, text.drop i = c :: rest ∧ set.has c = true ∧ j = i + 1 := by
  rw [matches_one_iff, List.getElem?_toArray]
  constructor
  · intro h
    rcases h with ⟨c, here, mem, hj⟩
    exact ⟨c, _, drop_eq_cons_iff.mpr ⟨here, rfl⟩, mem, hj⟩
  · intro h
    rcases h with ⟨c, rest, hdrop, mem, hj⟩
    exact ⟨c, (drop_eq_cons_iff.mp hdrop).1, mem, hj⟩

theorem has_single_iff {c d : Char} : (CharSet.single c).has d = true <-> d = c := by
  rw [CharSet.has_single, beq_iff_eq]
  exact Char.toNat_inj

theorem matches_letters_iff {word : List Char} {ps : List Pattern} :
    Matches text.toArray (.seq (word.map (fun c => .one (.single c)) ++ ps)) i j <->
      (exists rest, text.drop i = word ++ rest) ∧
        Matches text.toArray (.seq ps) (i + word.length) j := by
  induction word generalizing i with
  | nil =>
      simp
  | cons c word ih =>
      rw [List.map_cons, List.cons_append, matches_cons_iff]
      constructor
      · intro h
        rcases h with ⟨m, hm, htail⟩
        rcases matches_one_drop_iff.mp hm with ⟨d, rest, hdrop, hd, rfl⟩
        rcases ih.mp htail with ⟨⟨rest', hrest⟩, hps⟩
        rw [(drop_eq_cons_iff.mp hdrop).2] at hrest
        refine ⟨⟨rest', ?_⟩, ?_⟩
        · rw [hdrop, has_single_iff.mp hd, hrest]
          rfl
        · rw [List.length_cons, Nat.add_comm word.length, ← Nat.add_assoc]
          exact hps
      · intro h
        rcases h with ⟨⟨rest, hrest⟩, hps⟩
        rw [List.cons_append] at hrest
        refine ⟨i + 1, matches_one_drop_iff.mpr ⟨c, _, hrest, has_single_iff.mpr rfl, rfl⟩, ?_⟩
        refine ih.mpr ⟨⟨rest, (drop_eq_cons_iff.mp hrest).2⟩, ?_⟩
        rw [List.length_cons, Nat.add_comm word.length, ← Nat.add_assoc] at hps
        exact hps

theorem steps_one_iff_drop {set : CharSet} {k : Nat} :
    Steps (Matches text.toArray (.one set)) k i j <->
      exists gap rest, text.drop i = gap ++ rest ∧ (forall c, c ∈ gap -> set.has c = true) ∧
        gap.length = k ∧ j = i + k := by
  induction k generalizing i with
  | zero =>
      constructor
      · intro h
        exact ⟨[], text.drop i, rfl, fun _ hc => (nomatch hc), rfl, Eq.symm h⟩
      · intro h
        rcases h with ⟨_, _, _, _, _, hj⟩
        exact hj.symm
  | succ k ih =>
      constructor
      · intro h
        rcases h with ⟨m, hm, hsteps⟩
        rcases matches_one_drop_iff.mp hm with ⟨c, after, hdrop, hc, rfl⟩
        rcases ih.mp hsteps with ⟨gap, rest, hrest, hgap, hlength, hj⟩
        rw [(drop_eq_cons_iff.mp hdrop).2] at hrest
        refine ⟨c :: gap, rest, ?_, ?_, congrArg (· + 1) hlength, by omega⟩
        · rw [hdrop, hrest]
          rfl
        · exact List.forall_mem_cons.mpr ⟨hc, hgap⟩
      · intro h
        rcases h with ⟨gap, rest, hdrop, hgap, hlength, hj⟩
        cases gap with
        | nil =>
            cases hlength
        | cons c gap =>
            rw [List.cons_append] at hdrop
            rw [List.forall_mem_cons] at hgap
            refine ⟨i + 1, matches_one_drop_iff.mpr ⟨c, _, hdrop, hgap.1, rfl⟩, ih.mpr ?_⟩
            exact ⟨gap, rest, (drop_eq_cons_iff.mp hdrop).2, hgap.2,
              Nat.succ.inj hlength, by omega⟩

theorem matches_blanks_iff :
    Matches text.toArray (.repeated (.one .blank) 0 none) i j <->
      exists gap rest, text.drop i = gap ++ rest ∧
        (forall c, c ∈ gap -> isBlank c = true) ∧ j = i + gap.length := by
  simp only [matches_repeated_iff, steps_one_iff_drop, CharSet.has_blank]
  constructor
  · intro h
    rcases h with ⟨k, _, _, gap, rest, hdrop, hgap, rfl, hj⟩
    exact ⟨gap, rest, hdrop, hgap, hj⟩
  · intro h
    rcases h with ⟨gap, rest, hdrop, hgap, hj⟩
    exact ⟨gap.length, Nat.zero_le _, fun _ hm => (nomatch hm), gap, rest, hdrop, hgap, rfl, hj⟩

theorem before?_eq (hi : i ≤ text.length) :
    Anchor.before? text.toArray i = (text.take i).getLast? := by
  unfold Anchor.before?
  split
  · rename_i hzero
    rw [hzero]
    rfl
  · rw [List.getElem?_toArray, List.getLast?_eq_getElem?, List.length_take_of_le hi,
      List.getElem?_take_of_lt (by omega)]

end Matches

end Pattern

namespace Identity

open Pattern

/-- Whether a text is an identifier with nothing around it: characters that make up words, and
no blanks among them. -/
structure Identifier (name : List Char) : Prop where
  ne_nil : name ≠ []
  isWord : forall c, c ∈ name -> Text.isWord c = true
  not_blank : forall c, c ∈ name -> Text.isBlank c = false

theorem identifier_of_isAsciiWord {name : List Char} (hname : name ≠ [])
    (h : forall c, c ∈ name -> Text.isAsciiWord c = true) : Identifier name where
  ne_nil := hname
  isWord := by
    intro c hc
    rw [Text.isWord_of_lt (Text.toNat_of_isAsciiWord (h c hc)).2]
    exact h c hc
  not_blank := by
    intro c hc
    have hbounds := Text.toNat_of_isAsciiWord (h c hc)
    simp [Text.isBlank]
    omega

def EdgeBetween (before after : Option Char) : Prop :=
  Anchor.wordSide false before ≠ Anchor.wordSide false after

/-- Whether a name stands in a line where a word begins or ends, with a parenthesis after
it. -/
def StandsIn (name line : List Char) : Prop :=
  exists left gap right, line = left ++ name ++ gap ++ '(' :: right ∧
    EdgeBetween left.getLast? name.head? ∧ forall c, c ∈ gap -> Text.isBlank c = true

/-- Whether a name stands in a line as a word of its own, with a parenthesis after it. -/
def Declares (name line : List Char) : Prop :=
  exists left gap right, line = left ++ name ++ gap ++ '(' :: right ∧
    (forall c, left.getLast? = some c -> Text.isWord c = false) ∧
    forall c, c ∈ gap -> Text.isBlank c = true

/-!
# The pattern of a declaration
-/

theorem boundary_holds_iff {line name rest : List Char} {i : Nat} (hname : name ≠ [])
    (hi : i ≤ line.length) (hdrop : line.drop i = name ++ rest) :
    (Anchor.wordEdge .boundary false).holds line.toArray i = true <->
      EdgeBetween (line.take i).getLast? name.head? := by
  have hnext : line.toArray[i]? = name.head? := by
    rw [List.getElem?_toArray, ← List.head?_drop, hdrop, List.head?_append_of_ne_nil _ hname]
  rw [Anchor.holds, hnext, before?_eq hi, WordEdge.holds, bne_iff_ne]
  exact Iff.rfl

/-- The pattern of a declaration is found where the name stands at the edge of a word. -/
theorem occursIn_declarationOf_iff_standsIn {name line : List Char} (hname : name ≠ []) :
    (declarationOf name).occursIn line = true <-> StandsIn name line := by
  rw [occursIn_iff_exists_matches, declarationOf]
  simp only [List.cons_append, matches_cons_iff, matches_anchor_iff, matches_letters_iff,
    matches_blanks_iff, matches_one_drop_iff, matches_nil_iff, has_single_iff]
  constructor
  · rintro ⟨i, _, hi, _, ⟨hedge, rfl⟩, ⟨rest, hdrop⟩, _, ⟨gap, more, hgap, hblank, rfl⟩,
      _, ⟨_, right, hopen, rfl, _⟩, _⟩
    have hmore := drop_add_of_drop_eq hgap
    rw [hopen] at hmore
    have hrest := drop_add_of_drop_eq hdrop
    rw [hgap, ← hmore] at hrest
    refine ⟨line.take i, gap, right, ?_, (boundary_holds_iff hname hi hdrop).mp hedge, hblank⟩
    rw [List.append_assoc, List.append_assoc, hrest, ← hdrop, List.take_append_drop]
  · rintro ⟨left, gap, right, hline, hleft, hgap⟩
    have hdrop : line.drop left.length = name ++ (gap ++ '(' :: right) := by
      rw [hline, List.append_assoc, List.append_assoc, List.drop_left]
    have hrest := drop_add_of_drop_eq hdrop
    have hopen := drop_add_of_drop_eq hrest
    have hlength : left.length ≤ line.length := by
      rw [hline, List.append_assoc, List.append_assoc, List.length_append]
      exact Nat.le_add_right _ _
    have htake : line.take left.length = left := by
      rw [hline, List.append_assoc, List.append_assoc, List.take_left]
    refine ⟨left.length, _, hlength, left.length, ⟨?_, rfl⟩, ⟨_, hdrop⟩, _,
      ⟨gap, _, hrest, hgap, rfl⟩, _, ⟨'(', right, hopen, rfl, rfl⟩, rfl⟩
    rw [boundary_holds_iff hname hlength hdrop, htake]
    exact hleft

theorem bareName_ne_nil_of_declaration? {context : String} {pattern : Pattern}
    (h : declaration? context = some pattern) :
    bareName context ≠ [] ∧ pattern = declarationOf (bareName context) := by
  unfold declaration? at h
  split at h
  · cases h
  · rename_i hname
    split at h
    · exact ⟨hname, (Option.some.inj h).symm⟩
    · cases h

/-!
# Names
-/

theorem afterColons?_eq_none {cs : List Char} (h : forall c, c ∈ cs -> c ≠ ':') :
    afterColons? cs = none := by
  induction cs with
  | nil =>
      rfl
  | cons c cs ih =>
      rw [List.forall_mem_cons] at h
      rw [afterColons?, ih h.2]
      intro _ hc _
      exact absurd hc h.1

theorem Declares.subset {name line : List Char} (h : Declares name line) : name ⊆ line := by
  rcases h with ⟨left, gap, right, hline, _, _⟩
  intro c hc
  rw [hline, List.append_assoc, List.append_assoc]
  exact List.mem_append_right _ (List.mem_append_left _ hc)

theorem declaration?_eq_of_bareName {context : String} {name : List Char} (hname : name ≠ [])
    (hbare : bareName context = name) :
    declaration? context =
      if (declarationOf name).fits then some (declarationOf name) else none := by
  unfold declaration?
  rw [hbare]
  cases name with
  | nil =>
      exact absurd rfl hname
  | cons c name =>
      rfl

section Names

variable {name : List Char} (h : Identifier name)

include h

theorem Identifier.trimChars_eq : Text.trimChars name = name :=
  Text.trimChars_eq_self h.not_blank

theorem bareName_of_identifier : bareName (String.ofList name) = name := by
  have hcolon : forall c, c ∈ name.takeWhile (fun c => c != '\n') -> c ≠ ':' := by
    intro c hc heq
    have hword := h.isWord c (List.takeWhile_subset _ hc)
    rw [heq] at hword
    cases hword
  rw [bareName, String.toList_ofList, h.trimChars_eq, afterColons?_eq_none hcolon]

theorem declaration?_of_identifier (hsize : (name.map Char.utf8Size).sum ≤ 300000) :
    declaration? (String.ofList name) = some (declarationOf name) := by
  rw [declaration?_eq_of_bareName h.ne_nil (bareName_of_identifier h),
    if_pos (fits_declarationOf h.ne_nil hsize)]

theorem Identifier.edgeBetween_iff {before : Option Char} :
    EdgeBetween before name.head? <-> forall c, before = some c -> Text.isWord c = false := by
  rcases List.exists_cons_of_ne_nil h.ne_nil with ⟨c, cs, hname⟩
  have hfirst : Text.isWord c = true := h.isWord c (by rw [hname]; exact List.mem_cons_self)
  rw [EdgeBetween, hname, List.head?_cons]
  cases before with
  | none =>
      simp [Anchor.wordSide, hfirst]
  | some d =>
      simp [Anchor.wordSide, hfirst]

theorem occursIn_declarationOf_iff {line : List Char} :
    (declarationOf name).occursIn line = true <-> Declares name line := by
  rw [occursIn_declarationOf_iff_standsIn h.ne_nil]
  unfold StandsIn Declares
  simp only [h.edgeBetween_iff]

end Names
end Identity
end FindingLedger
