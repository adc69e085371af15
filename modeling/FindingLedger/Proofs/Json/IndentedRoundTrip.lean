import FindingLedger.Proofs.Json.RoundTrip
import FindingLedger.Proofs.Text.Numerals
import Mathlib.Data.List.Basic

/-!
# Indented JSON is read back

A value that is written with one item to a line is read back as well, whatever its level. Its
numbers are whole numbers here. A number has no closing mark of its own, so that it matters what
stands behind a value: nothing, the comma before the next item, or the line break before the
closing bracket.
-/

namespace FindingLedger
namespace Json

/-!
# Line breaks
-/

theorem dropSpace_newLine (level : Nat) (cs : List Char) :
    dropSpace (newLine level ++ cs) = dropSpace cs := by
  have hgap : forall c, c ∈ newLine level -> isSpace c = true := by
    intro c hc
    rcases List.mem_cons.mp hc with rfl | hc
    · rfl
    · rw [List.eq_of_mem_replicate hc]
      rfl
  exact List.dropWhile_append_of_pos hgap

theorem length_lt_of_newLine_append {level rounds : Nat} {cs : List Char}
    (h : (newLine level ++ cs).length < rounds + 1) : cs.length < rounds := by
  rw [List.length_append, newLine, List.length_cons] at h
  omega

theorem readValue_eq_of_dropSpace_eq {cs ds : List Char} (h : dropSpace cs = dropSpace ds)
    (rounds : Nat) : readValue rounds cs = readValue rounds ds := by
  cases rounds with
  | zero =>
      rfl
  | succ rounds =>
      simp only [readValue, h]

/-!
# Numbers
-/

inductive Follows : List Char -> Prop where
  | nothing : Follows []
  | comma (rest : List Char) : Follows (',' :: rest)
  | line (rest : List Char) : Follows ('\n' :: rest)

theorem follows_newLine (level : Nat) (rest : List Char) : Follows (newLine level ++ rest) :=
  .line _

theorem isAsciiDigit_of_mem_toDigits {n : Nat} {c : Char} (hc : c ∈ Nat.toDigits 10 n) :
    Text.isAsciiDigit c = true := by
  have hdigit : c.isDigit = true := Text.isDigit_of_mem_numeral hc
  simpa [Char.isDigit, UInt32.le_iff_toNat_le, Text.isAsciiDigit] using hdigit

theorem head?_toDigits_ne {n : Nat} (h : n ≠ 0) : (Nat.toDigits 10 n).head? ≠ some '0' := by
  induction n using Nat.strongRecOn with
  | ind n ih =>
      by_cases hone : n < 10
      · rw [Nat.toDigits_of_lt_base hone, List.head?_cons, ne_eq, Option.some.injEq,
          Nat.digitChar_eq_zero]
        exact h
      · have htens : n / 10 ≠ 0 := by
          omega
        have hsplit : Nat.toDigits 10 n = Nat.toDigits 10 (n / 10) ++ [Nat.digitChar (n % 10)] :=
          Nat.toDigits_of_base_le (by decide) (Nat.le_of_not_lt hone)
        rw [hsplit, List.head?_append_of_ne_nil _ Nat.toDigits_ne_nil]
        exact ih (n / 10) (Nat.div_lt_self (Nat.pos_of_ne_zero h) (by decide)) htens

theorem readDigits_toDigits (n : Nat) {rest : List Char} (h : Follows rest) :
    readDigits (Nat.toDigits 10 n ++ rest) = some (Nat.toDigits 10 n, rest) := by
  have hrest : rest.takeWhile Text.isAsciiDigit = [] := by
    cases h with
    | nothing | comma | line =>
        rfl
  have htake : (Nat.toDigits 10 n ++ rest).takeWhile Text.isAsciiDigit = Nat.toDigits 10 n := by
    rw [List.takeWhile_append_of_pos fun c hc => isAsciiDigit_of_mem_toDigits hc, hrest,
      List.append_nil]
  unfold readDigits
  rw [htake]
  split
  · rename_i hnil
    exact absurd hnil Nat.toDigits_ne_nil
  · rw [List.drop_left]

theorem readMagnitude_toDigits (n : Nat) {rest : List Char} (h : Follows rest) :
    readMagnitude (Nat.toDigits 10 n ++ rest) = some (Nat.toDigits 10 n, rest) := by
  have hzero : ((Nat.toDigits 10 n).head? == some '0' && (Nat.toDigits 10 n).length != 1) =
      false := by
    by_cases hn : n = 0
    · rw [hn]
      rfl
    · rw [beq_false_of_ne (head?_toDigits_ne hn), Bool.false_and]
  unfold readMagnitude
  rw [readDigits_toDigits n h]
  simp only [Option.bind_eq_bind, Option.bind_some, hzero]
  cases h with
  | nothing | comma | line =>
      simp [readFraction, readExponent]

theorem exists_toDigits_cons (n : Nat) :
    exists c cs, Nat.toDigits 10 n = c :: cs ∧ Text.isAsciiDigit c = true := by
  cases hdigits : Nat.toDigits 10 n with
  | nil =>
      exact absurd hdigits Nat.toDigits_ne_nil
  | cons c cs =>
      refine ⟨c, cs, rfl, isAsciiDigit_of_mem_toDigits (n := n) ?_⟩
      rw [hdigits]
      exact List.mem_cons_self

section Digit

variable {c : Char} (h : Text.isAsciiDigit c = true)

include h

theorem digit_ne {d : Char} (hd : Text.isAsciiDigit d = false) : c ≠ d := by
  intro heq
  rw [heq, hd] at h
  cases h

theorem isSpace_digit : isSpace c = false := by
  have hblank : c ≠ ' ' ∧ c ≠ '\t' ∧ c ≠ '\n' ∧ c ≠ '\r' :=
    ⟨digit_ne h rfl, digit_ne h rfl, digit_ne h rfl, digit_ne h rfl⟩
  simp [isSpace, hblank]

theorem readValue_digit (rounds : Nat) (cs : List Char) :
    readValue (rounds + 1) (c :: cs) =
      (readMagnitude (c :: cs)).map fun r => (.number r.1, r.2) := by
  rw [readValue, dropSpace_cons (isSpace_digit h)]
  split
  case h_8 =>
      unfold readNumber
      split
      · rename_i heq
        exact absurd (List.cons.inj heq).1 (digit_ne h rfl)
      · rfl
  -- What else a value can begin with is no digit.
  all_goals
    rename_i heq
    first
    | exact absurd heq (List.cons_ne_nil _ _)
    | exact absurd (List.cons.inj heq).1 (digit_ne h rfl)

end Digit

/-!
# Values
-/

/-- Whether the texts of a value are texts of characters and its numbers whole numbers. -/
inductive Plain : Json -> Prop where
  | null : Plain .null
  | boolean (value : Bool) : Plain (.boolean value)
  | number (n : Nat) : Plain (.ofNat n)
  | string {text : JsonText} (valid : text.Valid) : Plain (.string text)
  | array {items : List Json} (each : forall item, item ∈ items -> Plain item) :
      Plain (.array items)
  | object {members : List (JsonText × Json)} (names : forall m, m ∈ members -> m.1.Valid)
      (each : forall m, m ∈ members -> Plain m.2) : Plain (.object members)

theorem Textual.plain {json : Json} (h : Textual json) : Plain json := by
  induction h with
  | null =>
      exact .null
  | boolean value =>
      exact .boolean value
  | string hvalid =>
      exact .string hvalid
  | array _ ih =>
      exact .array ih
  | object hnames _ ih =>
      exact .object hnames ih

theorem plain_ofString (s : String) : Plain (.ofString s) :=
  (textual_ofString s).plain

theorem plain_ofOption (s : Option String) : Plain (.ofOption s) :=
  (textual_ofOption s).plain

theorem plain_ofMembers {members : List (String × Json)}
    (h : forall m, m ∈ members -> Plain m.2) : Plain (.ofMembers members) := by
  apply Plain.object
  · intro m hm
    rcases List.mem_map.mp hm with ⟨named, _, rfl⟩
    exact JsonText.valid_ofString named.1
  · intro m hm
    rcases List.mem_map.mp hm with ⟨named, hnamed, rfl⟩
    exact h named hnamed

theorem plain_map {α : Type} {write : α -> Json} (h : forall a, Plain (write a))
    (items : List α) : Plain (.array (items.map write)) := by
  apply Plain.array
  intro item hitem
  rcases List.mem_map.mp hitem with ⟨a, _, rfl⟩
  exact h a

/-- Whether a value is read back at every level, with as many rounds as there are characters. -/
def ReadBackIndented (json : Json) : Prop :=
  forall (level rounds : Nat) (rest : List Char), Follows rest ->
    (json.pretty level ++ rest).length < rounds ->
      readValue rounds (json.pretty level ++ rest) = some (json, rest)

theorem Plain.exists_pretty_cons {json : Json} (h : Plain json) (level : Nat) :
    exists c cs, json.pretty level = c :: cs ∧ isSpace c = false ∧ c ≠ ']' := by
  cases h with
  | null =>
      exact ⟨_, _, rfl, by decide⟩
  | boolean value =>
      cases value with
      | true | false =>
          exact ⟨_, _, rfl, by decide⟩
  | number n =>
      rcases exists_toDigits_cons n with ⟨c, cs, hdigits, hc⟩
      exact ⟨c, cs, hdigits, isSpace_digit hc, digit_ne hc rfl⟩
  | string hvalid =>
      exact ⟨_, _, rfl, by decide⟩
  | @array items heach =>
      cases items with
      | nil | cons =>
          exact ⟨_, _, rfl, by decide⟩
  | @object members hnames heach =>
      cases members with
      | nil | cons =>
          exact ⟨_, _, rfl, by decide⟩

/-!
# Arrays
-/

section Items

variable {level rounds : Nat} {rest : List Char}

theorem ReadBackIndented.onNewLine {item : Json} (h : item.ReadBackIndented)
    (hrest : Follows rest)
    (hrounds : (newLine level ++ (item.pretty level ++ rest)).length < rounds + 1) :
    readValue rounds (newLine level ++ (item.pretty level ++ rest)) = some (item, rest) := by
  rw [readValue_eq_of_dropSpace_eq (dropSpace_newLine level _)]
  exact h level rounds rest hrest (length_lt_of_newLine_append hrounds)

/-- The lines of the items of an array, with its bracket and what stands behind it. -/
def itemLines (level : Nat) (rest : List Char) (item : Json) : List Json -> List Char
  | [] => newLine (level + 1) ++ (item.pretty (level + 1) ++ (newLine level ++ ']' :: rest))
  | next :: more =>
      newLine (level + 1) ++ (item.pretty (level + 1) ++ ',' :: itemLines level rest next more)

theorem pretty_array_append (level : Nat) (rest : List Char) (item : Json) (more : List Json) :
    (Json.array (item :: more)).pretty level ++ rest = '[' :: itemLines level rest item more := by
  induction more generalizing item with
  | nil =>
      simp [pretty, prettyItems, itemLines]
  | cons next more ih =>
      have htail := List.cons.inj (ih next)
      simp [pretty, prettyItems, itemLines, ← htail.2]

theorem readItems_itemLines {item : Json} {more : List Json} (hitem : item.ReadBackIndented)
    (hmore : forall other, other ∈ more -> other.ReadBackIndented)
    (hrounds : (itemLines level rest item more).length < rounds) :
    readItems rounds (itemLines level rest item more) = some (item :: more, rest) := by
  induction more generalizing item rounds with
  | nil =>
      cases rounds with
      | zero =>
          cases hrounds
      | succ rounds =>
          rw [itemLines, readItems, hitem.onNewLine (follows_newLine _ _) hrounds]
          simp only [dropSpace_newLine]
          rfl
  | cons next more ih =>
      rcases List.forall_mem_cons.mp hmore with ⟨hnext, hmore'⟩
      cases rounds with
      | zero =>
          cases hrounds
      | succ rounds =>
          have hlast : readItems rounds (itemLines level rest next more) =
              some (next :: more, rest) := by
            apply ih hnext hmore'
            -- A round is used up, and so is the line break in front of the item.
            have hshort := length_lt_of_newLine_append hrounds
            rw [List.length_append, List.length_cons] at hshort
            omega
          rw [itemLines, readItems, hitem.onNewLine (.comma _) hrounds]
          simp only [dropSpace_cons (c := ',') rfl, hlast]
          rfl

end Items

/-!
# Objects
-/

section Members

variable {level rounds : Nat} {rest : List Char}

def memberLine (level : Nat) (member : JsonText × Json) (rest : List Char) : List Char :=
  newLine level ++ (writeText member.1 ++ ':' :: ' ' :: (member.2.pretty level ++ rest))

/-- The lines of the members of an object, with its brace and what stands behind it. -/
def memberLines (level : Nat) (rest : List Char) (member : JsonText × Json) :
    List (JsonText × Json) -> List Char
  | [] => memberLine (level + 1) member (newLine level ++ '\x7d' :: rest)
  | next :: more => memberLine (level + 1) member (',' :: memberLines level rest next more)

theorem pretty_object_append (level : Nat) (rest : List Char) (member : JsonText × Json)
    (more : List (JsonText × Json)) :
    (Json.object (member :: more)).pretty level ++ rest =
      '\x7b' :: memberLines level rest member more := by
  induction more generalizing member with
  | nil =>
      simp [pretty, prettyMembers, memberLines, memberLine]
  | cons next more ih =>
      have htail := List.cons.inj (ih next)
      simp [pretty, prettyMembers, memberLines, memberLine, ← htail.2]

theorem memberLine_eq (level : Nat) (member : JsonText × Json) (rest : List Char) :
    memberLine level member rest =
      newLine level ++ '"' :: (member.1.flatMap writeCode ++ '"' :: ':' :: ' ' ::
        (member.2.pretty level ++ rest)) := by
  simp [memberLine, writeText]

theorem length_lt_of_memberLine {member : JsonText × Json}
    (h : (memberLine level member rest).length < rounds + 1) :
    (member.2.pretty level ++ rest).length < rounds := by
  have hlong := length_lt_of_newLine_append h
  rw [List.length_append, List.length_cons, List.length_cons] at hlong
  omega

theorem readValue_member {member : JsonText × Json} (h : member.2.ReadBackIndented)
    (hrest : Follows rest) (hrounds : (memberLine level member rest).length < rounds + 1) :
    readValue rounds (' ' :: (member.2.pretty level ++ rest)) = some (member.2, rest) := by
  have hspace : dropSpace (' ' :: (member.2.pretty level ++ rest)) =
      dropSpace (member.2.pretty level ++ rest) :=
    rfl
  rw [readValue_eq_of_dropSpace_eq hspace]
  exact h level rounds rest hrest (length_lt_of_memberLine hrounds)

theorem readMembers_memberLines {member : JsonText × Json} {more : List (JsonText × Json)}
    (hmember : member.1.Valid ∧ member.2.ReadBackIndented)
    (hmore : forall other, other ∈ more -> other.1.Valid ∧ other.2.ReadBackIndented)
    (hrounds : (memberLines level rest member more).length < rounds) :
    readMembers rounds (memberLines level rest member more) = some (member :: more, rest) := by
  rcases hmember with ⟨hname, hvalue⟩
  induction more generalizing member rounds with
  | nil =>
      cases rounds with
      | zero =>
          cases hrounds
      | succ rounds =>
          have hread := readValue_member hvalue (follows_newLine _ _) hrounds
          rw [memberLines, memberLine_eq, readMembers, dropSpace_newLine, dropSpace_cons rfl]
          simp only [readText_flatMap hname, dropSpace_cons (c := ':') rfl, hread,
            dropSpace_newLine]
          rfl
  | cons next more ih =>
      rcases List.forall_mem_cons.mp hmore with ⟨⟨hnextName, hnextValue⟩, hmore'⟩
      cases rounds with
      | zero =>
          cases hrounds
      | succ rounds =>
          have hread := readValue_member hvalue (.comma _) hrounds
          have hlast : readMembers rounds (memberLines level rest next more) =
              some (next :: more, rest) := by
            refine ih hmore' ?_ hnextName hnextValue
            have hshort := length_lt_of_memberLine hrounds
            rw [List.length_append, List.length_cons] at hshort
            omega
          rw [memberLines, memberLine_eq, readMembers, dropSpace_newLine, dropSpace_cons rfl]
          simp only [readText_flatMap hname, dropSpace_cons (c := ':') rfl, hread,
            dropSpace_cons (c := ',') rfl, hlast]
          rfl

end Members

/-!
# Documents
-/

theorem exists_itemLines_cons {item : Json} (h : Plain item) (level : Nat) (rest : List Char)
    (more : List Json) :
    exists c cs, dropSpace (itemLines level rest item more) = c :: cs ∧ c ≠ ']' := by
  rcases h.exists_pretty_cons (level + 1) with ⟨c, cs, hpretty, hspace, hc⟩
  cases more with
  | nil | cons next more =>
      rw [itemLines, dropSpace_newLine, hpretty]
      exact ⟨c, _, dropSpace_cons hspace _, hc⟩

theorem readValue_items {cs ds : List Char} {c : Char} (h : dropSpace cs = c :: ds) (hc : c ≠ ']')
    (rounds : Nat) :
    readValue (rounds + 1) ('[' :: cs) =
      (readItems rounds cs).map fun r => (.array r.1, r.2) := by
  rw [readValue, dropSpace_cons rfl]
  simp only [h]
  split
  · rename_i heq
    exact absurd (List.cons.inj heq).1 hc
  · rfl

theorem readValue_members (level : Nat) (rest : List Char) (member : JsonText × Json)
    (more : List (JsonText × Json)) (rounds : Nat) :
    readValue (rounds + 1) ('\x7b' :: memberLines level rest member more) =
      (readMembers rounds (memberLines level rest member more)).map fun r =>
        (.object r.1, r.2) := by
  have hfirst : exists cs, dropSpace (memberLines level rest member more) = '"' :: cs := by
    cases more with
    | nil | cons next more =>
        rw [memberLines, memberLine_eq, dropSpace_newLine]
        exact ⟨_, dropSpace_cons rfl _⟩
  rcases hfirst with ⟨cs, hcs⟩
  rw [readValue, dropSpace_cons rfl]
  simp only [hcs]
  split
  · rename_i heq
    exact absurd (List.cons.inj heq).1 (by decide)
  · rfl

theorem Plain.readBackIndented {json : Json} (h : Plain json) : json.ReadBackIndented := by
  induction h with
  | null =>
      intro level rounds rest _ hrounds
      cases rounds with
      | zero =>
          cases hrounds
      | succ rounds =>
          rfl
  | boolean value =>
      intro level rounds rest _ hrounds
      cases rounds with
      | zero =>
          cases hrounds
      | succ rounds =>
          cases value with
          | true | false =>
              rfl
  | number n =>
      intro level rounds rest hrest hrounds
      cases rounds with
      | zero =>
          cases hrounds
      | succ rounds =>
          rcases exists_toDigits_cons n with ⟨c, cs, hdigits, hc⟩
          have hline : (Json.ofNat n).pretty level ++ rest = Nat.toDigits 10 n ++ rest :=
            rfl
          rw [hline, hdigits, List.cons_append, readValue_digit hc, ← List.cons_append, ← hdigits,
            readMagnitude_toDigits n hrest]
          rfl
  | @string text hvalid =>
      intro level rounds rest _ hrounds
      cases rounds with
      | zero =>
          cases hrounds
      | succ rounds =>
          have hline : (Json.string text).pretty level ++ rest =
              '"' :: (text.flatMap writeCode ++ '"' :: rest) := by
            simp [pretty, writeText]
          rw [hline]
          change (readText _).map _ = _
          rw [readText_flatMap hvalid]
          rfl
  | @array items hitems ih =>
      intro level rounds rest _ hrounds
      cases rounds with
      | zero =>
          cases hrounds
      | succ rounds =>
          cases items with
          | nil =>
              rfl
          | cons item more =>
              rcases List.forall_mem_cons.mp ih with ⟨hitem, hmore⟩
              rcases exists_itemLines_cons (hitems item List.mem_cons_self) level rest more with
                ⟨c, cs, hcs, hc⟩
              rw [pretty_array_append] at hrounds ⊢
              rw [readValue_items hcs hc,
                readItems_itemLines hitem hmore (Nat.lt_of_succ_lt_succ hrounds)]
              rfl
  | @object members hnames _ ih =>
      intro level rounds rest _ hrounds
      cases rounds with
      | zero =>
          cases hrounds
      | succ rounds =>
          cases members with
          | nil =>
              rfl
          | cons member more =>
              have hread : forall m, m ∈ member :: more -> m.1.Valid ∧ m.2.ReadBackIndented :=
                fun m hm => ⟨hnames m hm, ih m hm⟩
              rcases List.forall_mem_cons.mp hread with ⟨hmember, hmore⟩
              rw [pretty_object_append] at hrounds ⊢
              rw [readValue_members,
                readMembers_memberLines hmember hmore (Nat.lt_of_succ_lt_succ hrounds)]
              rfl

theorem Plain.read?_pretty {json : Json} (h : Plain json) :
    read? (String.ofList (json.pretty 0)) = some json := by
  have hread := h.readBackIndented 0 (2 * (json.pretty 0).length + 2) [] .nothing (by simp; omega)
  rw [List.append_nil] at hread
  unfold read?
  dsimp only
  rw [String.toList_ofList, hread]
  rfl

end Json
end FindingLedger
