import FindingLedger.Identity.Key
import FindingLedger.Proofs.Text.Numerals

/-!
# Fields read back from one text

The length before a field tells where the field ends, whatever it holds. So the fields of a
key can be read back from the text that is made of them, and no two lists of fields make
one text. The reader takes no other text: a length has no noughts before it, and a bar has a
field behind it.
-/

namespace FindingLedger
namespace Identity

/-!
# Characters by their bytes
-/

def byteSize : List Char -> Nat
  | [] => 0
  | c :: cs => c.utf8Size + byteSize cs

theorem utf8ByteSize_ofList (cs : List Char) :
    (String.ofList cs).utf8ByteSize = byteSize cs := by
  induction cs with
  | nil =>
      rfl
  | cons c cs ih =>
      have hcons : String.ofList (c :: cs) = String.singleton c ++ String.ofList cs := by
        simp
      rw [hcons, String.utf8ByteSize_append, String.utf8ByteSize_singleton, ih]
      rfl

theorem utf8ByteSize_eq_byteSize (s : String) : s.utf8ByteSize = byteSize s.toList := by
  rw [← utf8ByteSize_ofList, String.ofList_toList]

def takeBytes? : Nat -> List Char -> Option (List Char × List Char)
  | 0, cs => some ([], cs)
  | _ + 1, [] => none
  | n + 1, c :: cs =>
      if c.utf8Size ≤ n + 1 then
        (takeBytes? (n + 1 - c.utf8Size) cs).map fun (taken, rest) => (c :: taken, rest)
      else
        none

theorem takeBytes?_append (cs rest : List Char) :
    takeBytes? (byteSize cs) (cs ++ rest) = some (cs, rest) := by
  induction cs with
  | nil =>
      cases rest <;> rfl
  | cons c cs ih =>
      have hpos : 0 < c.utf8Size := c.utf8Size_pos
      rw [byteSize, List.cons_append]
      cases hsize : c.utf8Size + byteSize cs with
      | zero =>
          omega
      | succ n =>
          have hle : c.utf8Size ≤ n + 1 := by omega
          have hrest : n + 1 - c.utf8Size = byteSize cs := by omega
          rw [takeBytes?, if_pos hle, hrest, ih]
          rfl

theorem of_takeBytes? {n : Nat} {cs taken rest : List Char}
    (h : takeBytes? n cs = some (taken, rest)) : cs = taken ++ rest ∧ byteSize taken = n := by
  induction n, cs using takeBytes?.induct generalizing taken with
  | case1 cs =>
      rw [takeBytes?, Option.some.injEq, Prod.mk.injEq] at h
      rw [← h.1, ← h.2]
      exact ⟨rfl, rfl⟩
  | case2 n =>
      cases h
  | case3 n c cs hle ih =>
      rw [takeBytes?, if_pos hle] at h
      rcases Option.map_eq_some_iff.mp h with ⟨⟨taken', rest'⟩, hmore, heq⟩
      rw [Prod.mk.injEq] at heq
      rcases heq with ⟨rfl, rfl⟩
      rcases ih hmore with ⟨hcs, hsize⟩
      constructor
      · rw [hcs, List.cons_append]
      · rw [byteSize, hsize]
        omega
  | case4 n c cs hle =>
      rw [takeBytes?, if_neg hle] at h
      cases h

/-!
# Reading one field
-/

theorem takeWhile_toDigits_append (n : Nat) (rest : List Char) :
    (Nat.toDigits 10 n ++ ':' :: rest).takeWhile Char.isDigit = Nat.toDigits 10 n := by
  rw [List.takeWhile_append_of_pos fun _ hc => Text.isDigit_of_mem_numeral hc,
    List.takeWhile_cons_of_neg (by decide), List.append_nil]

theorem dropWhile_toDigits_append (n : Nat) (rest : List Char) :
    (Nat.toDigits 10 n ++ ':' :: rest).dropWhile Char.isDigit = ':' :: rest := by
  rw [List.dropWhile_append_of_pos fun _ hc => Text.isDigit_of_mem_numeral hc,
    List.dropWhile_cons_of_neg (by decide)]

def readField? (cs : List Char) : Option (String × List Char) :=
  let numeral := cs.takeWhile Char.isDigit
  let size := Nat.ofDigitChars 10 numeral 0
  match cs.dropWhile Char.isDigit with
  | ':' :: rest =>
      if numeral = Nat.toDigits 10 size then
        (takeBytes? size rest).map fun (field, rest) => (String.ofList field, rest)
      else
        none
  | _ => none

theorem readField?_writeField_append (field : String) (rest : List Char) :
    readField? (writeField field ++ rest) = some (field, rest) := by
  have htext : writeField field ++ rest =
      Nat.toDigits 10 field.utf8ByteSize ++ ':' :: (field.toList ++ rest) := by
    simp [writeField]
  rw [readField?, htext, dropWhile_toDigits_append, takeWhile_toDigits_append]
  simp only [Nat.ofDigitChars_ten_toDigits, if_true]
  rw [utf8ByteSize_eq_byteSize, takeBytes?_append]
  simp

theorem eq_writeField_append_of_readField? {cs rest : List Char} {field : String}
    (h : readField? cs = some (field, rest)) : cs = writeField field ++ rest := by
  unfold readField? at h
  dsimp only at h
  split at h
  · rename_i behind hbehind
    split at h
    · rename_i hnumeral
      rcases Option.map_eq_some_iff.mp h with ⟨⟨taken, rest'⟩, htaken, heq⟩
      rw [Prod.mk.injEq] at heq
      rcases heq with ⟨rfl, rfl⟩
      rcases of_takeBytes? htaken with ⟨hcs, hsize⟩
      rw [← hsize] at hnumeral
      rw [← List.takeWhile_append_dropWhile (p := Char.isDigit) (l := cs), hbehind, hcs, hnumeral,
        writeField, utf8ByteSize_ofList, String.toList_ofList, List.append_assoc,
        List.cons_append]
    · cases h
  · cases h

/-!
# Reading a list of fields
-/

def readFields? : Nat -> List Char -> Option (List String)
  | 0, _ => none
  | n + 1, cs =>
      match readField? cs with
      | some (field, []) => some [field]
      | some (field, '|' :: rest) => (readFields? n rest).map fun fields => field :: fields
      | _ => none

theorem writeField_ne_nil (field : String) : writeField field ≠ [] := by
  simp [writeField]

theorem writeFields_cons_of_ne_nil (field : String) {fields : List String} (hne : fields ≠ []) :
    writeFields (field :: fields) = writeField field ++ '|' :: writeFields fields := by
  cases fields with
  | nil =>
      exact absurd rfl hne
  | cons next more =>
      rfl

theorem writeFields_ne_nil {fields : List String} (hne : fields ≠ []) : writeFields fields ≠ [] := by
  cases fields with
  | nil =>
      exact absurd rfl hne
  | cons field more =>
      cases more with
      | nil =>
          exact writeField_ne_nil field
      | cons next more =>
          rw [writeFields_cons_of_ne_nil field (List.cons_ne_nil _ _)]
          simp

theorem readFields?_writeFields {fields : List String} (hne : fields ≠ []) :
    forall n, fields.length ≤ n -> readFields? n (writeFields fields) = some fields := by
  induction fields with
  | nil =>
      exact absurd rfl hne
  | cons field fields ih =>
      intro n hn
      cases n with
      | zero =>
          simp at hn
      | succ n =>
          -- What follows the field is the end for the last one, a bar for the others.
          cases fields with
          | nil =>
              have hread := readField?_writeField_append field []
              rw [List.append_nil] at hread
              rw [readFields?, writeFields, hread]
          | cons next more =>
              have hmore : (next :: more).length ≤ n := by
                simpa using hn
              rw [readFields?, writeFields_cons_of_ne_nil field (List.cons_ne_nil next more),
                readField?_writeField_append]
              simp only [ih (List.cons_ne_nil next more) n hmore, Option.map_some]

theorem of_readFields? {n : Nat} {cs : List Char} {fields : List String}
    (h : readFields? n cs = some fields) : fields ≠ [] ∧ cs = writeFields fields := by
  induction n generalizing cs fields with
  | zero =>
      cases h
  | succ n ih =>
      rw [readFields?] at h
      split at h
      · rename_i field hfield
        rw [← Option.some.inj h, eq_writeField_append_of_readField? hfield, List.append_nil]
        exact ⟨List.cons_ne_nil _ _, rfl⟩
      · rename_i field rest hfield
        rcases Option.map_eq_some_iff.mp h with ⟨more, hmore, rfl⟩
        rcases ih hmore with ⟨hne, hrest⟩
        rw [eq_writeField_append_of_readField? hfield, hrest, writeFields_cons_of_ne_nil field hne]
        exact ⟨List.cons_ne_nil _ _, rfl⟩
      · cases h

theorem length_le_length_writeFields (fields : List String) :
    fields.length ≤ (writeFields fields).length := by
  induction fields with
  | nil =>
      simp
  | cons field fields ih =>
      have hpos : 0 < (writeField field).length :=
        List.length_pos_iff.mpr (writeField_ne_nil field)
      cases fields with
      | nil =>
          exact hpos
      | cons next more =>
          rw [writeFields_cons_of_ne_nil field (List.cons_ne_nil next more)]
          simp only [List.length_append, List.length_cons] at ih ⊢
          omega

/-- The fields that a text was made of. Only the text of no fields is empty. -/
def fieldsOf? (text : String) : Option (List String) :=
  if text.toList = [] then some [] else readFields? text.toList.length text.toList

theorem fieldsOf?_canonical (fields : List String) :
    fieldsOf? (canonical fields) = some fields := by
  rw [fieldsOf?, canonical, String.toList_ofList]
  cases fields with
  | nil =>
      rfl
  | cons field more =>
      have hne : field :: more ≠ [] := List.cons_ne_nil field more
      rw [if_neg (writeFields_ne_nil hne)]
      exact readFields?_writeFields hne _ (length_le_length_writeFields _)

theorem canonical_inj {fields others : List String} :
    canonical fields = canonical others <-> fields = others := by
  constructor
  · intro h
    have hread := congrArg fieldsOf? h
    rw [fieldsOf?_canonical, fieldsOf?_canonical] at hread
    exact Option.some.inj hread
  · intro h
    rw [h]

/-- Lists of fields and their texts determine one another, and the reader takes just the texts
that fields make. -/
theorem canonical_eq_iff_and_fieldsOf?_eq_some_iff :
    (forall fields others, canonical fields = canonical others <-> fields = others) ∧
      forall text fields, fieldsOf? text = some fields <-> text = canonical fields := by
  refine ⟨fun _ _ => canonical_inj, fun text fields => ⟨?_, ?_⟩⟩
  · intro h
    rw [canonical, ← String.ofList_toList (s := text)]
    rw [fieldsOf?] at h
    split at h
    · rename_i hempty
      rw [← Option.some.inj h, hempty]
      rfl
    · rw [(of_readFields? h).2]
  · intro h
    rw [h, fieldsOf?_canonical]

/-- A length with a nought before it and a bar at the end are refused. -/
example : fieldsOf? "2:ab|0:|3:c|d" = some ["ab", "", "c|d"] ∧ fieldsOf? "02:ab" = none ∧
    fieldsOf? "2:ab|" = none := by
  decide

end Identity
end FindingLedger
