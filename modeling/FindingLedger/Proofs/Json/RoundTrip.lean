import FindingLedger.Json.Read
import FindingLedger.Json.Write

/-!
# JSON is read back

What is written in one line is read back, for values whose texts are texts of characters and
that hold no numbers. Each part is read up to where it was written and leaves what stands behind
it. A part takes no more rounds than it has characters, so that a document has rounds enough.
-/

namespace FindingLedger

namespace JsonText

def Valid (text : JsonText) : Prop :=
  forall n, n ∈ text -> n.isValidChar

theorem valid_ofString (s : String) : (ofString s).Valid := by
  intro n hn
  rcases List.mem_map.mp hn with ⟨c, _, rfl⟩
  exact c.valid

theorem toString?_ofString (s : String) : toString? (ofString s) = some s := by
  have hvalid : (ofString s).all Nat.isValidChar = true :=
    List.all_eq_true.mpr fun n hn => decide_eq_true (valid_ofString s n hn)
  have hchars : (ofString s).map Char.ofNat = s.toList := by
    unfold ofString
    rw [List.map_map]
    exact (List.map_congr_left fun c _ => Char.ofNat_toNat c).trans (List.map_id _)
  unfold toString?
  rw [if_pos hvalid, hchars, String.ofList_toList]

end JsonText

namespace Json

/-!
# Texts
-/

theorem hexDigit?_hexDigit {d : Nat} (h : d < 16) : Text.hexDigit? (Text.hexDigit d) = some d := by
  have hall : forall d, d < 16 -> Text.hexDigit? (Text.hexDigit d) = some d := by
    decide
  exact hall d h

theorem writeCode_cases {n : Nat} (h : n.isValidChar) :
    (exists c, c ≠ 'u' ∧ escaped? c = some n ∧ writeCode n = ['\\', c]) ∨
      (n < 0x20 ∧ writeCode n = ['\\', 'u', Text.hexDigit (n / 4096 % 16),
        Text.hexDigit (n / 256 % 16), Text.hexDigit (n / 16 % 16), Text.hexDigit (n % 16)]) ∨
      exists c, c.toNat = n ∧ ¬ n < 0x20 ∧ c ≠ '"' ∧ c ≠ '\\' ∧ writeCode n = [c] := by
  by_cases hescape : n ∈ [0x22, 0x5C, 0x08, 0x09, 0x0A, 0x0C, 0x0D]
  · simp only [List.mem_cons, List.not_mem_nil, or_false] at hescape
    rcases hescape with rfl | rfl | rfl | rfl | rfl | rfl | rfl <;>
      exact Or.inl ⟨_, by decide, rfl, rfl⟩
  · simp only [List.mem_cons, List.not_mem_nil, or_false, not_or] at hescape
    rcases hescape with ⟨hquote, hslash, hback, htab, hline, hform, hreturn⟩
    right
    unfold writeCode
    simp only [beq_iff_eq, hquote, hslash, hback, htab, hline, hform, hreturn, if_false]
    by_cases hlow : n < 0x20
    · left
      simp [hlow]
    · right
      have hcode : (Char.ofNat n).toNat = n := by
        unfold Char.ofNat
        rw [dif_pos h]
        rfl
      refine ⟨Char.ofNat n, hcode, hlow, ?_, ?_, ?_⟩
      · intro heq
        rw [heq] at hcode
        exact hquote hcode.symm
      · intro heq
        rw [heq] at hcode
        exact hslash hcode.symm
      · simp [hlow, h]

theorem readUnits_writeCode {n : Nat} (h : n.isValidChar) (rest : List Char) :
    readUnits (writeCode n ++ rest) = (readUnits rest).map fun r => (n :: r.1, r.2) := by
  rcases writeCode_cases h with ⟨c, hc, hescaped, heq⟩ | ⟨hlow, heq⟩ |
    ⟨c, hcode, hlow, hquote, hslash, heq⟩
  · rw [heq, List.cons_append, List.singleton_append, readUnits, hescaped]
    intro _ _ _ _ _ hu
    exact absurd hu hc
  · have hdigit (d : Nat) : Text.hexDigit? (Text.hexDigit (d % 16)) = some (d % 16) :=
      hexDigit?_hexDigit (Nat.mod_lt d (by decide))
    have hvalue : 4096 * (n / 4096 % 16) + 256 * (n / 256 % 16) + 16 * (n / 16 % 16) + n % 16 =
        n := by
      omega
    rw [heq]
    simp only [List.cons_append, List.nil_append, readUnits, hdigit, hvalue]
  · rw [heq, List.singleton_append, readUnits, hcode]
    · rw [if_neg (by simp [hlow, hslash])]
    · exact hquote
    · intro _ _ _ _ _ hs
      exact absurd hs hslash
    · intro _ _ hs
      exact absurd hs hslash

theorem joinPairs_eq_self {text : JsonText} (h : text.Valid) : joinPairs text = text := by
  induction text with
  | nil =>
      rfl
  | cons n rest ih =>
      rcases List.forall_mem_cons.mp h with ⟨hn, hrest⟩
      rw [joinPairs, ih hrest]
      cases rest with
      | nil =>
          rfl
      | cons m more =>
          have hnone : (0xD800 ≤ n && n < 0xDC00 && 0xDC00 ≤ m && m < 0xE000) = false := by
            unfold Nat.isValidChar at hn
            simp only [Bool.and_eq_false_iff, decide_eq_false_iff_not]
            omega
          dsimp only
          rw [hnone]
          rfl

theorem readUnits_flatMap {text : JsonText} (h : text.Valid) (rest : List Char) :
    readUnits (text.flatMap writeCode ++ '"' :: rest) = some (text, rest) := by
  induction text with
  | nil =>
      rfl
  | cons n text ih =>
      rcases List.forall_mem_cons.mp h with ⟨hn, htext⟩
      rw [List.flatMap_cons, List.append_assoc, readUnits_writeCode hn, ih htext]
      rfl

theorem readText_flatMap {text : JsonText} (h : text.Valid) (rest : List Char) :
    readText (text.flatMap writeCode ++ '"' :: rest) = some (text, rest) := by
  unfold readText
  rw [readUnits_flatMap h, Option.map_some, joinPairs_eq_self h]

/-!
# Values
-/

inductive Textual : Json -> Prop where
  | null : Textual .null
  | boolean (value : Bool) : Textual (.boolean value)
  | string {text : JsonText} (valid : text.Valid) : Textual (.string text)
  | array {items : List Json} (each : forall item, item ∈ items -> Textual item) :
      Textual (.array items)
  | object {members : List (JsonText × Json)} (names : forall m, m ∈ members -> m.1.Valid)
      (each : forall m, m ∈ members -> Textual m.2) : Textual (.object members)

/-- Whether a value is read back from its line, with as many rounds as it has characters. -/
def ReadBack (json : Json) : Prop :=
  forall (rounds : Nat) (rest : List Char), json.compact.length < rounds ->
    readValue rounds (json.compact ++ rest) = some (json, rest)

def beginnings : List Char :=
  ['n', 't', 'f', '"', '[', '\x7b']

theorem Textual.exists_compact_cons {json : Json} (h : Textual json) :
    exists c cs, json.compact = c :: cs ∧ c ∈ beginnings := by
  cases h with
  | boolean value =>
      cases value with
      | true | false =>
          exact ⟨_, _, rfl, by decide⟩
  | null | string | array | object =>
      exact ⟨_, _, rfl, by decide⟩

theorem readItems_compactItems {items : List Json} (hne : items ≠ [])
    (h : forall item, item ∈ items -> item.ReadBack) {rounds : Nat} {rest : List Char}
    (hrounds : (compactItems items).length + 1 < rounds) :
    readItems rounds (compactItems items ++ ']' :: rest) = some (items, rest) := by
  induction items generalizing rounds with
  | nil =>
      exact absurd rfl hne
  | cons item more ih =>
      rcases List.forall_mem_cons.mp h with ⟨hitem, hmore⟩
      cases rounds with
      | zero =>
          cases hrounds
      | succ rounds =>
          cases more with
          | nil =>
              rw [compactItems] at hrounds ⊢
              rw [readItems, hitem rounds _ (by omega)]
              rfl
          | cons next more =>
              have hcons : compactItems (item :: next :: more) =
                  item.compact ++ ',' :: compactItems (next :: more) :=
                rfl
              rw [hcons, List.length_append, List.length_cons] at hrounds
              rw [hcons, List.append_assoc, readItems, hitem rounds _ (by omega)]
              have hlast : readItems rounds (compactItems (next :: more) ++ ']' :: rest) =
                  some (next :: more, rest) :=
                ih (List.cons_ne_nil _ _) hmore (by omega)
              change (readItems rounds (compactItems (next :: more) ++ ']' :: rest)).map _ = _
              rw [hlast]
              rfl

section Member

variable {name : JsonText} {value : Json} {rounds : Nat}

theorem member_append (name : JsonText) (value : Json) (rest : List Char) :
    writeText name ++ ':' :: value.compact ++ rest =
      '"' :: (name.flatMap writeCode ++ '"' :: ':' :: (value.compact ++ rest)) := by
  simp [writeText]

theorem dropSpace_cons {c : Char} (h : isSpace c = false) (cs : List Char) :
    dropSpace (c :: cs) = c :: cs :=
  List.dropWhile_cons_of_neg (by rw [h]; exact Bool.false_ne_true)

theorem readMembers_comma (hname : name.Valid) (hvalue : value.ReadBack)
    (hrounds : value.compact.length < rounds) (rest : List Char) :
    readMembers (rounds + 1) (writeText name ++ ':' :: value.compact ++ ',' :: rest) =
      (readMembers rounds rest).map fun r => ((name, value) :: r.1, r.2) := by
  rw [member_append, readMembers, dropSpace_cons rfl]
  simp only [readText_flatMap hname, dropSpace_cons (c := ':') rfl,
    hvalue rounds _ hrounds, dropSpace_cons (c := ',') rfl]

theorem readMembers_brace (hname : name.Valid) (hvalue : value.ReadBack)
    (hrounds : value.compact.length < rounds) (rest : List Char) :
    readMembers (rounds + 1) (writeText name ++ ':' :: value.compact ++ '\x7d' :: rest) =
      some ([(name, value)], rest) := by
  rw [member_append, readMembers, dropSpace_cons rfl]
  simp only [readText_flatMap hname, dropSpace_cons (c := ':') rfl,
    hvalue rounds _ hrounds, dropSpace_cons (c := '\x7d') rfl]

end Member

theorem readMembers_compactMembers {members : List (JsonText × Json)} (hne : members ≠ [])
    (hnames : forall m, m ∈ members -> m.1.Valid) (h : forall m, m ∈ members -> m.2.ReadBack)
    {rounds : Nat} {rest : List Char} (hrounds : (compactMembers members).length + 1 < rounds) :
    readMembers rounds (compactMembers members ++ '\x7d' :: rest) = some (members, rest) := by
  induction members generalizing rounds with
  | nil =>
      exact absurd rfl hne
  | cons m more ih =>
      rcases m with ⟨name, value⟩
      rcases List.forall_mem_cons.mp hnames with ⟨hname, hnames'⟩
      rcases List.forall_mem_cons.mp h with ⟨hvalue, hmore⟩
      cases rounds with
      | zero =>
          cases hrounds
      | succ rounds =>
          cases more with
          | nil =>
              have hone : compactMembers [(name, value)] = writeText name ++ ':' :: value.compact :=
                rfl
              rw [hone, List.length_append, List.length_cons] at hrounds
              have hcount : value.compact.length < rounds := by
                omega
              rw [hone, readMembers_brace hname hvalue hcount]
          | cons next more =>
              have hcons : compactMembers ((name, value) :: next :: more) =
                  writeText name ++ ':' :: value.compact ++ ',' :: compactMembers (next :: more) :=
                rfl
              rw [hcons, List.length_append, List.length_append, List.length_cons,
                List.length_cons] at hrounds
              have hcount : value.compact.length < rounds := by
                omega
              have hlast : readMembers rounds (compactMembers (next :: more) ++ '\x7d' :: rest) =
                  some (next :: more, rest) :=
                ih (List.cons_ne_nil _ _) hnames' hmore (by omega)
              rw [hcons, List.append_assoc, List.cons_append,
                readMembers_comma hname hvalue hcount, hlast]
              rfl

/-!
# Documents
-/

theorem readValue_array {rounds : Nat} {c : Char} {cs : List Char}
    (hc : c ∈ beginnings) :
    readValue (rounds + 1) ('[' :: c :: cs) =
      (readItems rounds (c :: cs)).map fun r => (.array r.1, r.2) := by
  simp only [beginnings, List.mem_cons, List.not_mem_nil, or_false] at hc
  rcases hc with rfl | rfl | rfl | rfl | rfl | rfl <;> rfl

theorem exists_compactItems_cons {items : List Json} (hne : items ≠ [])
    (h : forall item, item ∈ items -> Textual item) :
    exists c cs, compactItems items = c :: cs ∧ c ∈ beginnings := by
  cases items with
  | nil =>
      exact absurd rfl hne
  | cons item more =>
      rcases (h item List.mem_cons_self).exists_compact_cons with ⟨c, cs, hline, hc⟩
      cases more with
      | nil =>
          exact ⟨c, cs, hline, hc⟩
      | cons next more =>
          refine ⟨c, cs ++ ',' :: compactItems (next :: more), ?_, hc⟩
          rw [← List.cons_append, ← hline]
          rfl

theorem exists_compactMembers_cons {members : List (JsonText × Json)} (hne : members ≠ []) :
    exists cs, compactMembers members = '"' :: cs := by
  cases members with
  | nil =>
      exact absurd rfl hne
  | cons m more =>
      cases more with
      | nil =>
          exact ⟨_, rfl⟩
      | cons next more =>
          exact ⟨_, rfl⟩

theorem Textual.readBack {json : Json} (h : Textual json) : json.ReadBack := by
  induction h with
  | null =>
      intro rounds rest hrounds
      cases rounds with
      | zero =>
          cases hrounds
      | succ rounds =>
          rfl
  | boolean value =>
      intro rounds rest hrounds
      cases rounds with
      | zero =>
          cases hrounds
      | succ rounds =>
          cases value with
          | true | false =>
              rfl
  | @string text hvalid =>
      intro rounds rest hrounds
      cases rounds with
      | zero =>
          cases hrounds
      | succ rounds =>
          have hline : (Json.string text).compact ++ rest =
              '"' :: (text.flatMap writeCode ++ '"' :: rest) := by
            simp [compact, writeText]
          rw [hline]
          change (readText _).map _ = _
          rw [readText_flatMap hvalid]
          rfl
  | @array items hitems ih =>
      intro rounds rest hrounds
      cases rounds with
      | zero =>
          cases hrounds
      | succ rounds =>
          have hline : (Json.array items).compact ++ rest =
              '[' :: (compactItems items ++ ']' :: rest) := by
            simp [compact]
          have hlength : (Json.array items).compact.length = (compactItems items).length + 2 := by
            simp [compact]
          by_cases hempty : items = []
          · rw [hempty]
            rfl
          · have hread := @readItems_compactItems items hempty ih rounds rest (by omega)
            rcases exists_compactItems_cons hempty hitems with ⟨c, cs, hitemsLine, hc⟩
            rw [hline, hitemsLine, List.cons_append, readValue_array hc, ← List.cons_append,
              ← hitemsLine, hread]
            rfl
  | @object members hnames hmembers ih =>
      intro rounds rest hrounds
      cases rounds with
      | zero =>
          cases hrounds
      | succ rounds =>
          have hline : (Json.object members).compact ++ rest =
              '\x7b' :: (compactMembers members ++ '\x7d' :: rest) := by
            simp [compact]
          have hlength : (Json.object members).compact.length =
              (compactMembers members).length + 2 := by
            simp [compact]
          by_cases hempty : members = []
          · rw [hempty]
            rfl
          · have hread := @readMembers_compactMembers members hempty hnames ih rounds rest
              (by omega)
            rcases exists_compactMembers_cons hempty with ⟨cs, hmembersLine⟩
            have hbrace : readValue (rounds + 1) ('\x7b' :: '"' :: (cs ++ '\x7d' :: rest)) =
                (readMembers rounds ('"' :: (cs ++ '\x7d' :: rest))).map fun r =>
                  (.object r.1, r.2) :=
              rfl
            rw [hline, hmembersLine, List.cons_append, hbrace, ← List.cons_append,
              ← hmembersLine, hread]
            rfl

theorem textual_ofString (s : String) : Textual (.ofString s) :=
  .string (JsonText.valid_ofString s)

theorem textual_ofOption (s : Option String) : Textual (.ofOption s) := by
  cases s with
  | none =>
      exact .null
  | some s =>
      exact textual_ofString s

theorem textual_ofMembers {members : List (String × Json)}
    (h : forall m, m ∈ members -> Textual m.2) : Textual (.ofMembers members) := by
  refine .object ?_ ?_
  · intro m hm
    rcases List.mem_map.mp hm with ⟨named, _, rfl⟩
    exact JsonText.valid_ofString named.1
  · intro m hm
    rcases List.mem_map.mp hm with ⟨named, hnamed, rfl⟩
    exact h named hnamed

theorem Textual.read?_compact {json : Json} (h : Textual json) :
    read? (String.ofList json.compact) = some json := by
  have hread := h.readBack (2 * json.compact.length + 2) [] (by omega)
  rw [List.append_nil] at hread
  unfold read?
  dsimp only
  rw [String.toList_ofList, hread]
  rfl

end Json
end FindingLedger
