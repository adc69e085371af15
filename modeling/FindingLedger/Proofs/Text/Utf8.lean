import FindingLedger.Text.Utf8

/-!
# Characters written and read as UTF-8

A character is read back from the bytes that it is written as, whatever comes after them, so
that characters can be read strictly or leniently from what they are written as. Bytes below
128 are written for characters below 128 alone.
-/

namespace FindingLedger
namespace Text

/-!
# Bytes of one character
-/

section Byte

variable {n : Nat}

theorem toNat_ofNat_of_lt (hn : n < 256) : (UInt8.ofNat n).toNat = n :=
  Nat.mod_eq_of_lt hn

theorem ofNat_lt_iff {b : UInt8} (hn : n < 256) : UInt8.ofNat n < b <-> n < b.toNat := by
  rw [UInt8.lt_iff_toNat_lt, toNat_ofNat_of_lt hn]

theorem ofNat_le_iff {b : UInt8} (hn : n < 256) : UInt8.ofNat n ≤ b <-> n ≤ b.toNat := by
  rw [UInt8.le_iff_toNat_le, toNat_ofNat_of_lt hn]

theorem le_ofNat_iff {b : UInt8} (hn : n < 256) : b ≤ UInt8.ofNat n <-> b.toNat ≤ n := by
  rw [UInt8.le_iff_toNat_le, toNat_ofNat_of_lt hn]

theorem ofNat_eq_iff {b : UInt8} (hn : n < 256) : UInt8.ofNat n = b <-> n = b.toNat := by
  rw [← UInt8.toNat_inj, toNat_ofNat_of_lt hn]

theorem start?_two (hlow : 0xC2 ≤ n) (hhigh : n < 0xE0) :
    Utf8Pending.start? (UInt8.ofNat n) = some ⟨n - 0xC0, 1, 1, 0x80, 0xBF⟩ := by
  have hn : n < 256 := by omega
  unfold Utf8Pending.start?
  simp only [ofNat_lt_iff hn, toNat_ofNat_of_lt hn, UInt8.reduceToNat]
  rw [if_neg (Nat.not_lt.mpr hlow), if_pos hhigh]

theorem start?_three (hlow : 0xE0 ≤ n) (hhigh : n < 0xF0) :
    Utf8Pending.start? (UInt8.ofNat n) =
      some ⟨n - 0xE0, 1, 2, if n = 0xE0 then 0xA0 else 0x80,
        if n = 0xED then 0x9F else 0xBF⟩ := by
  have hn : n < 256 := by omega
  unfold Utf8Pending.start?
  simp only [ofNat_lt_iff hn, toNat_ofNat_of_lt hn, beq_iff_eq, ofNat_eq_iff hn,
    UInt8.reduceToNat]
  rw [if_neg (by omega), if_neg (by omega)]
  split
  · rename_i heq
    rw [if_neg (by omega), heq]
  · split
    · rename_i heq
      rw [heq]
    · rfl

theorem start?_four (hlow : 0xF0 ≤ n) (hhigh : n ≤ 0xF4) :
    Utf8Pending.start? (UInt8.ofNat n) =
      some ⟨n - 0xF0, 1, 3, if n = 0xF0 then 0x90 else 0x80,
        if n = 0xF4 then 0x8F else 0xBF⟩ := by
  have hn : n < 256 := by omega
  unfold Utf8Pending.start?
  simp only [ofNat_lt_iff hn, toNat_ofNat_of_lt hn, beq_iff_eq, ofNat_eq_iff hn,
    UInt8.reduceToNat]
  rw [if_neg (by omega), if_neg (by omega), if_neg (by omega), if_neg (by omega),
    if_neg (by omega)]
  split
  · rename_i heq
    rw [heq]
    rfl
  · split
    · rw [if_neg (by omega)]
    · rw [if_pos (by omega)]
      have heq : n = 0xF4 := by omega
      rw [heq]
      rfl

theorem feedUtf8_of_start? {p : Utf8Pending} (hlow : 0x80 ≤ n) (hn : n < 256)
    (h : Utf8Pending.start? (UInt8.ofNat n) = some p) :
    feedUtf8 none (UInt8.ofNat n) = ([], some p) := by
  have hnot : ¬ UInt8.ofNat n < 0x80 := by
    rw [ofNat_lt_iff hn]
    exact Nat.not_lt.mpr hlow
  show beginUtf8 (UInt8.ofNat n) = _
  unfold beginUtf8
  rw [if_neg hnot, h]

theorem feedUtf8_some {p : Utf8Pending} (hn : n < 64)
    (hlow : p.low.toNat ≤ n + 128) (hhigh : n + 128 ≤ p.high.toNat) :
    feedUtf8 (some p) (UInt8.ofNat (n + 128)) =
      if p.missing = 1 then ([.char (Char.ofNat (64 * p.bits + n))], none)
      else ([], some ⟨64 * p.bits + n, p.seen + 1, p.missing - 1, 0x80, 0xBF⟩) := by
  have hbyte : n + 128 < 256 := by omega
  have haccepts : p.accepts (UInt8.ofNat (n + 128)) = true := by
    unfold Utf8Pending.accepts
    simp only [Bool.and_eq_true, decide_eq_true_eq, le_ofNat_iff hbyte, ofNat_le_iff hbyte]
    exact ⟨hlow, hhigh⟩
  have hbits : p.bitsWith (UInt8.ofNat (n + 128)) = 64 * p.bits + n := by
    unfold Utf8Pending.bitsWith
    rw [toNat_ofNat_of_lt hbyte]
    omega
  unfold feedUtf8 Utf8Pending.next
  dsimp only
  rw [if_pos haccepts, hbits]
  simp only [beq_iff_eq]

end Byte

/-!
# Characters
-/

theorem utf8PiecesAfter_utf8EncodeChar (c : Char) (rest : Bytes) :
    utf8PiecesAfter none (String.utf8EncodeChar c ++ rest) =
      .char c :: utf8PiecesAfter none rest := by
  have hvalid : c.toNat < 0xD800 ∨ 0xDFFF < c.toNat ∧ c.toNat < 0x110000 := c.valid
  have hc : Char.ofNat c.toNat = c := Char.ofNat_toNat c
  unfold String.utf8EncodeChar
  show utf8PiecesAfter none ((if c.toNat ≤ 127 then _ else _) ++ rest) = _
  generalize hv : c.toNat = v at hvalid hc
  have hval : c.val.toNat = v := hv
  simp only [hval]
  -- The code point is put together from the low bits of the bytes.
  split
  · rename_i hone
    have hlt : UInt8.ofNat v < 0x80 := (ofNat_lt_iff (by omega)).mpr (by simp; omega)
    simp only [List.singleton_append, utf8PiecesAfter, feedUtf8, beginUtf8, if_pos hlt,
      toNat_ofNat_of_lt (show v < 256 by omega), hc]
  · split
    · have hfirst := feedUtf8_of_start? (by omega) (by omega)
        (start?_two (n := v / 64 % 32 + 192) (by omega) (by omega))
      simp only [List.cons_append, List.nil_append, utf8PiecesAfter, hfirst]
      rw [feedUtf8_some (by omega) (by simp) (by simp; omega), if_pos rfl]
      have hbits : 64 * (v / 64 % 32 + 192 - 192) + v % 64 = v := by omega
      simp only [hbits, hc, List.singleton_append]
    · split
      · have hfirst := feedUtf8_of_start? (by omega) (by omega)
          (start?_three (n := v / 4096 % 16 + 224) (by omega) (by omega))
        simp only [List.cons_append, List.nil_append, utf8PiecesAfter, hfirst]
        rw [feedUtf8_some (by omega) (by dsimp only; (split <;> simp); omega)
          (by dsimp only; split <;> simp <;> omega)]
        simp only [if_neg (show ¬ 2 = 1 by decide)]
        rw [feedUtf8_some (by omega) (by simp) (by simp; omega)]
        have hbits : 64 * (64 * (v / 4096 % 16 + 224 - 224) + v / 64 % 64) + v % 64 = v := by
          omega
        simp only [hbits, hc, List.singleton_append, List.nil_append, if_pos]
      · have hfirst := feedUtf8_of_start? (by omega) (by omega)
          (start?_four (n := v / 262144 % 8 + 240) (by omega) (by omega))
        simp only [List.cons_append, List.nil_append, utf8PiecesAfter, hfirst]
        rw [feedUtf8_some (by omega) (by dsimp only; (split <;> simp); omega)
          (by dsimp only; split <;> simp <;> omega)]
        simp only [if_neg (show ¬ 3 = 1 by decide)]
        rw [feedUtf8_some (by omega) (by simp) (by simp; omega)]
        simp only [if_neg (show ¬ 3 - 1 = 1 by decide)]
        rw [feedUtf8_some (by omega) (by simp) (by simp; omega)]
        have hbits : 64 * (64 * (64 * (v / 262144 % 8 + 240 - 240) + v / 4096 % 64) +
            v / 64 % 64) + v % 64 = v := by
          omega
        simp only [hbits, hc, List.singleton_append, List.nil_append, if_pos]

/-!
# Texts
-/

theorem encode_append (cs ds : List Char) : encode (cs ++ ds) = encode cs ++ encode ds :=
  List.flatMap_append

theorem utf8Pieces_encode (cs : List Char) : utf8Pieces (encode cs) = cs.map .char := by
  unfold utf8Pieces
  induction cs with
  | nil =>
      rfl
  | cons c cs ih =>
      unfold encode at ih ⊢
      rw [List.flatMap_cons, utf8PiecesAfter_utf8EncodeChar, ih]
      rfl

theorem charsOfPieces_chars (index : Nat) (cs : List Char) :
    charsOfPieces index (cs.map .char) = .ok cs := by
  induction cs generalizing index with
  | nil =>
      rfl
  | cons c cs ih =>
      rw [List.map_cons, charsOfPieces, ih]
      rfl

theorem decode_encode (cs : List Char) : decode (encode cs) = .ok cs := by
  rw [decode, utf8Pieces_encode, charsOfPieces_chars]

theorem decodeLenient_encode (cs : List Char) : decodeLenient (encode cs) = String.ofList cs := by
  have hlenient : Utf8Piece.lenient ∘ Utf8Piece.char = id := rfl
  rw [decodeLenient, utf8Pieces_encode, List.map_map, hlenient, List.map_id]

theorem decodeLenient_bytesOf (s : String) : decodeLenient (bytesOf s) = s := by
  rw [bytesOf, decodeLenient_encode, String.ofList_toList]

/-!
# Bytes of ASCII
-/

theorem utf8EncodeChar_of_lt {c : Char} (hc : c.toNat < 128) :
    String.utf8EncodeChar c = [UInt8.ofNat c.toNat] := by
  unfold String.utf8EncodeChar
  exact if_pos (Nat.le_of_lt_succ hc)

theorem le_of_mem_utf8EncodeChar {c : Char} (hc : 128 ≤ c.toNat) {b : UInt8}
    (hb : b ∈ String.utf8EncodeChar c) : 128 ≤ b.toNat := by
  have hval : c.val.toNat = c.toNat := rfl
  unfold String.utf8EncodeChar at hb
  simp only [hval] at hb
  rw [if_neg (by omega)] at hb
  split at hb
  · simp only [List.mem_cons, List.not_mem_nil, or_false] at hb
    rcases hb with rfl | rfl <;> rw [toNat_ofNat_of_lt (by omega)] <;> omega
  · split at hb
    · simp only [List.mem_cons, List.not_mem_nil, or_false] at hb
      rcases hb with rfl | rfl | rfl <;> rw [toNat_ofNat_of_lt (by omega)] <;> omega
    · simp only [List.mem_cons, List.not_mem_nil, or_false] at hb
      rcases hb with rfl | rfl | rfl | rfl <;> rw [toNat_ofNat_of_lt (by omega)] <;> omega

theorem encode_eq_append_cons {cs : List Char} {front back : Bytes} {b : UInt8}
    (hb : b.toNat < 128) (h : encode cs = front ++ b :: back) :
    exists ds c es, cs = ds ++ c :: es ∧ c.toNat = b.toNat ∧ front = encode ds ∧
      back = encode es := by
  induction cs generalizing front with
  | nil =>
      exact absurd h.symm (List.append_ne_nil_of_right_ne_nil _ (List.cons_ne_nil _ _))
  | cons c cs ih =>
      have hcons : encode (c :: cs) = String.utf8EncodeChar c ++ encode cs := List.flatMap_cons
      -- The byte comes after the first character unless it is that character.
      have hafter : forall front', front = String.utf8EncodeChar c ++ front' ->
          encode cs = front' ++ b :: back ->
          exists ds c' es, c :: cs = ds ++ c' :: es ∧ c'.toNat = b.toNat ∧
            front = encode ds ∧ back = encode es := by
        intro front' hfront hcs
        rcases ih hcs with ⟨ds, c', es, rfl, hc', rfl, hback⟩
        exact ⟨c :: ds, c', es, rfl, hc', by rw [hfront]; rfl, hback⟩
      rw [hcons] at h
      rcases List.append_eq_append_iff.mp h with ⟨front', hfront, hcs⟩ | ⟨inner, hchar, hrest⟩
      · exact hafter front' hfront hcs
      · cases inner with
        | nil =>
            refine hafter [] ?_ hrest.symm
            rw [hchar, List.append_nil, List.append_nil]
        | cons b' inner =>
            rcases List.cons.inj hrest with ⟨rfl, hback⟩
            have hmem : b ∈ String.utf8EncodeChar c := by
              rw [hchar]
              exact List.mem_append_right _ List.mem_cons_self
            have hc : c.toNat < 128 := Nat.lt_of_not_le fun hc =>
              absurd (le_of_mem_utf8EncodeChar hc hmem) (Nat.not_le.mpr hb)
            rw [utf8EncodeChar_of_lt hc] at hchar hmem
            have hbyte : b.toNat = c.toNat := by
              rw [List.mem_singleton.mp hmem, toNat_ofNat_of_lt (by omega)]
            rcases List.append_eq_singleton_iff.mp hchar.symm with ⟨rfl, hinner⟩ | ⟨_, hinner⟩
            · rw [(List.cons.inj hinner).2] at hback
              exact ⟨[], c, cs, rfl, hbyte.symm, rfl, hback⟩
            · cases hinner

theorem encode_eq_nil_iff {cs : List Char} : encode cs = [] <-> cs = [] := by
  constructor
  · intro h
    cases cs with
    | nil =>
        rfl
    | cons c cs =>
        have hlength := String.length_utf8EncodeChar c
        rw [(List.append_eq_nil_iff.mp h).1, List.length_nil] at hlength
        exact absurd c.utf8Size_pos (hlength ▸ Nat.lt_irrefl 0)
  · rintro rfl
    rfl

theorem encode_eq_cons {cs : List Char} {back : Bytes} {b : UInt8} (hb : b.toNat < 128)
    (h : encode cs = b :: back) :
    exists c es, cs = c :: es ∧ c.toNat = b.toNat ∧ back = encode es := by
  have happend : encode cs = [] ++ b :: back := h
  rcases encode_eq_append_cons hb happend with ⟨ds, c, es, rfl, hc, hds, hback⟩
  rw [encode_eq_nil_iff.mp hds.symm]
  exact ⟨c, es, rfl, hc, hback⟩

theorem mem_encode_iff {cs : List Char} {b : UInt8} (hb : b.toNat < 128) :
    b ∈ encode cs <-> exists c, c ∈ cs ∧ c.toNat = b.toNat := by
  constructor
  · intro h
    rcases List.append_of_mem h with ⟨front, back, heq⟩
    rcases encode_eq_append_cons hb heq with ⟨ds, c, es, rfl, hc, _, _⟩
    exact ⟨c, List.mem_append_right _ List.mem_cons_self, hc⟩
  · rintro ⟨c, hmem, hc⟩
    refine List.mem_flatMap.mpr ⟨c, hmem, ?_⟩
    rw [utf8EncodeChar_of_lt (hc ▸ hb), hc, UInt8.ofNat_toNat]
    exact List.mem_singleton_self _

/-!
# Bytes at the end of others
-/

def Utf8Pending.Above (p : Utf8Pending) : Prop :=
  0x80 ≤ p.low

theorem above_of_start? {b : UInt8} {p : Utf8Pending} (h : Utf8Pending.start? b = some p) :
    p.Above := by
  have hall : (Utf8Pending.start? b).all (fun p => decide (0x80 ≤ p.low)) = true := by
    unfold Utf8Pending.start?
    repeat' split
    all_goals rfl
  rw [h, Option.all_some, decide_eq_true_eq] at hall
  exact hall

theorem above_of_feedUtf8 {pending : Option Utf8Pending}
    (h : forall p, pending = some p -> p.Above) (b : UInt8) {p : Utf8Pending}
    (hp : (feedUtf8 pending b).2 = some p) : p.Above := by
  have hbegin : (beginUtf8 b).2 = some p -> p.Above := by
    intro hb
    unfold beginUtf8 at hb
    split at hb
    · cases hb
    · cases hstart : Utf8Pending.start? b with
      | none =>
          rw [hstart] at hb
          cases hb
      | some q =>
          rw [hstart] at hb
          cases hb
          exact above_of_start? hstart
  cases pending with
  | none =>
      exact hbegin hp
  | some q =>
      rw [feedUtf8] at hp
      split at hp
      · split at hp
        · cases hp
        · rw [← Option.some.inj hp]
          exact UInt8.le_refl 0x80
      · exact hbegin hp

theorem utf8PiecesAfter_concat {b : UInt8} (hb : b < 0x80) {pending : Option Utf8Pending}
    (h : forall p, pending = some p -> p.Above) (bytes : Bytes) :
    (utf8PiecesAfter pending (bytes ++ [b])).map Utf8Piece.lenient =
      (utf8PiecesAfter pending bytes).map Utf8Piece.lenient ++ [Char.ofNat b.toNat] := by
  induction bytes generalizing pending with
  | nil =>
      have hbegin : beginUtf8 b = ([.char (Char.ofNat b.toNat)], none) := if_pos hb
      cases pending with
      | none =>
          simp [utf8PiecesAfter, feedUtf8, hbegin, Utf8Piece.lenient]
      | some p =>
          have hnot : p.accepts b = false := by
            have hlow : ¬ p.low ≤ b := fun hle =>
              absurd hb (UInt8.not_lt.mpr (UInt8.le_trans (h p rfl) hle))
            simp [Utf8Pending.accepts, hlow]
          simp [utf8PiecesAfter, feedUtf8, hnot, hbegin, Utf8Piece.lenient]
  | cons c bytes ih =>
      have hnext : forall p, (feedUtf8 pending c).2 = some p -> p.Above := fun p hp =>
        above_of_feedUtf8 h c hp
      rw [List.cons_append, utf8PiecesAfter, utf8PiecesAfter, List.map_append, List.map_append,
        ih hnext, List.append_assoc]

theorem decodeLenient_concat {b : UInt8} (hb : b < 0x80) (bytes : Bytes) :
    (decodeLenient (bytes ++ [b])).toList =
      (decodeLenient bytes).toList ++ [Char.ofNat b.toNat] := by
  have hnone : forall p, (none : Option Utf8Pending) = some p -> p.Above := by
    intro p hp
    cases hp
  simp only [decodeLenient, String.toList_ofList, utf8Pieces, utf8PiecesAfter_concat hb hnone]

end Text
end FindingLedger
