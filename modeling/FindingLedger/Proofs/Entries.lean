import Mathlib.Data.List.Induction
import Mathlib.Data.List.Nodup
import FindingLedger.Entries

/-!
# What lists of entries hold

A dictionary whose keys all differ gives the same for a key in whatever order its entries
stand. One that is put together entry by entry holds each key once, where the key was first
put, with the value that was put last, or with the value that was put first if later ones do
not count.
-/

namespace FindingLedger
namespace Entries

section Keys

variable {κ : Type} {α : Type u} [DecidableEq κ]

/-!
# What a key gives
-/

theorem get?_append (entries others : List (κ × α)) (key : κ) :
    get? (entries ++ others) key = (get? entries key).or (get? others key) := by
  unfold get?
  rw [List.find?_append]
  cases entries.find? fun entry => entry.1 == key <;> rfl

theorem mem_of_get?_eq_some {entries : List (κ × α)} {key : κ} {value : α}
    (h : get? entries key = some value) : (key, value) ∈ entries := by
  rcases Option.map_eq_some_iff.mp h with ⟨entry, hfind, rfl⟩
  have hkey := List.find?_some hfind
  rw [beq_iff_eq] at hkey
  rw [← hkey]
  exact List.mem_of_find?_eq_some hfind

theorem isSome_get?_iff {entries : List (κ × α)} {key : κ} :
    (get? entries key).isSome = true <-> key ∈ keys entries := by
  rw [← has_iff_mem_keys, get?, Option.isSome_map, List.find?_isSome, has, List.any_eq_true]

theorem get?_eq_none_iff {entries : List (κ × α)} {key : κ} :
    get? entries key = none <-> key ∉ keys entries := by
  rw [← isSome_get?_iff, Option.not_isSome_iff_eq_none]

theorem put_eq_self {entries : List (κ × α)} {key : κ} {value : α}
    (h : get? entries key = some value) : put entries key value = entries := by
  induction entries with
  | nil =>
      cases h
  | cons entry rest ih =>
      rw [get?_cons] at h
      unfold put
      by_cases hkey : entry.1 = key
      · rw [if_pos hkey] at h
        rw [if_pos (beq_iff_eq.mpr hkey), ← Option.some.inj h]
      · rw [if_neg hkey] at h
        rw [if_neg (mt beq_iff_eq.mp hkey), ih h]

theorem get?_eq_of_mem_iff {entries : List (κ × α)} {key : κ} {value? : Option α}
    (h : forall value, (key, value) ∈ entries <-> value? = some value) :
    get? entries key = value? := by
  induction entries generalizing value? with
  | nil =>
      cases value? with
      | none =>
          rfl
      | some value =>
          exact absurd ((h value).mpr rfl) List.not_mem_nil
  | cons entry rest ih =>
      rw [get?_cons]
      split
      · rename_i hkey
        refine ((h entry.2).mp ?_).symm
        rw [← hkey]
        exact List.mem_cons_self
      · rename_i hkey
        refine ih ?_
        intro value
        rw [← h, List.mem_cons]
        constructor
        · exact Or.inr
        · rintro (heq | hrest)
          · exact absurd (congrArg Prod.fst heq).symm hkey
          · exact hrest

theorem get?_eq_some_of_mem {entries : List (κ × α)} (hkeys : (keys entries).Nodup)
    {entry : κ × α} (h : entry ∈ entries) : get? entries entry.1 = some entry.2 := by
  refine get?_eq_of_mem_iff ?_
  intro value
  constructor
  · intro hmem
    exact congrArg (fun e => some e.2) (List.inj_on_of_nodup_map hkeys h hmem rfl)
  · intro heq
    rw [← Option.some.inj heq]
    exact h

theorem get?_eq_of_perm {entries others : List (κ × α)} (hkeys : (keys entries).Nodup)
    (h : entries.Perm others) (key : κ) : get? entries key = get? others key := by
  have hkeys' : (keys others).Nodup :=
    (h.map Prod.fst).nodup_iff.mp hkeys
  cases hget : get? others key with
  | none =>
      rw [get?_eq_none_iff] at hget ⊢
      exact fun hmem => hget ((h.map Prod.fst).mem_iff.mp hmem)
  | some value =>
      exact get?_eq_some_of_mem hkeys (h.mem_iff.mpr (mem_of_get?_eq_some hget))

end Keys

variable {α : Type u}

/-!
# Entries in any order
-/

def written (fields : List (String × Option α)) : Entries α :=
  fields.filterMap fun field => field.2.map fun value => (field.1, value)

def Arranges (entries : Entries α) (fields : List (String × Option α)) : Prop :=
  entries.Perm (written fields)

theorem Arranges.of_eq_reverse {entries : Entries α} {fields : List (String × Option α)}
    (h : entries = (written fields).reverse) : Arranges entries fields := by
  rw [h]
  exact List.reverse_perm _

theorem mem_written_iff {fields : List (String × Option α)} {key : String} {value : α} :
    (key, value) ∈ written fields <-> (key, some value) ∈ fields := by
  unfold written
  rw [List.mem_filterMap]
  constructor
  · rintro ⟨⟨name, value?⟩, hfield, hsome⟩
    rcases Option.map_eq_some_iff.mp hsome with ⟨v, hv, heq⟩
    cases heq
    rw [← hv]
    exact hfield
  · intro h
    exact ⟨(key, some value), h, rfl⟩

theorem Arranges.get?_eq {entries : Entries α} {fields : List (String × Option α)}
    (h : Arranges entries fields) (hkeys : (fields.map Prod.fst).Nodup) {key : String}
    {value? : Option α} (hfield : (key, value?) ∈ fields) : get? entries key = value? := by
  refine get?_eq_of_mem_iff ?_
  intro value
  rw [h.mem_iff, mem_written_iff]
  constructor
  · intro hmem
    exact congrArg Prod.snd (List.inj_on_of_nodup_map hkeys hfield hmem rfl)
  · intro heq
    rw [← heq]
    exact hfield

/-!
# Entries put one after the other
-/

def ofList (entries : Entries α) : Entries α :=
  entries.foldl (fun dict entry => put dict entry.1 entry.2) []

def settled (entries : Entries α) : Entries α :=
  (keys entries).eraseDups.filterMap fun key =>
    (get? entries.reverse key).map fun value => (key, value)

theorem ofList_concat (entries : Entries α) (entry : String × α) :
    ofList (entries ++ [entry]) = put (ofList entries) entry.1 entry.2 :=
  List.foldl_concat _ _ _ _

theorem eraseDups_concat (ks : List String) (key : String) :
    (ks ++ [key]).eraseDups = if key ∈ ks then ks.eraseDups else ks.eraseDups ++ [key] := by
  rw [List.eraseDups_append]
  split
  · rename_i hmem
    simp [List.removeAll, hmem]
  · rename_i hmem
    simp [List.removeAll, hmem, List.eraseDups_cons]

theorem nodup_eraseDups (ks : List String) : ks.eraseDups.Nodup := by
  induction ks using List.reverseRecOn with
  | nil =>
      exact List.nodup_nil
  | append_singleton ks key ih =>
      rw [eraseDups_concat]
      split
      · exact ih
      · rename_i hnew
        refine List.nodup_append.mpr ⟨ih, List.nodup_singleton _, ?_⟩
        intro earlier hearlier last hlast heq
        rw [List.mem_singleton.mp hlast] at heq
        exact hnew (List.mem_eraseDups.mp (heq ▸ hearlier))

theorem keys_ofList (entries : Entries α) : keys (ofList entries) = (keys entries).eraseDups := by
  induction entries using List.reverseRecOn with
  | nil =>
      rfl
  | append_singleton entries entry ih =>
      have hkeys : keys (entries ++ [entry]) = keys entries ++ [entry.1] := List.map_append
      rw [ofList_concat, keys_put, ih, hkeys, eraseDups_concat]
      simp only [List.mem_eraseDups]

theorem get?_ofList (entries : Entries α) (key : String) :
    get? (ofList entries) key = get? entries.reverse key := by
  induction entries using List.reverseRecOn with
  | nil =>
      rfl
  | append_singleton entries entry ih =>
      rw [ofList_concat, List.reverse_concat, get?_cons]
      split
      · rename_i hkey
        rw [hkey, get?_put_self]
      · rename_i hkey
        rw [get?_put_of_ne _ _ hkey, ih]

theorem nodup_keys_ofList (entries : Entries α) : (keys (ofList entries)).Nodup := by
  rw [keys_ofList]
  exact nodup_eraseDups _

theorem eq_of_keys {dict : Entries α} (h : (keys dict).Nodup) :
    dict = (keys dict).filterMap fun key =>
      (get? dict key).map fun value => (key, value) := by
  induction dict with
  | nil =>
      rfl
  | cons entry rest ih =>
      rcases List.nodup_cons.mp h with ⟨hnew, hrest⟩
      have htail : ((keys rest).filterMap fun key =>
          (get? (entry :: rest) key).map fun value => (key, value)) =
          (keys rest).filterMap fun key => (get? rest key).map fun value => (key, value) := by
        refine List.filterMap_congr fun key hkey => ?_
        have hne : entry.1 ≠ key := fun heq => hnew (heq ▸ hkey)
        rw [get?_cons, if_neg hne]
      show _ = List.filterMap _ (entry.1 :: keys rest)
      rw [List.filterMap_cons, htail, ← ih hrest, get?_cons, if_pos rfl]
      rfl

theorem ofList_eq_settled (entries : Entries α) : ofList entries = settled entries := by
  rw [eq_of_keys (nodup_keys_ofList entries), keys_ofList]
  unfold settled
  simp only [get?_ofList]

/-!
# Entries put where none stands
-/

/-- The dictionary that is made of entries by putting each of them unless its key has a
value. -/
def ofFirsts (entries : Entries α) : Entries α :=
  entries.foldl (fun dict entry => putNew dict entry.1 entry.2) []

theorem keys_putNew (dict : Entries α) (key : String) (value : α) :
    keys (putNew dict key value) =
      if key ∈ keys dict then keys dict else keys dict ++ [key] := by
  unfold putNew
  simp only [has_iff_mem_keys]
  split
  · rfl
  · exact List.map_append

theorem get?_putNew (dict : Entries α) (key other : String) (value : α) :
    get? (putNew dict key value) other =
      (get? dict other).or (if key = other then some value else none) := by
  unfold putNew
  split
  · rename_i hhas
    by_cases heq : key = other
    · subst heq
      rcases Option.isSome_iff_exists.mp (isSome_get?_iff.mpr
        ((has_iff_mem_keys dict key).mp hhas)) with ⟨found, hfound⟩
      rw [hfound, Option.some_or]
    · rw [if_neg heq, Option.or_none]
  · rw [get?_append, get?_cons, get?_nil]

theorem ofFirsts_concat (entries : Entries α) (entry : String × α) :
    ofFirsts (entries ++ [entry]) = putNew (ofFirsts entries) entry.1 entry.2 :=
  List.foldl_concat _ _ _ _

theorem keys_ofFirsts (entries : Entries α) :
    keys (ofFirsts entries) = (keys entries).eraseDups := by
  induction entries using List.reverseRecOn with
  | nil =>
      rfl
  | append_singleton entries entry ih =>
      have hkeys : keys (entries ++ [entry]) = keys entries ++ [entry.1] := List.map_append
      rw [ofFirsts_concat, keys_putNew, ih, hkeys, eraseDups_concat]
      simp only [List.mem_eraseDups]

theorem get?_ofFirsts (entries : Entries α) (key : String) :
    get? (ofFirsts entries) key = get? entries key := by
  induction entries using List.reverseRecOn with
  | nil =>
      rfl
  | append_singleton entries entry ih =>
      rw [ofFirsts_concat, get?_putNew, ih, get?_append, get?_cons, get?_nil]

theorem nodup_keys_ofFirsts (entries : Entries α) : (keys (ofFirsts entries)).Nodup := by
  rw [keys_ofFirsts]
  exact nodup_eraseDups _

end Entries
end FindingLedger
