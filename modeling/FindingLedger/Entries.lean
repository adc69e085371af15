/-!
# Entries

A dictionary is written as its list of entries. Each key stands once, at the place where
it was first put, with the value that was put last: `get?_put_self` and `get?_put_of_ne` say
what a key gives afterwards, `keys_put` where it stands.
-/

namespace FindingLedger

abbrev Entries (α : Type u) := List (String × α)

namespace Entries

variable {κ : Type} {α : Type u}

def keys (entries : List (κ × α)) : List κ :=
  entries.map Prod.fst

variable [DecidableEq κ]

def get? (entries : List (κ × α)) (key : κ) : Option α :=
  (entries.find? fun entry => entry.1 == key).map Prod.snd

def has (entries : List (κ × α)) (key : κ) : Bool :=
  entries.any fun entry => entry.1 == key

/-- Puts a value under a key: in place of the old value, or else at the end. -/
def put : List (κ × α) → κ → α → List (κ × α)
  | [], key, value => [(key, value)]
  | (k, v) :: rest, key, value =>
      if k == key then (k, value) :: rest else (k, v) :: put rest key value

def putNew (entries : List (κ × α)) (key : κ) (value : α) : List (κ × α) :=
  if has entries key then entries else entries ++ [(key, value)]

/-!
## What a key gives
-/

@[simp] theorem get?_nil (key : κ) : get? ([] : List (κ × α)) key = none :=
  rfl

theorem get?_cons (entry : κ × α) (rest : List (κ × α)) (key : κ) :
    get? (entry :: rest) key = if entry.1 = key then some entry.2 else get? rest key := by
  by_cases h : entry.1 = key <;> simp [get?, h]

theorem has_iff_mem_keys (entries : List (κ × α)) (key : κ) :
    has entries key = true ↔ key ∈ keys entries := by
  simp [has, keys]

theorem get?_put_self (entries : List (κ × α)) (key : κ) (value : α) :
    get? (put entries key value) key = some value := by
  induction entries with
  | nil => simp [put, get?_cons]
  | cons entry rest ih =>
      by_cases h : entry.1 = key <;> simp [put, get?_cons, h, ih]

theorem get?_put_of_ne (entries : List (κ × α)) {key other : κ} (value : α)
    (h : key ≠ other) : get? (put entries key value) other = get? entries other := by
  induction entries with
  | nil => simp [put, get?_cons, h]
  | cons entry rest ih =>
      by_cases hk : entry.1 = key
      · simp [put, get?_cons, hk, h]
      · simp [put, get?_cons, hk, ih]

theorem keys_put (entries : List (κ × α)) (key : κ) (value : α) :
    keys (put entries key value) =
      if key ∈ keys entries then keys entries else keys entries ++ [key] := by
  induction entries with
  | nil => simp [put, keys]
  | cons entry rest ih =>
      simp only [keys] at ih
      by_cases hk : entry.1 = key
      · simp [put, keys, hk]
      · have hk' : ¬ key = entry.1 := fun e => hk e.symm
        by_cases hr : key ∈ List.map Prod.fst rest
        · simp [put, keys, hk, hk', ih, hr]
        · simp [put, keys, hk, hk', ih, hr]

end Entries

end FindingLedger
