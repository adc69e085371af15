import Mathlib.Data.Finset.Card
import FindingLedger.Proofs.CheckerTable.Checkers

/-!
# Tables as lists of rows

A table keeps its descriptions apart from its patterns. What it answers can still be told from
the list of its rows: rows make a table exactly when each of them is sound, the first that is
not names the fault, and a description has the checker of the first row that lists it, or else
of the first row whose pattern occurs in it.
-/

namespace FindingLedger

namespace CheckerEntry

/-!
# Single rows
-/

/-- Whether a row can be in a table. -/
structure Sound (e : CheckerEntry) : Prop where
  named : Text.trim e.checker ≠ ""
  one : e.description.isSome ≠ e.pattern.isSome
  compiles : forall pattern, e.pattern = some pattern -> (Pattern.read? pattern).isSome = true

/-- The fault of a row of some number that is not sound. That it names no checker goes before
all else. -/
inductive Offends (e : CheckerEntry) (index : Nat) : CheckerTable.Error -> Prop where
  | blank (checker : Text.trim e.checker = "") : Offends e index (.blankChecker index)
  | number (named : Text.trim e.checker ≠ "") (same : e.description.isSome = e.pattern.isSome) :
      Offends e index (.needsOne index)
  | pattern (named : Text.trim e.checker ≠ "") (only : e.description = none) {written : String}
      (pattern : e.pattern = some written) (fails : Pattern.read? written = none) :
      Offends e index .badPattern

def lists (e : CheckerEntry) (description : String) : Bool :=
  e.description == some description

/-- Whether a row has a pattern that occurs in a description. -/
def fits (e : CheckerEntry) (description : String) : Bool :=
  (e.pattern.bind Pattern.read?).any fun p => p.occursIn description.toList

def name (e : CheckerEntry) : String :=
  Text.trim e.checker

end CheckerEntry

namespace CheckerTable

open CheckerEntry (Sound Offends)

/-!
# The table of rows
-/

def descriptionRows (entries : List CheckerEntry) : Entries String :=
  entries.filterMap fun e => e.description.map fun description => (description, e.name)

def patternRows (entries : List CheckerEntry) : List (Pattern × String) :=
  entries.filterMap fun e => (e.pattern.bind Pattern.read?).map fun p => (p, e.name)

def withRows (t : CheckerTable) (entries : List CheckerEntry) : CheckerTable :=
  ⟨(descriptionRows entries).foldl (fun dict entry => Entries.putNew dict entry.1 entry.2) t.exact,
    t.patterns ++ patternRows entries⟩

theorem withRows_nil (t : CheckerTable) : t.withRows [] = t := by
  unfold withRows
  rw [show patternRows [] = [] from rfl, List.append_nil]
  rfl

theorem withRows_append (t : CheckerTable) (entries others : List CheckerEntry) :
    t.withRows (entries ++ others) = (t.withRows entries).withRows others := by
  unfold withRows descriptionRows patternRows
  rw [List.filterMap_append, List.filterMap_append, List.foldl_append, List.append_assoc]

section Steps

variable {t t' : CheckerTable} {index : Nat} {e : CheckerEntry} {fault : Error}

theorem addEntry_of_sound (h : Sound e) (t : CheckerTable) (index : Nat) :
    t.addEntry index e = .ok (t.withRows [e]) := by
  rcases h with ⟨hnamed, hone, hcompiles⟩
  rcases e with ⟨checker, description, pattern⟩
  have hfilled : ¬ (Text.trim checker).isEmpty = true := by
    rwa [String.isEmpty_iff]
  unfold addEntry
  dsimp only
  rw [if_neg hfilled]
  cases description with
  | none =>
      cases pattern with
      | none =>
          exact absurd rfl hone
      | some pattern =>
          rcases Option.isSome_iff_exists.mp (hcompiles pattern rfl) with ⟨p, hp⟩
          dsimp only
          rw [hp]
          simp [withRows, descriptionRows, patternRows, addPattern, CheckerEntry.name, hp]
  | some description =>
      cases pattern with
      | none =>
          simp [withRows, descriptionRows, patternRows, addDescription, CheckerEntry.name]
      | some pattern =>
          exact absurd rfl hone

theorem addEntry_of_offends (h : Offends e index fault) (t : CheckerTable) :
    t.addEntry index e = .error fault := by
  unfold addEntry
  dsimp only
  cases h with
  | blank hchecker =>
      rw [hchecker]
      rfl
  | number hnamed hsame =>
      rw [if_neg (by rwa [String.isEmpty_iff])]
      rcases e with ⟨checker, description, pattern⟩
      cases description with
      | none =>
          cases pattern with
          | none =>
              rfl
          | some pattern =>
              cases hsame
      | some description =>
          cases pattern with
          | none =>
              cases hsame
          | some pattern =>
              rfl
  | pattern hnamed honly hpattern hfails =>
      rw [if_neg (by rwa [String.isEmpty_iff]), honly, hpattern]
      dsimp only
      rw [hfails]

theorem sound_or_offends (e : CheckerEntry) (index : Nat) :
    Sound e ∨ exists fault, Offends e index fault := by
  by_cases hnamed : Text.trim e.checker = ""
  · exact Or.inr ⟨_, .blank hnamed⟩
  · by_cases hone : e.description.isSome = e.pattern.isSome
    · exact Or.inr ⟨_, .number hnamed hone⟩
    · by_cases hcompiles : forall pattern, e.pattern = some pattern ->
        (Pattern.read? pattern).isSome = true
      · exact Or.inl ⟨hnamed, hone, hcompiles⟩
      · rcases not_forall.mp hcompiles with ⟨pattern, hrest⟩
        rcases Classical.not_imp.mp hrest with ⟨hpattern, hfails⟩
        rw [Option.not_isSome_iff_eq_none] at hfails
        refine Or.inr ⟨_, .pattern hnamed ?_ hpattern hfails⟩
        rw [hpattern] at hone
        exact Option.not_isSome_iff_eq_none.mp hone

end Steps

section Runs

variable {entries : List CheckerEntry} {fault : Error}

/-- Rows up to the first that is not sound, with the fault of that row. -/
inductive FirstFault (index : Nat) : List CheckerEntry -> Error -> Prop where
  | found {before after : List CheckerEntry} {e : CheckerEntry} {fault : Error}
      (sound : forall earlier, earlier ∈ before -> Sound earlier)
      (offends : Offends e (index + before.length) fault) :
      FirstFault index (before ++ e :: after) fault

theorem addEntries_append_of_sound {before : List CheckerEntry}
    (h : forall e, e ∈ before -> Sound e) (t : CheckerTable) (index : Nat)
    (after : List CheckerEntry) :
    t.addEntries index (before ++ after) =
      (t.withRows before).addEntries (index + before.length) after := by
  induction before generalizing t index with
  | nil =>
      rw [withRows_nil]
      rfl
  | cons e before ih =>
      rcases List.forall_mem_cons.mp h with ⟨he, hbefore⟩
      rw [List.cons_append, addEntries, addEntry_of_sound he]
      dsimp only
      rw [ih hbefore, ← withRows_append, List.length_cons, Nat.add_assoc, Nat.add_comm 1]
      rfl

theorem addEntries_of_sound (h : forall e, e ∈ entries -> Sound e) (t : CheckerTable)
    (index : Nat) : t.addEntries index entries = .ok (t.withRows entries) := by
  have hwhole := addEntries_append_of_sound h t index []
  rw [List.append_nil] at hwhole
  exact hwhole

theorem addEntries_of_firstFault {index : Nat} (h : FirstFault index entries fault)
    (t : CheckerTable) : t.addEntries index entries = .error fault := by
  cases h with
  | found hsound hoffends =>
      rw [addEntries_append_of_sound hsound, addEntries, addEntry_of_offends hoffends]

theorem sound_or_firstFault (entries : List CheckerEntry) (index : Nat) :
    (forall e, e ∈ entries -> Sound e) ∨ exists fault, FirstFault index entries fault := by
  induction entries generalizing index with
  | nil =>
      exact Or.inl (List.forall_mem_nil _)
  | cons e rest ih =>
      rcases sound_or_offends e index with he | ⟨fault, hoffends⟩
      · rcases ih (index + 1) with hrest | ⟨fault, hfirst⟩
        · exact Or.inl (List.forall_mem_cons.mpr ⟨he, hrest⟩)
        · cases hfirst with
          | @found before after _ _ hsound hoffends =>
              rw [Nat.add_assoc, Nat.add_comm 1, ← List.length_cons (a := e)] at hoffends
              have hbefore := List.forall_mem_cons.mpr ⟨he, hsound⟩
              exact Or.inr ⟨fault, @FirstFault.found _ (e :: before) after _ _ hbefore hoffends⟩
      · exact Or.inr ⟨fault, @FirstFault.found _ [] rest _ _ (List.forall_mem_nil _) hoffends⟩

theorem ofEntries_eq_ok_iff {t : CheckerTable} :
    ofEntries entries = .ok t <->
      (forall e, e ∈ entries -> Sound e) ∧ t = empty.withRows entries := by
  unfold ofEntries
  rcases sound_or_firstFault entries 0 with hsound | ⟨fault, hfirst⟩
  · rw [addEntries_of_sound hsound]
    constructor
    · intro h
      cases h
      exact ⟨hsound, rfl⟩
    · rintro ⟨_, rfl⟩
      rfl
  · have hfault := addEntries_of_firstFault hfirst empty
    constructor
    · intro h
      cases hfault.symm.trans h
    · rintro ⟨hsound, _⟩
      cases hfault.symm.trans (addEntries_of_sound hsound empty 0)

theorem ofEntries_eq_error_iff :
    ofEntries entries = .error fault <-> FirstFault 0 entries fault := by
  unfold ofEntries
  constructor
  · intro h
    rcases sound_or_firstFault entries 0 with hsound | ⟨fault', hfirst⟩
    · cases h.symm.trans (addEntries_of_sound hsound empty 0)
    · cases h.symm.trans (addEntries_of_firstFault hfirst empty)
      exact hfirst
  · intro h
    exact addEntries_of_firstFault h empty

end Runs

/-!
# What the table answers
-/

section Answers

variable {entries : List CheckerEntry}

/-- The checker that rows give to a description: of the first row that lists it, or else of the
first row whose pattern occurs in it. Blanks around the description do not count. -/
def resolve? (entries : List CheckerEntry) (description : String) : Option String :=
  let text := Text.trim description
  ((entries.find? fun e => e.lists text).or (entries.find? fun e => e.fits text)).map
    CheckerEntry.name

theorem get?_descriptionRows (entries : List CheckerEntry) (text : String) :
    Entries.get? (descriptionRows entries) text =
      (entries.find? fun e => e.lists text).map CheckerEntry.name := by
  induction entries with
  | nil =>
      rfl
  | cons e rest ih =>
      unfold descriptionRows at ih ⊢
      rw [List.filterMap_cons, List.find?_cons]
      unfold CheckerEntry.lists at ih ⊢
      cases hdescription : e.description with
      | none =>
          exact ih
      | some description =>
          dsimp only [Option.map_some]
          rw [Entries.get?_cons]
          by_cases hsame : description = text
          · rw [if_pos hsame, hsame, beq_self_eq_true]
            rfl
          · have hother : (some description == some text) = false := by
              simpa using hsame
            rw [if_neg hsame, hother]
            exact ih

theorem find?_patternRows (entries : List CheckerEntry) (text : String) :
    ((patternRows entries).find? fun row => row.1.occursIn text.toList).map Prod.snd =
      (entries.find? fun e => e.fits text).map CheckerEntry.name := by
  induction entries with
  | nil =>
      rfl
  | cons e rest ih =>
      unfold patternRows at ih ⊢
      rw [List.filterMap_cons, List.find?_cons]
      unfold CheckerEntry.fits at ih ⊢
      cases hpattern : e.pattern.bind Pattern.read? with
      | none =>
          exact ih
      | some p =>
          dsimp only [Option.map_some]
          rw [List.find?_cons, Option.any_some]
          cases hoccurs : p.occursIn text.toList with
          | true =>
              rfl
          | false =>
              exact ih

theorem lookup?_withRows (entries : List CheckerEntry) (description : String) :
    (empty.withRows entries).lookup? description = resolve? entries description := by
  have hexact : Entries.get? (empty.withRows entries).exact (Text.trim description) =
      (entries.find? fun e => e.lists (Text.trim description)).map CheckerEntry.name := by
    rw [← get?_descriptionRows]
    exact Entries.get?_ofFirsts _ _
  have hpatterns := find?_patternRows entries (Text.trim description)
  unfold lookup? resolve?
  dsimp only
  rw [hexact]
  cases entries.find? fun e => e.lists (Text.trim description) with
  | none =>
      exact hpatterns
  | some e =>
      rfl

/-- The number of descriptions that rows list, each counted once, and of their patterns. -/
def rowCount (entries : List CheckerEntry) : Nat :=
  (entries.filterMap CheckerEntry.description).toFinset.card +
    entries.countP fun e => e.pattern.isSome

theorem keys_descriptionRows (entries : List CheckerEntry) :
    Entries.keys (descriptionRows entries) = entries.filterMap CheckerEntry.description := by
  unfold Entries.keys descriptionRows
  rw [List.map_filterMap]
  refine List.filterMap_congr fun e _ => ?_
  rw [Option.map_map]
  exact Option.map_id'

theorem length_patternRows (h : forall e, e ∈ entries -> Sound e) :
    (patternRows entries).length = entries.countP fun e => e.pattern.isSome := by
  unfold patternRows
  rw [List.length_filterMap_eq_countP]
  refine List.countP_congr fun e he => ?_
  rw [Option.isSome_map]
  cases hpattern : e.pattern with
  | none =>
      rfl
  | some pattern =>
      exact iff_of_true ((h e he).compiles pattern hpattern) rfl

theorem size_withRows (h : forall e, e ∈ entries -> Sound e) :
    (empty.withRows entries).size = rowCount entries := by
  have hexact : (empty.withRows entries).exact.length =
      (entries.filterMap CheckerEntry.description).toFinset.card := by
    rw [← keys_descriptionRows, ← List.length_map (f := Prod.fst)]
    change (Entries.keys (Entries.ofFirsts (descriptionRows entries))).length = _
    rw [← List.toFinset_card_of_nodup (Entries.nodup_keys_ofFirsts _), Entries.keys_ofFirsts]
    congr 1
    ext key
    rw [List.mem_toFinset, List.mem_toFinset, List.mem_eraseDups]
  have hpatterns : (empty.withRows entries).patterns.length =
      entries.countP fun e => e.pattern.isSome :=
    length_patternRows h
  unfold size rowCount
  rw [hexact, hpatterns]

end Answers

end CheckerTable
end FindingLedger
