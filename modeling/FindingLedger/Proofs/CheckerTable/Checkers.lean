import FindingLedger.CheckerTable.Builtin
import FindingLedger.CheckerTable.Read
import FindingLedger.Proofs.Entries

/-!
# The checkers of a table

A table gives no checker that none of its descriptions and patterns has. A table that has been
read has the checkers of its rows, without the blanks around them, and none of them is empty.
-/

namespace FindingLedger
namespace CheckerTable

def checkers (t : CheckerTable) : List String :=
  t.exact.map Prod.snd ++ t.patterns.map Prod.snd

theorem mem_checkers_of_lookup? {t : CheckerTable} {description checker : String}
    (h : t.lookup? description = some checker) : checker ∈ t.checkers := by
  unfold lookup? at h
  dsimp only at h
  apply List.mem_append.mpr
  split at h
  · rename_i found hfound
    cases h
    apply Or.inl
    exact List.mem_map.mpr ⟨_, Entries.mem_of_get?_eq_some hfound, rfl⟩
  · rcases Option.map_eq_some_iff.mp h with ⟨row, hrow, rfl⟩
    apply Or.inr
    exact List.mem_map.mpr ⟨row, List.mem_of_find?_eq_some hrow, rfl⟩

/-!
# Tables made of rows
-/

/-- Whether a row gives a checker: its own, without blanks at the ends. -/
def Gives (e : CheckerEntry) (checker : String) : Prop :=
  Text.trim e.checker = checker ∧ checker ≠ ""

theorem mem_checkers_addDescription {t : CheckerTable} {description name checker : String}
    (h : checker ∈ (t.addDescription description name).checkers) :
    checker ∈ t.checkers ∨ name = checker := by
  unfold addDescription checkers Entries.putNew at h
  dsimp only at h
  split at h
  · exact Or.inl h
  · rw [List.map_append, List.mem_append, List.mem_append] at h
    rcases h with (hexact | hnew) | hpattern
    · exact Or.inl (List.mem_append_left _ hexact)
    · exact Or.inr (List.mem_singleton.mp hnew).symm
    · exact Or.inl (List.mem_append_right _ hpattern)

theorem mem_checkers_addPattern {t : CheckerTable} {p : Pattern} {name checker : String}
    (h : checker ∈ (t.addPattern p name).checkers) :
    checker ∈ t.checkers ∨ name = checker := by
  unfold addPattern checkers at h
  dsimp only at h
  rw [List.map_append, ← List.append_assoc, List.mem_append] at h
  rcases h with hold | hnew
  · exact Or.inl hold
  · exact Or.inr (List.mem_singleton.mp hnew).symm

theorem mem_checkers_addEntry {t t' : CheckerTable} {index : Nat} {e : CheckerEntry}
    (h : t.addEntry index e = .ok t') {checker : String} (hmem : checker ∈ t'.checkers) :
    checker ∈ t.checkers ∨ Gives e checker := by
  unfold addEntry at h
  dsimp only at h
  split at h
  · cases h
  · rename_i hfilled
    rw [String.isEmpty_iff] at hfilled
    -- Either kind of row adds the checker that it names.
    have hnamed : checker ∈ t.checkers ∨ Text.trim e.checker = checker := by
      split at h
      · cases h
        exact mem_checkers_addDescription hmem
      · split at h
        · cases h
          exact mem_checkers_addPattern hmem
        · cases h
      · cases h
    rcases hnamed with hold | hname
    · exact Or.inl hold
    · exact Or.inr ⟨hname, hname ▸ hfilled⟩

theorem mem_checkers_addEntries {t t' : CheckerTable} {index : Nat}
    {entries : List CheckerEntry} (h : t.addEntries index entries = .ok t')
    {checker : String} (hmem : checker ∈ t'.checkers) :
    checker ∈ t.checkers ∨ exists e, e ∈ entries ∧ Gives e checker := by
  induction entries generalizing t index with
  | nil =>
      cases h
      exact Or.inl hmem
  | cons e rest ih =>
      unfold addEntries at h
      split at h
      · rename_i next hnext
        rcases ih h with hbefore | ⟨e', he', hgives⟩
        · rcases mem_checkers_addEntry hnext hbefore with hold | hgives
          · exact Or.inl hold
          · exact Or.inr ⟨e, List.mem_cons_self, hgives⟩
        · exact Or.inr ⟨e', List.mem_cons_of_mem e he', hgives⟩
      · cases h

theorem exists_entry_of_ofEntries {entries : List CheckerEntry} {t : CheckerTable}
    (h : ofEntries entries = .ok t) {checker : String} (hmem : checker ∈ t.checkers) :
    exists e, e ∈ entries ∧ Gives e checker := by
  rcases mem_checkers_addEntries h hmem with hempty | hentry
  · cases hempty
  · exact hentry

theorem read_eq_ok_iff {document : String} {t : CheckerTable} :
    read document = .ok t <->
      exists entries, (Json.read? document >>= entriesOfJson?) = some entries ∧
        ofEntries entries = .ok t := by
  unfold read
  cases Json.read? document >>= entriesOfJson? with
  | none =>
      simp
  | some entries =>
      simp

/-!
# The built-in table
-/

theorem mem_builtin_checkers {checker : String} (h : checker ∈ builtin.checkers) :
    checker ∈ (builtinDescriptions ++ builtinPatterns).map Prod.snd := by
  -- The patterns stay as they are written; none of them is read here.
  unfold checkers builtin at h
  dsimp only at h
  rw [List.mem_append] at h
  rw [List.map_append]
  rcases h with hexact | hpattern
  · exact List.mem_append_left _ hexact
  · rcases List.mem_map.mp hpattern with ⟨row, hrow, rfl⟩
    rcases List.mem_filterMap.mp hrow with ⟨written, hwritten, hread⟩
    rcases Option.map_eq_some_iff.mp hread with ⟨p, _, rfl⟩
    exact List.mem_append_right _ (List.mem_map.mpr ⟨written, hwritten, rfl⟩)

end CheckerTable
end FindingLedger
