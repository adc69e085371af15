import Mathlib.Data.List.Perm.Basic
import FindingLedger.Proofs.CheckerTable.Rows
import FindingLedger.Proofs.Json.RoundTrip
import FindingLedger.Proofs.Sequencing

/-!
# Documents of rows

A document lists rows as objects whose members stand in any order, where a text that is absent
is left out or null. Whatever order and spelling are chosen, the document is read as the rows
that it lists, so that the table and its faults are those of the list. Every list of rows has
such a document.
-/

namespace FindingLedger

namespace CheckerTable

/-!
# Rows as they are written
-/

/-- The members written for a text that may be absent: none or a null if it is. -/
inductive WritesOption (name : String) : Option String -> List (JsonText × Json) -> Prop where
  | absent : WritesOption name none []
  | null : WritesOption name none [(JsonText.ofString name, .null)]
  | text (s : String) : WritesOption name (some s) [(JsonText.ofString name, .ofString s)]

/-- Whether a value is an object that is written for a row, its members in any order. -/
inductive WritesRow (e : CheckerEntry) : Json -> Prop where
  | object {members description pattern : List (JsonText × Json)}
      (listed : WritesOption "description" e.description description)
      (searched : WritesOption "pattern" e.pattern pattern)
      (arranged : members.Perm
        ((JsonText.ofString "checker", .ofString e.checker) :: (description ++ pattern))) :
      WritesRow e (.object members)

/-- Whether a value is an object that lists rows. -/
inductive WritesTable (entries : List CheckerEntry) : Json -> Prop where
  | object {rows : List Json} (each : List.Forall₂ WritesRow entries rows) :
      WritesTable entries (.object [(JsonText.ofString "checkers", .array rows)])

section Members

variable {members others : List (JsonText × Json)} {name : String} {text : Option String}

theorem membersOf_append (members others : List (JsonText × Json)) (name : String) :
    membersOf (members ++ others) name = membersOf members name ++ membersOf others name := by
  unfold membersOf
  rw [List.filter_append, List.map_append]

theorem membersOf_perm (h : members.Perm others) (name : String) :
    (membersOf members name).Perm (membersOf others name) :=
  (h.filter _).map _

theorem WritesOption.membersOf_of_ne {other : String} (h : WritesOption other text members)
    (hne : (JsonText.ofString other == JsonText.ofString name) = false) :
    membersOf members name = [] := by
  unfold membersOf
  cases h with
  | absent =>
      rfl
  | null | text =>
      rw [List.filter_cons_of_neg (by simp [hne])]
      rfl

theorem WritesOption.name_of_mem (h : WritesOption name text members) {m : JsonText × Json}
    (hm : m ∈ members) : m.1 = JsonText.ofString name := by
  cases h with
  | absent =>
      cases hm
  | null | text =>
      rw [List.mem_singleton.mp hm]

theorem WritesOption.optionalMember_eq (h : WritesOption name text members)
    (hsame : (membersOf others name).Perm (membersOf members name)) :
    optionalMember others name = some text := by
  unfold optionalMember
  cases h with
  | absent =>
      have hnone : membersOf others name = [] := hsame.eq_nil
      rw [hnone]
  | null =>
      have hnull : membersOf others name = [.null] := by
        rw [← List.perm_singleton]
        simpa [membersOf] using hsame
      rw [hnull]
      rfl
  | text s =>
      have htext : membersOf others name = [.ofString s] := by
        rw [← List.perm_singleton]
        simpa [membersOf] using hsame
      rw [htext]
      exact congrArg (Option.map some) (JsonText.toString?_ofString s)

end Members

theorem WritesRow.entryOfJson?_eq {e : CheckerEntry} {row : Json} (h : WritesRow e row) :
    entryOfJson? row = some e := by
  cases h with
  | @object members description pattern hdescription hpattern harranged =>
      have hmembers (name : String) : (membersOf members name).Perm
          (membersOf [(JsonText.ofString "checker", .ofString e.checker)] name ++
            (membersOf description name ++ membersOf pattern name)) := by
        rw [← membersOf_append, ← membersOf_append]
        exact membersOf_perm harranged name
      have hchecker : requiredMember members "checker" = some (.ofString e.checker) := by
        have honly := hmembers "checker"
        rw [hdescription.membersOf_of_ne rfl, hpattern.membersOf_of_ne rfl] at honly
        unfold requiredMember
        rw [List.perm_singleton.mp honly]
      have hlisted : optionalMember members "description" = some e.description := by
        have honly := hmembers "description"
        rw [hpattern.membersOf_of_ne rfl, List.append_nil] at honly
        exact hdescription.optionalMember_eq honly
      have hsearched : optionalMember members "pattern" = some e.pattern := by
        have honly := hmembers "pattern"
        rw [hdescription.membersOf_of_ne rfl] at honly
        exact hpattern.optionalMember_eq honly
      have hknown : (members.all fun m => isEntryMember m.1) = true := by
        refine List.all_eq_true.mpr fun m hm => ?_
        rcases List.mem_cons.mp (harranged.mem_iff.mp hm) with rfl | hrest
        · rfl
        · rcases List.mem_append.mp hrest with hm | hm
          · rw [hdescription.name_of_mem hm]
            rfl
          · rw [hpattern.name_of_mem hm]
            rfl
      have htext : asText (.ofString e.checker) = some e.checker :=
        JsonText.toString?_ofString e.checker
      unfold entryOfJson?
      dsimp only
      rw [if_pos hknown, hchecker, hlisted, hsearched]
      dsimp only [Option.bind_eq_bind, Option.bind_some]
      rw [htext]
      rfl

theorem WritesTable.entriesOfJson?_eq {entries : List CheckerEntry} {json : Json}
    (h : WritesTable entries json) : entriesOfJson? json = some entries := by
  cases h with
  | @object rows heach =>
      have hrows : rows.mapM entryOfJson? = some entries := by
        induction heach with
        | nil =>
            rfl
        | cons hrow _ ih =>
            rw [List.mapM_cons, hrow.entryOfJson?_eq, ih]
            rfl
      exact hrows

/-!
# Rows that are written
-/

def rowJson (e : CheckerEntry) : Json :=
  .ofMembers [("checker", .ofString e.checker), ("description", .ofOption e.description),
    ("pattern", .ofOption e.pattern)]

def tableJson (entries : List CheckerEntry) : Json :=
  .ofMembers [("checkers", .array (entries.map rowJson))]

def tableText (entries : List CheckerEntry) : String :=
  String.ofList (tableJson entries).compact

theorem writesOption_ofOption (name : String) (text : Option String) :
    WritesOption name text [(JsonText.ofString name, .ofOption text)] := by
  cases text with
  | none =>
      exact .null
  | some text =>
      exact .text text

theorem writesTable_tableJson (entries : List CheckerEntry) :
    WritesTable entries (tableJson entries) := by
  refine .object (List.forall₂_map_right_iff.mpr (List.forall₂_same.mpr fun e _ => ?_))
  exact .object (writesOption_ofOption _ _) (writesOption_ofOption _ _) (List.Perm.refl _)

theorem textual_rowJson (e : CheckerEntry) : (rowJson e).Textual := by
  refine Json.textual_ofMembers ?_
  rw [List.forall_mem_cons, List.forall_mem_cons, List.forall_mem_singleton]
  exact ⟨Json.textual_ofString _, Json.textual_ofOption _, Json.textual_ofOption _⟩

theorem read?_tableText (entries : List CheckerEntry) :
    Json.read? (tableText entries) = some (tableJson entries) := by
  refine Json.Textual.read?_compact (Json.textual_ofMembers ?_)
  refine List.forall_mem_singleton.mpr (.array fun row hrow => ?_)
  rcases List.mem_map.mp hrow with ⟨e, _, rfl⟩
  exact textual_rowJson e

theorem rows_tableText (entries : List CheckerEntry) :
    (Json.read? (tableText entries) >>= entriesOfJson?) = some entries := by
  rw [read?_tableText, Option.bind_eq_bind, Option.bind_some,
    (writesTable_tableJson entries).entriesOfJson?_eq]

/-!
# The table that is read
-/

theorem read_of_writesTable {document : String} {json : Json} {entries : List CheckerEntry}
    (hdocument : Json.read? document = some json) (htable : WritesTable entries json) :
    read document = ofEntries entries := by
  unfold read
  rw [hdocument, Option.bind_eq_bind, Option.bind_some, htable.entriesOfJson?_eq]

/-- A document that lists rows is read exactly when all of them are sound, and otherwise it has
the fault of the first that is not. The table that is read has as many descriptions and patterns
as the rows and gives every description the checker that they give it. -/
theorem read_iff_of_writesTable {document : String} {json : Json} {entries : List CheckerEntry}
    (hdocument : Json.read? document = some json) (htable : WritesTable entries json) :
    ((exists t, read document = .ok t) <-> forall e, e ∈ entries -> e.Sound) ∧
      (forall fault, read document = .error fault <-> FirstFault 0 entries fault) ∧
      forall t, read document = .ok t ->
        (forall description, t.lookup? description = resolve? entries description) ∧
          t.size = rowCount entries := by
  rw [read_of_writesTable hdocument htable]
  refine ⟨?_, ?_, ?_⟩
  · constructor
    · rintro ⟨t, ht⟩
      exact (ofEntries_eq_ok_iff.mp ht).1
    · intro hsound
      exact ⟨_, ofEntries_eq_ok_iff.mpr ⟨hsound, rfl⟩⟩
  · intro fault
    exact ofEntries_eq_error_iff
  · intro t ht
    rcases ofEntries_eq_ok_iff.mp ht with ⟨hsound, rfl⟩
    exact ⟨lookup?_withRows entries, size_withRows hsound⟩

/-- A row with a pattern before one that lists a description in which the pattern occurs. -/
def storeRows : List CheckerEntry :=
  [⟨"core.Any", none, some "store"⟩, ⟨" deadcode.DeadStores ", some "Dead store", none⟩]

theorem read_iff_of_writesTable_storeRows :
    Json.read? (tableText storeRows) = some (tableJson storeRows) ∧
      WritesTable storeRows (tableJson storeRows) ∧
      exists t, read (tableText storeRows) = .ok t ∧
        t.lookup? "Dead store " = some "deadcode.DeadStores" ∧
        t.lookup? "My store" = some "core.Any" ∧ t.lookup? "Leak" = none ∧ t.size = 2 := by
  have hdocument := read?_tableText storeRows
  have htable := writesTable_tableJson storeRows
  rcases read_iff_of_writesTable hdocument htable with ⟨haccepted, _, hanswers⟩
  have hsound : forall e, e ∈ storeRows -> e.Sound := by
    refine List.forall_mem_cons.mpr ⟨⟨by decide, by decide, ?_⟩,
      List.forall_mem_singleton.mpr ⟨by decide, by decide, nofun⟩⟩
    intro pattern hpattern
    cases hpattern
    decide +kernel
  rcases haccepted.mpr hsound with ⟨t, ht⟩
  rcases hanswers t ht with ⟨hlookup, hsize⟩
  refine ⟨hdocument, htable, t, ht, ?_, ?_, ?_, ?_⟩
  · rw [hlookup]
    decide +kernel
  · rw [hlookup]
    decide +kernel
  · rw [hlookup]
    decide +kernel
  · rw [hsize]
    decide +kernel

end CheckerTable
end FindingLedger
