import FindingLedger.Proofs.CheckerTable.Documents
import FindingLedger.Proofs.Outcome.Ingestion
import FindingLedger.Proofs.Text.Trimmed

/-!
# Descriptions that are listed

A description is looked up without the blanks around it, and a table lists it with the blanks
that its row has. So a row that lists a description with no blank at its ends gives its checker
to that description, if no row before it lists the same one. A row whose description begins or
ends in a blank gives its checker to no description: the table does as well without it.
-/

namespace FindingLedger

/-!
# Trimming
-/

theorem Text.trim_trim (s : String) : Text.trim (Text.trim s) = Text.trim s := by
  rcases Text.eq_trimChars_between_blanks s.toList with ⟨before, after, hbefore, hafter, hs⟩
  unfold Text.trim
  rw [String.toList_ofList,
    ← Text.trimChars_between_blanks hbefore hafter (Text.trimChars s.toList), ← hs]

namespace CheckerTable

section Rows

variable {before after : List CheckerEntry} {e : CheckerEntry} {d : String}

/-!
# Rows that are found
-/

theorem resolve?_of_first (hdescription : e.description = some d) (htrim : Text.trim d = d)
    (hfirst : forall earlier, earlier ∈ before ->
      forall other, earlier.description = some other -> Text.trim other ≠ Text.trim d) :
    resolve? (before ++ e :: after) d = some e.name := by
  have hbefore : before.find? (fun earlier => earlier.lists d) = none := by
    refine List.find?_eq_none.mpr fun earlier hearlier hlists => ?_
    exact hfirst earlier hearlier d (beq_iff_eq.mp hlists) rfl
  have hlists : e.lists d = true := by
    unfold CheckerEntry.lists
    rw [hdescription, beq_self_eq_true]
  unfold resolve?
  dsimp only
  rw [htrim, List.find?_append, hbefore, List.find?_cons, hlists]
  rfl

/-!
# Rows that are never found
-/

theorem find?_without (p : CheckerEntry -> Bool) (h : p e = false) :
    (before ++ e :: after).find? p = (before ++ after).find? p := by
  rw [List.find?_append, List.find?_append, List.find?_cons, h]

/-- A row that lists a description with a blank at either end gives its checker to none. -/
theorem resolve?_without (hdescription : e.description = some d) (htrim : Text.trim d ≠ d)
    (hpattern : e.pattern = none) (s : String) :
    resolve? (before ++ e :: after) s = resolve? (before ++ after) s := by
  have hlists : e.lists (Text.trim s) = false := by
    unfold CheckerEntry.lists
    rw [hdescription]
    refine beq_false_of_ne fun hsame => htrim ?_
    rw [Option.some.inj hsame, Text.trim_trim]
  have hfits : e.fits (Text.trim s) = false := by
    unfold CheckerEntry.fits
    rw [hpattern]
    rfl
  unfold resolve?
  dsimp only
  rw [find?_without (fun e => e.lists (Text.trim s)) hlists,
    find?_without (fun e => e.fits (Text.trim s)) hfits]

theorem ofEntries_without {t : CheckerTable} (h : ofEntries (before ++ e :: after) = .ok t) :
    exists t', ofEntries (before ++ after) = .ok t' := by
  refine ⟨_, ofEntries_eq_ok_iff.mpr ⟨fun other hother => ?_, rfl⟩⟩
  refine (ofEntries_eq_ok_iff.mp h).1 other ?_
  rw [List.mem_append, List.mem_cons]
  exact (List.mem_append.mp hother).imp_right Or.inr

end Rows

/-!
# Rows of a document
-/

/-- Whether a document has a row between others that is the first to list a description, where
blanks around a description do not count. -/
structure ListsFirst (document : String) (before : List CheckerEntry) (e : CheckerEntry)
    (after : List CheckerEntry) (description : String) : Prop where
  rows : (Json.read? document >>= entriesOfJson?) = some (before ++ e :: after)
  listed : e.description = some description
  first : forall earlier, earlier ∈ before -> forall other,
    earlier.description = some other -> Text.trim other ≠ Text.trim description

/-- The first row that lists a description gives its checker to it and to the diagnostics that
have it, if there is no blank at either end of the description. Otherwise the table answers as
it would without the row. -/
theorem lookup?_of_listsFirst {document description : String} {before after : List CheckerEntry}
    {e : CheckerEntry} {t : CheckerTable} (hread : read document = .ok t)
    (h : ListsFirst document before e after description) :
    (Text.trim description = description ->
        t.lookup? description = some (Text.trim e.checker) ∧
          forall d : Diagnostic, d.checkerName = none -> d.description = description ->
            Finding.ofDiagnostic t d = ⟨d, Text.trim e.checker, .inferred⟩) ∧
      (Text.trim description ≠ description ->
        exists t', ofEntries (before ++ after) = .ok t' ∧
          forall s, t.lookup? s = t'.lookup? s) := by
  rcases read_eq_ok_iff.mp hread with ⟨entries, hentries, ht⟩
  cases h.rows.symm.trans hentries
  rcases ofEntries_eq_ok_iff.mp ht with ⟨hsound, rfl⟩
  constructor
  · intro htrim
    have hlookup : (empty.withRows (before ++ e :: after)).lookup? description =
        some (Text.trim e.checker) := by
      rw [lookup?_withRows]
      exact resolve?_of_first h.listed htrim h.first
    refine ⟨hlookup, fun d hname hdescription => ?_⟩
    exact Finding.ofDiagnostic_of_inferred hname (by rw [hdescription, hlookup])
  · intro htrim
    have hpattern : e.pattern = none := by
      have hone := (hsound e (List.mem_append_right _ List.mem_cons_self)).one
      rw [h.listed, Option.isSome_some] at hone
      exact Option.not_isSome_iff_eq_none.mp hone.symm
    rcases ofEntries_without ht with ⟨t', ht'⟩
    refine ⟨t', ht', fun s => ?_⟩
    rw [(ofEntries_eq_ok_iff.mp ht').2, lookup?_withRows, lookup?_withRows]
    exact resolve?_without h.listed htrim hpattern s

def divisionRow : CheckerEntry :=
  ⟨"core.DivideZero", some "Division by zero", none⟩

def blankRow : CheckerEntry :=
  ⟨"core.NullDereference", some " Null dereference", none⟩

theorem sound_blankRow : blankRow.Sound :=
  ⟨by decide, by decide, nofun⟩

/-- The first of two rows is found, and the second, with a blank in front of its description,
changes nothing. -/
theorem lookup?_of_listsFirst_blankRow :
    exists t t', read (tableText [divisionRow, blankRow]) = .ok t ∧
      t.lookup? "Division by zero" = some "core.DivideZero" ∧
      ofEntries [divisionRow] = .ok t' ∧ forall s, t.lookup? s = t'.lookup? s := by
  have hrows := rows_tableText [divisionRow, blankRow]
  have hsound : forall e, e ∈ [divisionRow, blankRow] -> e.Sound :=
    List.forall_mem_cons.mpr ⟨⟨by decide, by decide, nofun⟩,
      List.forall_mem_singleton.mpr sound_blankRow⟩
  have hread : read (tableText [divisionRow, blankRow]) =
      .ok (empty.withRows [divisionRow, blankRow]) :=
    read_eq_ok_iff.mpr ⟨_, hrows, ofEntries_eq_ok_iff.mpr ⟨hsound, rfl⟩⟩
  have hdivision : ListsFirst (tableText [divisionRow, blankRow]) [] divisionRow [blankRow]
      "Division by zero" :=
    ⟨hrows, rfl, List.forall_mem_nil _⟩
  have hblank : ListsFirst (tableText [divisionRow, blankRow]) [divisionRow] blankRow []
      " Null dereference" := by
    refine ⟨hrows, rfl, List.forall_mem_singleton.mpr fun other hother => ?_⟩
    cases hother
    decide
  rcases (lookup?_of_listsFirst hread hblank).2 (by decide) with ⟨t', ht', hsame⟩
  have hfound := ((lookup?_of_listsFirst hread hdivision).1 (by decide)).1
  exact ⟨_, t', hread, hfound, ht', hsame⟩

/-- The only row of a table gives its checker to no description if its own has a blank. -/
theorem not_lookup?_of_listsFirst :
    ¬ forall (document description : String) (before after : List CheckerEntry)
      (e : CheckerEntry) (t : CheckerTable), read document = .ok t ->
        ListsFirst document before e after description ->
          t.lookup? description = some (Text.trim e.checker) := by
  intro h
  have hrows := rows_tableText [blankRow]
  have hread : read (tableText [blankRow]) = .ok (empty.withRows [blankRow]) :=
    read_eq_ok_iff.mpr ⟨_, hrows,
      ofEntries_eq_ok_iff.mpr ⟨List.forall_mem_singleton.mpr sound_blankRow, rfl⟩⟩
  have hfound := h _ " Null dereference" [] [] _ _ hread ⟨hrows, rfl, List.forall_mem_nil _⟩
  revert hfound
  decide +kernel

end CheckerTable
end FindingLedger
