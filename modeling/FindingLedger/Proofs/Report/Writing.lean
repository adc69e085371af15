import FindingLedger.Proofs.Bundle.References

/-!
# Writing reports

A report is written from a finding by naming the file of every place. Each part of it is
described by what it takes from the finding, and it can be written as soon as the files of
the places that the finding refers to are listed.
-/

namespace FindingLedger

/-- The kind of step that a step of a path is reported as. -/
def PathElement.kind : PathElement -> StepKind
  | event _ => .event
  | point _ => .point

namespace Report

/-!
# Places
-/

theorem pathOf_eq_ok_iff {files : List String} {index : Nat} {path : String} :
    pathOf files index = .ok path <-> files[index]? = some path := by
  unfold pathOf
  cases files[index]? with
  | none =>
      simp
  | some p =>
      simp

theorem exists_pathOf {files : List String} {index : Nat} (h : index < files.length) :
    exists path, pathOf files index = .ok path :=
  ⟨files[index], pathOf_eq_ok_iff.mpr (List.getElem?_eq_getElem h)⟩

theorem locate_eq_ok_iff {files : List String} {l : Location} {r : ReportLocation} :
    locate files l = .ok r <->
      files[l.fileIndex]? = some r.file ∧ l.line = r.line ∧ l.column = r.column := by
  simp only [locate, bind_eq_ok_iff, pathOf_eq_ok_iff]
  constructor
  · intro h
    rcases h with ⟨path, hpath, hr⟩
    cases hr
    exact ⟨hpath, rfl, rfl⟩
  · intro h
    rcases h with ⟨hpath, hline, hcolumn⟩
    refine ⟨r.file, hpath, ?_⟩
    rw [hline, hcolumn]
    rfl

theorem exists_locate {files : List String} {l : Location}
    (h : l.fileIndex < files.length) : exists r, locate files l = .ok r := by
  rcases exists_pathOf h with ⟨path, hpath⟩
  exact ⟨⟨path, l.line, l.column⟩,
    locate_eq_ok_iff.mpr ⟨pathOf_eq_ok_iff.mp hpath, rfl, rfl⟩⟩

/-!
# Steps
-/

theorem ofEvent_eq_ok_iff {files : List String} {e : PathEvent} {s : ReportStep} :
    ofEvent files e = .ok s <->
      s.kind = .event ∧ locate files e.location = .ok s.location ∧
        s.message = some e.message := by
  simp only [ofEvent, bind_eq_ok_iff]
  constructor
  · intro h
    rcases h with ⟨r, hr, hs⟩
    cases hs
    exact ⟨rfl, hr, rfl⟩
  · intro h
    rcases h with ⟨hkind, hlocation, hmessage⟩
    refine ⟨s.location, hlocation, ?_⟩
    rw [← hkind, ← hmessage]
    rfl

theorem ofElement_eq_ok_iff {files : List String} {e : PathElement} {s : ReportStep} :
    ofElement files e = .ok s <->
      s.kind = e.kind ∧ locate files e.location = .ok s.location ∧
        s.message = e.message? := by
  cases e with
  | event e =>
      exact ofEvent_eq_ok_iff
  | point l =>
      simp only [ofElement, bind_eq_ok_iff]
      constructor
      · intro h
        rcases h with ⟨r, hr, hs⟩
        cases hs
        exact ⟨rfl, hr, rfl⟩
      · intro h
        rcases h with ⟨hkind, hlocation, hmessage⟩
        refine ⟨s.location, hlocation, ?_⟩
        cases s with
        | mk kind location message =>
            cases hkind
            cases hmessage
            rfl

theorem exists_ofEvent {files : List String} {e : PathEvent}
    (h : e.location.fileIndex < files.length) : exists s, ofEvent files e = .ok s := by
  rcases exists_locate h with ⟨r, hr⟩
  exact ⟨⟨.event, r, some e.message⟩, ofEvent_eq_ok_iff.mpr ⟨rfl, hr, rfl⟩⟩

theorem exists_ofElement {files : List String} {e : PathElement}
    (h : e.location.fileIndex < files.length) : exists s, ofElement files e = .ok s := by
  rcases exists_locate h with ⟨r, hr⟩
  exact ⟨⟨e.kind, r, e.message?⟩, ofElement_eq_ok_iff.mpr ⟨rfl, hr, rfl⟩⟩

/-!
# Whole reports
-/

def fill (f : Finding) (identity : Identity) (location : ReportLocation)
    (path notes : List ReportStep) : Report :=
  { checker := f.checker
    provenance := f.provenance
    category := f.diagnostic.category
    type := f.diagnostic.type
    description := f.diagnostic.description
    location
    contextName := f.diagnostic.contextName
    contextKind := f.diagnostic.contextKind
    identity
    analyzerHash := analyzerHashOf f
    path
    notes }

theorem ofFinding_eq_ok_iff {files : List String} {f : Finding} {identity : Identity}
    {r : Report} :
    ofFinding files f identity = .ok r <->
      each (ofElement files) f.diagnostic.path = .ok r.path ∧
        each (ofEvent files) f.diagnostic.notes = .ok r.notes ∧
        locate files f.diagnostic.location = .ok r.location ∧
        r = fill f identity r.location r.path r.notes := by
  simp only [ofFinding, bind_eq_ok_iff]
  constructor
  · intro h
    rcases h with ⟨path, hpath, notes, hnotes, location, hlocation, hr⟩
    cases hr
    exact ⟨hpath, hnotes, hlocation, rfl⟩
  · intro h
    rcases h with ⟨hpath, hnotes, hlocation, hr⟩
    refine ⟨r.path, hpath, r.notes, hnotes, r.location, hlocation, ?_⟩
    rw [hr]
    rfl

theorem exists_ofFinding {files : List String} {f : Finding} (identity : Identity)
    (h : f.diagnostic.Resolves files.length) :
    exists r, ofFinding files f identity = .ok r := by
  have hpath : forall e, e ∈ f.diagnostic.path -> exists s, ofElement files e = .ok s := by
    intro e he
    exact exists_ofElement (h e.location (Diagnostic.Refers.step he))
  have hnotes : forall n, n ∈ f.diagnostic.notes -> exists s, ofEvent files n = .ok s := by
    intro n hn
    exact exists_ofEvent (h n.location (Diagnostic.Refers.note hn))
  rcases exists_each_eq_ok hpath with ⟨path, hpath⟩
  rcases exists_each_eq_ok hnotes with ⟨notes, hnotes⟩
  rcases exists_locate (h _ Diagnostic.Refers.own) with ⟨location, hlocation⟩
  exact ⟨fill f identity location path notes,
    ofFinding_eq_ok_iff.mpr ⟨hpath, hnotes, hlocation, rfl⟩⟩

end Report

end FindingLedger
