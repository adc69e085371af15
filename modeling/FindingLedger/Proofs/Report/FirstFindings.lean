import FindingLedger.Proofs.Report.Assembly

/-!
# First findings

Of findings that lie at one place and are reached in one way the first is reported. So the
places of the reported findings are known from the findings alone: they are those before
which no finding of the kind stands. A second assembly of what was kept has nothing to drop.
-/

namespace FindingLedger

/-!
# Reports of findings
-/

/-- Whether a finding lies where another one does and is reached in the same way, with the
same description where nothing leads to it. -/
def Finding.Repeats (f g : Finding) : Prop :=
  f.diagnostic.location = g.diagnostic.location ∧
    (f.diagnostic.path.map fun e => (e.location, e.message?)) =
      (g.diagnostic.path.map fun e => (e.location, e.message?)) ∧
    (f.diagnostic.path = [] -> f.diagnostic.description = g.diagnostic.description)

/-- Whether a place of a report is the given one, with the path in place of the number of
its file. -/
def ReportLocation.Names (files : List String) (r : ReportLocation) (l : Location) : Prop :=
  files[l.fileIndex]? = some r.file ∧ l.line = r.line ∧ l.column = r.column

/-- Whether a report says of a finding what its diagnostic says, under the given identity. -/
structure Report.Records (files : List String) (f : Finding) (identity : Identity)
    (r : Report) : Prop where
  identity_eq : r.identity = identity
  checker : r.checker = f.checker
  provenance : r.provenance = f.provenance
  category : r.category = f.diagnostic.category
  type : r.type = f.diagnostic.type
  description : r.description = f.diagnostic.description
  location : r.location.Names files f.diagnostic.location
  contextName : r.contextName = f.diagnostic.contextName
  contextKind : r.contextKind = f.diagnostic.contextKind
  analyzerHash : r.analyzerHash = analyzerHashOf f
  path : List.Forall₂
    (fun e s => s.kind = e.kind ∧ s.location.Names files e.location ∧ s.message = e.message?)
    f.diagnostic.path r.path
  notes : List.Forall₂
    (fun n s => s.kind = .event ∧ s.location.Names files n.location ∧
      s.message = some n.message)
    f.diagnostic.notes r.notes

theorem Report.records_of_ofFinding {files : List String} {f : Finding} {identity : Identity}
    {r : Report} (h : ofFinding files f identity = .ok r) : r.Records files f identity := by
  rcases ofFinding_eq_ok_iff.mp h with ⟨hpath, hnotes, hlocation, hr⟩
  rw [each_eq_ok_iff] at hpath hnotes
  rw [locate_eq_ok_iff] at hlocation
  have hsteps : List.Forall₂ (fun e s => s.kind = e.kind ∧
      s.location.Names files e.location ∧ s.message = e.message?)
      f.diagnostic.path r.path := by
    refine hpath.imp fun e s hs => ?_
    rwa [ofElement_eq_ok_iff, locate_eq_ok_iff] at hs
  have hevents : List.Forall₂ (fun n s => s.kind = .event ∧
      s.location.Names files n.location ∧ s.message = some n.message)
      f.diagnostic.notes r.notes := by
    refine hnotes.imp fun n s hs => ?_
    rwa [ofEvent_eq_ok_iff, locate_eq_ok_iff] at hs
  rw [hr]
  exact ⟨rfl, rfl, rfl, rfl, rfl, rfl, hlocation, rfl, rfl, rfl, hsteps, hevents⟩

namespace Assembly

/-!
# Places of first findings
-/

/-- Whether a finding stands at a place and repeats none that stands before it. -/
def IsFirst (findings : List Finding) (place : Nat) : Prop :=
  exists f, findings[place]? = some f ∧
    forall earlier g, earlier < place -> findings[earlier]? = some g -> ¬ f.Repeats g

def IsNew (seen : List Signature) (fs : List (Finding × Identity)) (place : Nat) : Prop :=
  exists f, fs[place]? = some f ∧ Signature.of f.1 ∉ seen ∧
    forall earlier g, earlier < place -> fs[earlier]? = some g ->
      Signature.of f.1 ≠ Signature.of g.1

theorem isNew_zero_iff {seen : List Signature} {f : Finding × Identity}
    {fs : List (Finding × Identity)} :
    IsNew seen (f :: fs) 0 <-> Signature.of f.1 ∉ seen := by
  constructor
  · rintro ⟨g, hg, hnew, _⟩
    cases hg
    exact hnew
  · intro hnew
    exact ⟨f, rfl, hnew, fun earlier g hearlier => absurd hearlier (Nat.not_lt_zero earlier)⟩

/-- What stands after a finding is new if it is new once that finding has been seen. -/
theorem isNew_succ_iff {seen : List Signature} {f : Finding × Identity}
    {fs : List (Finding × Identity)} {place : Nat} :
    IsNew seen (f :: fs) (place + 1) <-> IsNew (Signature.of f.1 :: seen) fs place := by
  constructor
  · rintro ⟨g, hg, hnew, hearlier⟩
    refine ⟨g, hg, ?_, ?_⟩
    · rw [List.mem_cons, not_or]
      exact ⟨hearlier 0 f (Nat.succ_pos place) rfl, hnew⟩
    · intro earlier g' hlt hg'
      exact hearlier (earlier + 1) g' (Nat.succ_lt_succ hlt) hg'
  · rintro ⟨g, hg, hnew, hearlier⟩
    rw [List.mem_cons, not_or] at hnew
    refine ⟨g, hg, hnew.2, ?_⟩
    intro earlier g' hlt hg'
    cases earlier with
    | zero =>
        cases hg'
        exact hnew.1
    | succ earlier =>
        exact hearlier earlier g' (Nat.lt_of_succ_lt_succ hlt) hg'

theorem isNew_cons_of_mem {seen : List Signature} {s : Signature} (h : s ∈ seen)
    {fs : List (Finding × Identity)} {place : Nat} :
    IsNew (s :: seen) fs place <-> IsNew seen fs place := by
  have hmem : forall f : Finding × Identity,
      Signature.of f.1 ∉ s :: seen <-> Signature.of f.1 ∉ seen := by
    intro f
    rw [List.mem_cons, not_or]
    exact ⟨fun hnew => hnew.2, fun hnew => ⟨fun heq => hnew (heq ▸ h), hnew⟩⟩
  unfold IsNew
  simp only [hmem]

theorem exists_places_eq_new (seen : List Signature) (fs : List (Finding × Identity)) :
    exists places : List Nat, places.Pairwise (· < ·) ∧
      (forall place, place ∈ places <-> IsNew seen fs place) ∧
      List.Forall₂ (fun place f => fs[place]? = some f) places (firsts seen fs) := by
  induction fs generalizing seen with
  | nil =>
      refine ⟨[], List.Pairwise.nil, ?_, List.Forall₂.nil⟩
      intro place
      simp [IsNew]
  | cons f rest ih =>
      unfold firsts
      dsimp only
      split
      · -- A repeated finding leaves what is seen as it was, and the places move by one.
        rename_i hseen
        rw [List.contains_iff_mem] at hseen
        rcases ih seen with ⟨places, hsorted, hplaces, hkept⟩
        refine ⟨places.map Nat.succ, hsorted.map Nat.succ fun _ _ => Nat.succ_lt_succ, ?_,
          List.forall₂_map_left_iff.mpr hkept⟩
        intro place
        cases place with
        | zero =>
            simp [isNew_zero_iff, hseen]
        | succ place =>
            rw [isNew_succ_iff, isNew_cons_of_mem hseen, ← hplaces]
            simp
      · rename_i hnew
        rw [List.contains_iff_mem] at hnew
        rcases ih (Signature.of f.1 :: seen) with ⟨places, hsorted, hplaces, hkept⟩
        refine ⟨0 :: places.map Nat.succ, ?_, ?_,
          List.Forall₂.cons rfl (List.forall₂_map_left_iff.mpr hkept)⟩
        · refine List.Pairwise.cons ?_ (hsorted.map Nat.succ fun _ _ => Nat.succ_lt_succ)
          intro place hplace
          rcases List.mem_map.mp hplace with ⟨before, _, rfl⟩
          exact Nat.succ_pos before
        · intro place
          cases place with
          | zero =>
              simp [isNew_zero_iff, hnew]
          | succ place =>
              rw [isNew_succ_iff, ← hplaces]
              simp

theorem isNew_zip_iff {findings : List Finding} {identities : List Identity}
    (hlength : findings.length = identities.length) {place : Nat} :
    IsNew [] (findings.zip identities) place <-> IsFirst findings place := by
  constructor
  · rintro ⟨f, hf, _, hearlier⟩
    refine ⟨f.1, (List.getElem?_zip_eq_some.mp hf).1, ?_⟩
    intro earlier g hlt hg hrepeats
    rcases List.getElem?_eq_some_iff.mp hg with ⟨hbound, _⟩
    have hidentity : identities[earlier]? = some identities[earlier] :=
      List.getElem?_eq_getElem (hlength ▸ hbound)
    refine hearlier earlier (g, identities[earlier]) hlt ?_ ?_
    · exact List.getElem?_zip_eq_some.mpr ⟨hg, hidentity⟩
    · exact Signature.of_eq_of_iff.mpr hrepeats
  · rintro ⟨f, hf, hearlier⟩
    rcases List.getElem?_eq_some_iff.mp hf with ⟨hbound, _⟩
    have hidentity : identities[place]? = some identities[place] :=
      List.getElem?_eq_getElem (hlength ▸ hbound)
    refine ⟨(f, identities[place]), List.getElem?_zip_eq_some.mpr ⟨hf, hidentity⟩,
      List.not_mem_nil, ?_⟩
    intro earlier g hlt hg hsame
    exact hearlier earlier g.1 hlt (List.getElem?_zip_eq_some.mp hg).1
      (Signature.of_eq_of_iff.mp hsame)

/-!
# Second assemblies
-/

theorem firsts_eq_self {seen : List Signature} {fs : List (Finding × Identity)}
    (hnew : forall f, f ∈ fs -> Signature.of f.1 ∉ seen)
    (hdistinct : fs.Pairwise fun f g => Signature.of f.1 ≠ Signature.of g.1) :
    firsts seen fs = fs := by
  induction fs generalizing seen with
  | nil =>
      rfl
  | cons f rest ih =>
      rcases List.pairwise_cons.mp hdistinct with ⟨hhead, htail⟩
      unfold firsts
      dsimp only
      split
      · rename_i hseen
        rw [List.contains_iff_mem] at hseen
        exact absurd hseen (hnew f List.mem_cons_self)
      · refine congrArg (f :: ·) (ih ?_ htail)
        intro g hg
        rw [List.mem_cons, not_or]
        exact ⟨fun heq => hhead g hg heq.symm, hnew g (List.mem_cons_of_mem f hg)⟩

theorem kept_kept (findings : List Finding) (identities : List Identity) :
    kept ((kept findings identities).map Prod.fst) ((kept findings identities).map Prod.snd) =
      kept findings identities := by
  have hzip : ((kept findings identities).map Prod.fst).zip
      ((kept findings identities).map Prod.snd) = kept findings identities := by
    rw [List.zip_map', List.map_id']
  show firsts [] _ = _
  rw [hzip]
  exact firsts_eq_self (fun _ _ => List.not_mem_nil) (pairwise_firsts [] _)

theorem of_kept {files : List String} {findings : List Finding} {identities : List Identity}
    {sources : Sources} {a : Assembly} (h : of files findings identities sources = .ok a) :
    of files ((kept findings identities).map Prod.fst)
        ((kept findings identities).map Prod.snd) sources =
      .ok { a with duplicates := 0 } := by
  rcases of_eq_ok_iff.mp h with ⟨_, hreports, hregistry, _⟩
  rw [of_eq_ok_iff, kept_kept]
  refine ⟨?_, hreports, hregistry, ?_⟩
  · rw [List.length_map, List.length_map]
  · rw [List.length_map, Nat.add_zero]

theorem filterMap_eq_map_of_forall₂ {α β γ : Type} {at? : α -> Option β} {part : γ -> β}
    {as : List α} {cs : List γ} (h : List.Forall₂ (fun a c => at? a = some (part c)) as cs) :
    as.filterMap at? = cs.map part := by
  induction h with
  | nil =>
      rfl
  | cons hac _ ih =>
      rw [List.filterMap_cons_some hac, ih, List.map_cons]

/-- An assembly reports the findings that repeat none before them, in their order and each
with its own identity, and counts the others. When the reported findings are assembled once
more nothing is dropped, and the reports and the registered files are the same. -/
theorem exists_reports_of_firsts {files : List String} {findings : List Finding}
    {identities : List Identity} (sources : Sources)
    (hlength : findings.length = identities.length)
    (hresolves : forall f, f ∈ findings -> f.diagnostic.Resolves files.length) :
    exists (a : Assembly) (places : List Nat),
      of files findings identities sources = .ok a ∧
      places.Pairwise (· < ·) ∧
      (forall place, place ∈ places <-> IsFirst findings place) ∧
      List.Forall₂
        (fun place r => exists f identity, findings[place]? = some f ∧
          identities[place]? = some identity ∧ r.Records files f identity)
        places a.reports ∧
      a.reports.length + a.duplicates = findings.length ∧
      of files (places.filterMap fun place => findings[place]?)
          (places.filterMap fun place => identities[place]?) sources =
        .ok { a with duplicates := 0 } := by
  rcases exists_of sources hlength hresolves with ⟨a, ha⟩
  rcases exists_places_eq_new [] (findings.zip identities) with
    ⟨places, hsorted, hplaces, hkept⟩
  rcases of_eq_ok_iff.mp ha with ⟨_, hreports, _, hcount⟩
  rw [each_eq_ok_iff] at hreports
  refine ⟨a, places, ha, hsorted, ?_, ?_, ?_, ?_⟩
  · intro place
    rw [hplaces, isNew_zip_iff hlength]
  · refine forall₂_trans ?_ hkept hreports
    intro place f r hf hr
    rcases List.getElem?_zip_eq_some.mp hf with ⟨hfinding, hidentity⟩
    exact ⟨f.1, f.2, hfinding, hidentity, Report.records_of_ofFinding hr⟩
  · rw [← hreports.length_eq, hcount]
  · have hfindings : (places.filterMap fun place => findings[place]?) =
        (kept findings identities).map Prod.fst :=
      filterMap_eq_map_of_forall₂
        (hkept.imp fun place f hf => (List.getElem?_zip_eq_some.mp hf).1)
    have hidentities : (places.filterMap fun place => identities[place]?) =
        (kept findings identities).map Prod.snd :=
      filterMap_eq_map_of_forall₂
        (hkept.imp fun place f hf => (List.getElem?_zip_eq_some.mp hf).2)
    rw [hfindings, hidentities]
    exact of_kept ha

def hereFinding (description : String) (path : List PathElement) : Finding where
  diagnostic :=
    { category := "", type := "", description, checkerName := none, location := ⟨0, 3, 1⟩
      contextName := none, contextKind := none, path, notes := [], embeddedHash := none
      functionOffset := none }
  checker := "core.DivideZero"
  provenance := .inferred

/-- Two descriptions without a path, a passed place, and a step there without a message. The
third and the last finding repeat earlier ones. -/
def hereFindings : List Finding :=
  [hereFinding "x" [], hereFinding "y" [], hereFinding "x" [],
    hereFinding "x" [.point ⟨0, 3, 1⟩], hereFinding "x" [.event ⟨⟨0, 3, 1⟩, "", none, 0, []⟩],
    hereFinding "y" [.point ⟨0, 3, 1⟩]]

def hereIdentities : List Identity :=
  ["0", "1", "2", "3", "4", "5"].map fun hash => ⟨hash, hash, false⟩

theorem exists_reports_of_firsts_hereFindings :
    hereFindings.length = hereIdentities.length ∧
      (forall f, f ∈ hereFindings -> f.diagnostic.Resolves ["a.c"].length) ∧
      exists (a : Assembly) (places : List Nat),
        of ["a.c"] hereFindings hereIdentities (.ofFiles [("a.c", [0x0A])]) = .ok a ∧
        places.Pairwise (· < ·) ∧
        (forall place, place ∈ places <-> IsFirst hereFindings place) ∧
        List.Forall₂
          (fun place r => exists f identity, hereFindings[place]? = some f ∧
            hereIdentities[place]? = some identity ∧ r.Records ["a.c"] f identity)
          places a.reports ∧
        a.reports.length + a.duplicates = hereFindings.length ∧
        of ["a.c"] (places.filterMap fun place => hereFindings[place]?)
            (places.filterMap fun place => hereIdentities[place]?)
            (.ofFiles [("a.c", [0x0A])]) =
          .ok { a with duplicates := 0 } := by
  have hresolves : forall f, f ∈ hereFindings -> f.diagnostic.Resolves ["a.c"].length := by
    intro f hf
    refine Diagnostic.find?_fileIndices_eq_none_iff.mp ?_
    revert f
    decide
  exact ⟨rfl, hresolves, exists_reports_of_firsts _ rfl hresolves⟩

example :
    (of ["a.c"] hereFindings hereIdentities (.ofFiles [])).toOption.map
        (fun a => (a.reports.map fun r => r.identity.contentHash, a.duplicates)) =
      some (["0", "1", "3", "4"], 2) := by
  decide

end Assembly
end FindingLedger
