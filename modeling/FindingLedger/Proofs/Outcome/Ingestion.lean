import FindingLedger.Ingestor.Basic
import FindingLedger.Proofs.Report.Assembly

/-!
# Taking in bundles

Reading is the only stage of taking in a bundle that can fail. Once the bundle is read its
diagnostics refer to listed files alone, and settling checkers, identifying findings and
assembling reports need nothing else, whatever the sources hold.
-/

namespace FindingLedger

@[simp] theorem Finding.ofDiagnostic_diagnostic (table : CheckerTable) (d : Diagnostic) :
    (Finding.ofDiagnostic table d).diagnostic = d := by
  unfold Finding.ofDiagnostic
  cases d.checkerName with
  | some name =>
      rfl
  | none =>
      dsimp only
      cases table.lookup? d.description <;> rfl

section OfDiagnostic

variable {table : CheckerTable} {d : Diagnostic}

theorem Finding.ofDiagnostic_of_declared {name : String} (hname : d.checkerName = some name) :
    ofDiagnostic table d = ⟨d, Text.trim name, .declared⟩ := by
  unfold ofDiagnostic
  rw [hname]

theorem Finding.ofDiagnostic_of_inferred {checker : String} (hname : d.checkerName = none)
    (hlookup : table.lookup? d.description = some checker) :
    ofDiagnostic table d = ⟨d, checker, .inferred⟩ := by
  unfold ofDiagnostic
  rw [hname]
  dsimp only
  rw [hlookup]

theorem Finding.ofDiagnostic_of_unknown (hname : d.checkerName = none)
    (hlookup : table.lookup? d.description = none) :
    ofDiagnostic table d = ⟨d, unresolvedChecker, .unresolved⟩ := by
  unfold ofDiagnostic
  rw [hname]
  dsimp only
  rw [hlookup]

end OfDiagnostic

def Sources.unavailable : Sources :=
  ⟨fun _ _ => none, fun _ => none⟩

namespace Outcome

/-!
# Findings and their identities
-/

theorem diagnostic_mem_of_mem_findingsOf {table : CheckerTable} {b : Bundle} {f : Finding}
    (hf : f ∈ findingsOf table b) : f.diagnostic ∈ b.diagnostics := by
  rcases List.mem_map.mp hf with ⟨d, hd, hfd⟩
  rw [← hfd, Finding.ofDiagnostic_diagnostic]
  exact hd

theorem exists_identify {sources : Sources} {settings : Settings} {files : List String}
    {f : Finding} (h : f.location.fileIndex < files.length) :
    exists identity, identify sources settings files f = .ok identity := by
  rcases Report.exists_pathOf h with ⟨path, hpath⟩
  exact ⟨Identity.of sources settings f path, bind_eq_ok_iff.mpr ⟨path, hpath, rfl⟩⟩

/-!
# Bundles that have been read
-/

theorem ofBundle_eq_ok_iff {b : Bundle} {table : CheckerTable} {sources : Sources}
    {settings : Settings} {o : Outcome} :
    ofBundle b table sources settings = .ok o <->
      (b.diagnostics = [] ∧ o = ⟨b.generation, b.clangVersion, [], .empty, 0⟩) ∨
        (b.diagnostics ≠ [] ∧ exists identities assembly,
          Report.each (identify sources settings b.files) (findingsOf table b) =
            .ok identities ∧
          Assembly.of b.files (findingsOf table b) identities sources = .ok assembly ∧
          o = ⟨b.generation, b.clangVersion, assembly.reports, assembly.files,
            assembly.duplicates⟩) := by
  unfold ofBundle
  cases hdiagnostics : b.diagnostics with
  | nil =>
      simp [eq_comm]
  | cons d rest =>
      simp only [List.isEmpty_cons, Bool.false_eq_true, if_false, bind_eq_ok_iff, pure,
        Except.pure, Except.ok.injEq]
      constructor
      · intro h
        rcases h with ⟨identities, hidentities, assembly, hassembly, ho⟩
        exact Or.inr ⟨by simp, identities, assembly, hidentities, hassembly, ho.symm⟩
      · intro h
        rcases h with ⟨hnil, _⟩ | ⟨_, identities, assembly, hidentities, hassembly, ho⟩
        · cases hnil
        · exact ⟨identities, hidentities, assembly, hassembly, ho.symm⟩

theorem exists_ofBundle {b : Bundle} (table : CheckerTable) (sources : Sources)
    (settings : Settings) (h : b.Resolves Diagnostic.Refers) :
    exists o, ofBundle b table sources settings = .ok o := by
  by_cases hdiagnostics : b.diagnostics = []
  · exact ⟨_, ofBundle_eq_ok_iff.mpr (Or.inl ⟨hdiagnostics, rfl⟩)⟩
  · have hresolves : forall f, f ∈ findingsOf table b ->
        f.diagnostic.Resolves b.files.length := by
      intro f hf
      exact h f.diagnostic (diagnostic_mem_of_mem_findingsOf hf)
    have hidentify : forall f, f ∈ findingsOf table b ->
        exists identity, identify sources settings b.files f = .ok identity := by
      intro f hf
      exact exists_identify (hresolves f hf f.location Diagnostic.Refers.own)
    rcases exists_each_eq_ok hidentify with ⟨identities, hidentities⟩
    have hlength : (findingsOf table b).length = identities.length :=
      (each_eq_ok_iff.mp hidentities).length_eq
    rcases Assembly.exists_of sources hlength hresolves with ⟨assembly, hassembly⟩
    exact ⟨_, ofBundle_eq_ok_iff.mpr
      (Or.inr ⟨hdiagnostics, identities, assembly, hidentities, hassembly, rfl⟩)⟩

/-!
# Documents
-/

theorem ingest_of_read_error {document : Bytes} {e : Bundle.Error}
    (hread : Bundle.read document = .error e) (table : CheckerTable) (sources : Sources)
    (settings : Settings) : ingest document table sources settings = .error (.bundle e) := by
  unfold ingest
  rw [hread]

theorem exists_ingest_of_read {document : Bytes} {b : Bundle}
    (hread : Bundle.read document = .ok b) (table : CheckerTable) (sources : Sources)
    (settings : Settings) :
    exists o, ofBundle b table sources settings = .ok o ∧
      ingest document table sources settings = .ok o := by
  rcases exists_ofBundle table sources settings (Bundle.resolves_refers_of_read hread) with
    ⟨o, ho⟩
  refine ⟨o, ho, ?_⟩
  unfold ingest
  rw [hread]
  show (ofBundle b table sources settings).mapError Error.report = .ok o
  rw [ho]
  rfl

theorem exists_read_of_ingest {document : Bytes} {table : CheckerTable} {sources : Sources}
    {settings : Settings} {o : Outcome}
    (h : ingest document table sources settings = .ok o) :
    exists b, Bundle.read document = .ok b ∧ ofBundle b table sources settings = .ok o := by
  cases hread : Bundle.read document with
  | error e =>
      rw [ingest_of_read_error hread] at h
      cases h
  | ok b =>
      rcases exists_ingest_of_read hread table sources settings with ⟨o', hbundle, hingest⟩
      rw [h] at hingest
      cases hingest
      exact ⟨b, rfl, hbundle⟩

/-- Taking in a document fails exactly as reading it does, with the same malformed bundle,
and no stage after reading fails. -/
theorem ingest_error_iff_read_error (document : Bytes) (table : CheckerTable)
    (sources : Sources) (settings : Settings) :
    (forall e : IngestError,
      (ingest document table sources settings).mapError .outcome = .error e <->
        (Bundle.read document).mapError (fun fault => .outcome (.bundle fault)) =
          .error e) ∧
    (forall e : IngestError,
      (ingest document table sources settings).mapError .outcome = .error e ->
        e.kind = "malformed_bundle") ∧
    (forall b, Bundle.read document = .ok b ->
      exists o, ofBundle b table sources settings = .ok o) := by
  refine ⟨?_, ?_, ?_⟩
  · intro e
    cases hread : Bundle.read document with
    | error fault =>
        rw [ingest_of_read_error hread]
        simp [Except.mapError]
    | ok b =>
        rcases exists_ingest_of_read hread table sources settings with ⟨o, _, ho⟩
        rw [ho]
        simp [Except.mapError]
  · intro e he
    rcases mapError_eq_error_iff.mp he with ⟨fault, _, hfault⟩
    rw [← hfault]
    rfl
  · intro b hread
    rcases exists_ingest_of_read hread table sources settings with ⟨o, ho, _⟩
    exact ⟨o, ho⟩

theorem ingest_strayNoteDocument :
    Bundle.read Bundle.strayNoteDocument = .ok Bundle.strayNoteBundle ∧
      exists o, ofBundle Bundle.strayNoteBundle .builtin .unavailable {} = .ok o :=
  ⟨Bundle.read_strayNoteDocument,
    (ingest_error_iff_read_error Bundle.strayNoteDocument .builtin .unavailable {}).2.2 _
      Bundle.read_strayNoteDocument⟩

end Outcome
end FindingLedger
