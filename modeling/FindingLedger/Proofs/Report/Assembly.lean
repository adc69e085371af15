import FindingLedger.Proofs.Report.Writing
import FindingLedger.Report.Assembly

/-!
# Assembling reports

The findings that are kept are a part of all findings, in the same order, and no two of
them have the same signature. Their reports and the registry of their files can be made as
soon as the files that the findings refer to are listed.
-/

namespace FindingLedger

/-!
# Signatures
-/

/-- Findings have one signature when they lie at one place and are reached in one way, with
one description where nothing leads to them. -/
theorem Signature.of_eq_of_iff {f g : Finding} :
    Signature.of f = Signature.of g <->
      f.diagnostic.location = g.diagnostic.location ∧
        (f.diagnostic.path.map fun e => (e.location, e.message?)) =
          (g.diagnostic.path.map fun e => (e.location, e.message?)) ∧
        (f.diagnostic.path = [] -> f.diagnostic.description = g.diagnostic.description) := by
  unfold Signature.of
  dsimp only
  rw [Signature.mk.injEq]
  refine and_congr_right fun _ => and_congr_right fun hsteps => ?_
  have hnil : f.diagnostic.path = [] <-> g.diagnostic.path = [] := by
    rw [← List.map_eq_nil_iff, hsteps, List.map_eq_nil_iff]
  by_cases hempty : f.diagnostic.path = []
  · simp [hempty, hnil.mp hempty]
  · simp [hempty, mt hnil.mpr hempty]

namespace Assembly

/-!
# Findings that are kept
-/

theorem firsts_sublist (seen : List Signature) (fs : List (Finding × Identity)) :
    List.Sublist (firsts seen fs) fs := by
  induction fs generalizing seen with
  | nil =>
      exact List.Sublist.refl []
  | cons f rest ih =>
      unfold firsts
      dsimp only
      split
      · exact List.Sublist.cons f (ih seen)
      · exact List.Sublist.cons_cons f (ih (Signature.of f.1 :: seen))

theorem length_firsts_add_repeats (seen : List Signature) (fs : List (Finding × Identity)) :
    (firsts seen fs).length + repeats seen fs = fs.length := by
  induction fs generalizing seen with
  | nil =>
      rfl
  | cons f rest ih =>
      unfold firsts repeats
      dsimp only
      split
      · rw [← Nat.add_assoc, ih, List.length_cons]
      · rw [List.length_cons, Nat.add_right_comm, ih, List.length_cons]

theorem signature_not_mem_seen {seen : List Signature} {fs : List (Finding × Identity)}
    {f : Finding × Identity} (hf : f ∈ firsts seen fs) : Signature.of f.1 ∉ seen := by
  induction fs generalizing seen with
  | nil =>
      cases hf
  | cons g rest ih =>
      unfold firsts at hf
      dsimp only at hf
      split at hf
      · exact ih hf
      · rename_i hnew
        cases hf with
        | head =>
            simpa using hnew
        | tail _ hrest =>
            intro hseen
            exact ih hrest (List.mem_cons_of_mem _ hseen)

theorem pairwise_firsts (seen : List Signature) (fs : List (Finding × Identity)) :
    (firsts seen fs).Pairwise fun f g => Signature.of f.1 ≠ Signature.of g.1 := by
  induction fs generalizing seen with
  | nil =>
      exact List.Pairwise.nil
  | cons f rest ih =>
      unfold firsts
      dsimp only
      split
      · exact ih seen
      · refine List.Pairwise.cons ?_ (ih _)
        -- What is kept later was found new although this signature had been seen.
        intro g hg heq
        exact signature_not_mem_seen hg (heq ▸ List.mem_cons_self)

/-- The findings that are kept, each with its identity. -/
def kept (findings : List Finding) (identities : List Identity) :
    List (Finding × Identity) :=
  firsts [] (findings.zip identities)

theorem mem_of_mem_kept {findings : List Finding} {identities : List Identity}
    {f : Finding × Identity} (hf : f ∈ kept findings identities) : f.1 ∈ findings :=
  (List.of_mem_zip ((firsts_sublist [] _).subset hf)).left

theorem length_kept_add_repeats {findings : List Finding} {identities : List Identity}
    (hlength : findings.length = identities.length) :
    (kept findings identities).length + repeats [] (findings.zip identities) =
      findings.length := by
  have hcount := length_firsts_add_repeats [] (findings.zip identities)
  rw [List.length_zip, ← hlength, Nat.min_self] at hcount
  exact hcount

/-!
# Registered files
-/

theorem exists_registerFiles {files : List String} {indices : List Nat}
    (h : forall i, i ∈ indices -> i < files.length) (sources : Sources) (r : Registry) :
    exists r', registerFiles files sources r indices = .ok r' := by
  induction indices generalizing r with
  | nil =>
      exact ⟨r, rfl⟩
  | cons i rest ih =>
      rcases Report.exists_pathOf (h i List.mem_cons_self) with ⟨path, hpath⟩
      have hrest : forall j, j ∈ rest -> j < files.length := by
        intro j hj
        exact h j (List.mem_cons_of_mem i hj)
      rcases ih hrest (r.register path (sources.bytes? path)) with ⟨r', hr'⟩
      exact ⟨r', bind_eq_ok_iff.mpr ⟨path, hpath, hr'⟩⟩

/-!
# Whole assemblies
-/

theorem of_eq_ok_iff {files : List String} {findings : List Finding}
    {identities : List Identity} {sources : Sources} {a : Assembly} :
    of files findings identities sources = .ok a <->
      findings.length = identities.length ∧
        Report.each (fun f => Report.ofFinding files f.1 f.2) (kept findings identities) =
          .ok a.reports ∧
        registerFiles files sources .empty
            (NatSet.ofList ((kept findings identities).flatMap fun f =>
              f.1.diagnostic.fileIndices)) =
          .ok a.files ∧
        (kept findings identities).length + a.duplicates = findings.length := by
  unfold of
  by_cases hlength : findings.length = identities.length
  · have hcount := length_kept_add_repeats hlength
    simp only [hlength, bne_self_eq_false, Bool.false_eq_true, if_false, bind_eq_ok_iff,
      true_and] at hcount ⊢
    constructor
    · intro h
      rcases h with ⟨reports, hreports, registry, hregistry, ha⟩
      cases ha
      exact ⟨hreports, hregistry, hcount⟩
    · intro h
      rcases h with ⟨hreports, hregistry, hduplicates⟩
      refine ⟨a.reports, hreports, a.files, hregistry, ?_⟩
      cases a with
      | mk reports files duplicates =>
          cases Nat.add_left_cancel (hcount.trans hduplicates.symm)
          rfl
  · simp [hlength]

/-- Findings can be assembled when each has an identity and the files that they refer to are
listed. -/
theorem exists_of {files : List String} {findings : List Finding}
    {identities : List Identity} (sources : Sources)
    (hlength : findings.length = identities.length)
    (h : forall f, f ∈ findings -> f.diagnostic.Resolves files.length) :
    exists a, of files findings identities sources = .ok a := by
  have hreports : forall f, f ∈ kept findings identities ->
      exists r, Report.ofFinding files f.1 f.2 = .ok r := by
    intro f hf
    exact Report.exists_ofFinding f.2 (h f.1 (mem_of_mem_kept hf))
  have hindices : forall i,
      i ∈ NatSet.ofList ((kept findings identities).flatMap fun f =>
        f.1.diagnostic.fileIndices) ->
      i < files.length := by
    intro i hi
    rcases List.mem_flatMap.mp (NatSet.mem_ofList.mp hi) with ⟨f, hf, hi⟩
    rcases Diagnostic.mem_fileIndices_iff.mp hi with ⟨l, hl, hli⟩
    rw [← hli]
    exact h f.1 (mem_of_mem_kept hf) l hl
  rcases exists_each_eq_ok hreports with ⟨reports, hreports⟩
  rcases exists_registerFiles hindices sources .empty with ⟨registry, hregistry⟩
  exact ⟨⟨reports, registry, repeats [] (findings.zip identities)⟩,
    of_eq_ok_iff.mpr ⟨hlength, hreports, hregistry, length_kept_add_repeats hlength⟩⟩

end Assembly
end FindingLedger
