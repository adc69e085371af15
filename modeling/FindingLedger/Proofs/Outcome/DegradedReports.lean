import FindingLedger.Proofs.Identity.Keys
import FindingLedger.Proofs.Outcome.RegisteredFiles
import FindingLedger.Proofs.Source.CachedReads

/-!
# Degraded reports

Whether a report is degraded is settled while its finding is identified, what is known of its
file when the registry is filled. Both look at the same sources, which have the whole of a file
or nothing of it. So the two agree.
-/

namespace FindingLedger
namespace Outcome

section Degraded

variable {document : Bytes} {table : CheckerTable} {sources : Sources} {settings : Settings}
  {o : Outcome} {r : Report}

theorem degraded_eq_of_ingest (h : ingest document table sources settings = .ok o)
    (hr : r ∈ o.reports) :
    r.identity.degraded = (sources.line? r.location.file r.location.line).isNone := by
  rcases exists_read_of_ingest h with ⟨b, _, hbundle⟩
  rcases exists_finding_of_report hbundle hr with ⟨_, f, _, _, hrecords⟩
  have hdegraded :=
    Identity.Occurrence.degraded_eq ⟨sources, settings, f, r.location.file⟩
  have hline : f.location.line = r.location.line := hrecords.location.2.1
  rw [hrecords.identity_eq, ← hline]
  exact hdegraded

theorem digestOf?_of_mem_reports (h : ingest document table sources settings = .ok o)
    (hr : r ∈ o.reports) :
    o.files.digestOf? r.location.file =
      (sources.bytes? r.location.file).map Digest.ofBytes := by
  rcases exists_read_of_ingest h with ⟨b, _, hbundle⟩
  have hregisters := registersFiles_of_ofBundle hbundle
  exact hregisters.digest _ (hregisters.closed r hr r.location Report.Refers.own)

theorem bytes?_of_mem_unreadable (h : ingest document table sources settings = .ok o)
    {path : String} (hpath : path ∈ o.files.unreadable) : sources.bytes? path = none := by
  rcases exists_read_of_ingest h with ⟨b, _, hbundle⟩
  exact (((registersFiles_of_ofBundle hbundle).unreadable path).mp hpath).2

/-- A report has been identified with the source text if and only if the registry has a digest
for its file and its line is one of those of the file. -/
theorem degraded_eq_false_iff (hsources : sources.ForOneBundle)
    (h : ingest document table sources settings = .ok o) (hr : r ∈ o.reports) :
    (r.identity.degraded = false <->
      (o.files.digestOf? r.location.file).isSome = true ∧
        exists bytes, sources.bytes? r.location.file = some bytes ∧
          1 ≤ r.location.line ∧ r.location.line ≤ Source.lineCount bytes) ∧
    (r.location.file ∈ o.files.unreadable -> r.identity.degraded = true) ∧
    (r.location.line = 0 -> r.identity.degraded = true) ∧
    (forall bytes, sources.bytes? r.location.file = some bytes ->
      Source.lineCount bytes < r.location.line -> r.identity.degraded = true) := by
  have hknown : r.identity.degraded = false <->
      exists bytes, sources.bytes? r.location.file = some bytes ∧
        1 ≤ r.location.line ∧ r.location.line ≤ Source.lineCount bytes := by
    rw [degraded_eq_of_ingest h hr, Option.isNone_eq_false_iff]
    exact hsources.whole.isSome_line?_iff
  -- Without a line of the file the report is degraded.
  have hdegraded : (forall bytes, sources.bytes? r.location.file = some bytes ->
      1 ≤ r.location.line -> ¬ r.location.line ≤ Source.lineCount bytes) ->
      r.identity.degraded = true := by
    intro hnone
    rw [← Bool.not_eq_false, hknown]
    rintro ⟨bytes, hbytes, hfirst, hlast⟩
    exact hnone bytes hbytes hfirst hlast
  refine ⟨?_, ?_, ?_, ?_⟩
  · rw [hknown, digestOf?_of_mem_reports h hr]
    constructor
    · rintro ⟨bytes, hbytes, hline⟩
      rw [hbytes]
      exact ⟨rfl, bytes, rfl, hline⟩
    · exact And.right
  · intro hunreadable
    apply hdegraded
    intro bytes hbytes
    rw [bytes?_of_mem_unreadable h hunreadable] at hbytes
    cases hbytes
  · intro hzero
    apply hdegraded
    intro bytes _ hfirst
    rw [hzero] at hfirst
    exact absurd hfirst (Nat.not_succ_le_zero 0)
  · intro bytes hbytes hpast
    apply hdegraded
    intro others hothers _ hlast
    rw [hbytes] at hothers
    cases hothers
    exact absurd hlast (Nat.not_le_of_lt hpast)

end Degraded

/-- A reader that has looked at a file of three lines before the file was removed. -/
def keptReader : CachedReader :=
  (CachedReader.start none).after
    [((Volume.empty.writeFile (.ofText "a.c") [0x0A, 0x0A, 0x0A]).1, "a.c")]

/-- The division is in the last line of the file, and it is identified by that line. -/
theorem degraded_eq_false_divisionDocument :
    exists o r, ingest (divisionDocument "") .empty (keptReader.sources .empty) {} = .ok o ∧
      r ∈ o.reports ∧ r.identity.degraded = false ∧
      (o.files.digestOf? r.location.file).isSome = true ∧
      exists bytes, (keptReader.sources .empty).bytes? r.location.file = some bytes ∧
        1 ≤ r.location.line ∧ r.location.line ≤ Source.lineCount bytes := by
  have hreports :
      (ingest (divisionDocument "") .empty (keptReader.sources .empty) {}).toOption.map
          (fun o => o.reports.map fun r => r.identity.degraded) = some [false] := by
    decide +kernel
  rcases map_toOption_eq_some_iff.mp hreports with ⟨o, hingest, hflags⟩
  have hmem : false ∈ o.reports.map fun r => r.identity.degraded := by
    rw [hflags]
    exact List.mem_cons_self
  rcases List.mem_map.mp hmem with ⟨r, hr, hknown⟩
  have hiff := (degraded_eq_false_iff (Sources.ForOneBundle.reader none _ .empty)
    hingest hr).1
  exact ⟨o, r, hingest, hr, hknown, hiff.mp hknown⟩

end Outcome
end FindingLedger
