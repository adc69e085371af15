import FindingLedger.Proofs.Outcome.Ingestion

/-!
# Reports of distinct findings

Repeated findings are told by the numbers of their files, while reports show the paths. Two
reports of one outcome therefore describe the same finding only if their findings lie in, or
pass at the same step, one file that is listed under two numbers, and never where the bundle
lists each path once.
-/

namespace FindingLedger

/-- Whether two reports describe the same finding: one place reached in one way, or where
nothing leads to it, one place with one description. -/
def Report.SameFinding (r s : Report) : Prop :=
  r.location = s.location ∧ r.path = s.path ∧ (r.path = [] -> r.description = s.description)

instance (r s : Report) : Decidable (r.SameFinding s) :=
  inferInstanceAs
    (Decidable (r.location = s.location ∧ r.path = s.path ∧
      (r.path = [] -> r.description = s.description)))

/-- Whether two places are in one file, which they name by two numbers. -/
def Location.Aliases (files : List String) (l m : Location) : Prop :=
  l.fileIndex ≠ m.fileIndex ∧
    exists path, files[l.fileIndex]? = some path ∧ files[m.fileIndex]? = some path

theorem Location.not_aliases_of_nodup {files : List String} (hnodup : files.Nodup)
    (l m : Location) : ¬ l.Aliases files m := by
  rintro ⟨hne, path, hl, hm⟩
  have hlt : l.fileIndex < files.length := (List.getElem?_eq_some_iff.mp hl).1
  exact hne ((List.getElem?_inj hlt hnodup).mp (hl.trans hm.symm))

/-- Whether some step of one path and the step of another that stands at the same position name
one file by two numbers. -/
def PathElement.StepAliases (files : List String) (p q : List PathElement) : Prop :=
  exists (position : Nat) (e e' : PathElement), p[position]? = some e ∧
    q[position]? = some e' ∧ e.location.Aliases files e'.location

/-- Whether two diagnostics name one file by two numbers, for their own places or at the same
step of their paths. -/
def Diagnostic.Aliases (files : List String) (d e : Diagnostic) : Prop :=
  d.location.Aliases files e.location ∨ PathElement.StepAliases files d.path e.path

theorem Diagnostic.not_aliases_of_nodup {files : List String} (hnodup : files.Nodup)
    (d e : Diagnostic) : ¬ d.Aliases files e := by
  rintro (hown | ⟨_, _, _, _, _, hstep⟩)
  · exact Location.not_aliases_of_nodup hnodup _ _ hown
  · exact Location.not_aliases_of_nodup hnodup _ _ hstep

/-- Whether a report is the one of a finding, under some identity. -/
def Finding.ReportedAs (files : List String) (f : Finding) (r : Report) : Prop :=
  exists identity, Report.ofFinding files f identity = .ok r

namespace Report

/-!
# Places and steps behind a report
-/

theorem eq_or_aliases_of_locate {files : List String} {l m : Location} {r : ReportLocation}
    (hl : locate files l = .ok r) (hm : locate files m = .ok r) : l = m ∨ l.Aliases files m := by
  rcases locate_eq_ok_iff.mp hl with ⟨hlfile, hlline, hlcolumn⟩
  rcases locate_eq_ok_iff.mp hm with ⟨hmfile, hmline, hmcolumn⟩
  by_cases hindex : l.fileIndex = m.fileIndex
  · apply Or.inl
    cases l
    cases m
    simp_all
  · exact Or.inr ⟨hindex, r.file, hlfile, hmfile⟩

theorem steps_eq_or_aliases {files : List String} {p q : List PathElement}
    {steps : List ReportStep} (hp : each (ofElement files) p = .ok steps)
    (hq : each (ofElement files) q = .ok steps) :
    (p.map fun e => (e.location, e.message?)) = (q.map fun e => (e.location, e.message?)) ∨
      PathElement.StepAliases files p q := by
  rw [each_eq_ok_iff] at hp hq
  induction hp generalizing q with
  | nil =>
      cases hq
      exact Or.inl rfl
  | @cons e step p steps he _ ih =>
      cases hq with
      | @cons e' _ q _ he' hq =>
          rcases ofElement_eq_ok_iff.mp he with ⟨_, hlocation, hmessage⟩
          rcases ofElement_eq_ok_iff.mp he' with ⟨_, hlocation', hmessage'⟩
          rcases eq_or_aliases_of_locate hlocation hlocation' with hhead | halias
          · rcases ih hq with htail | ⟨position, c, c', hc, hc', halias⟩
            · rw [List.map_cons, List.map_cons, htail, hhead, ← hmessage, ← hmessage']
              exact Or.inl rfl
            · exact Or.inr ⟨position + 1, c, c', hc, hc', halias⟩
          · exact Or.inr ⟨0, e, e', rfl, rfl, halias⟩

/-- Findings of different signatures are reported as the same one only if they name one file by
two numbers. -/
theorem aliases_of_sameFinding {files : List String} {f g : Finding} {i j : Identity}
    {r s : Report} (hr : ofFinding files f i = .ok r) (hs : ofFinding files g j = .ok s)
    (hsame : r.SameFinding s) (hne : Signature.of f ≠ Signature.of g) :
    f.diagnostic.Aliases files g.diagnostic := by
  rcases ofFinding_eq_ok_iff.mp hr with ⟨hrpath, _, hrlocation, hrfill⟩
  rcases ofFinding_eq_ok_iff.mp hs with ⟨hspath, _, hslocation, hsfill⟩
  rcases hsame with ⟨hlocation, hpath, hdescription⟩
  rcases eq_or_aliases_of_locate hrlocation (hlocation ▸ hslocation) with hplace | halias
  · rcases steps_eq_or_aliases hrpath (hpath ▸ hspath) with hsteps | halias
    · refine absurd (Signature.of_eq_of_iff.mpr ⟨hplace, hsteps, ?_⟩) hne
      intro hempty
      rw [hempty] at hrpath
      have hsaid := hdescription (Except.ok.inj hrpath).symm
      rw [hrfill, hsfill] at hsaid
      exact hsaid
    · exact Or.inr halias
  · exact Or.inl halias

end Report

namespace Outcome

/-- What the reports of an outcome are reports of: findings of the bundle whose signatures
differ. -/
theorem exists_kept_of_ofBundle {b : Bundle} {table : CheckerTable} {sources : Sources}
    {settings : Settings} {o : Outcome} (h : ofBundle b table sources settings = .ok o) :
    exists fs : List (Finding × Identity),
      List.Forall₂ (fun f r => Report.ofFinding b.files f.1 f.2 = .ok r) fs o.reports ∧
        (fs.Pairwise fun f g => Signature.of f.1 ≠ Signature.of g.1) ∧
        forall f, f ∈ fs -> f.1 ∈ findingsOf table b := by
  rcases ofBundle_eq_ok_iff.mp h with
    ⟨_, ho⟩ | ⟨_, identities, assembly, _, hassembly, ho⟩
  · subst ho
    exact ⟨[], List.Forall₂.nil, List.Pairwise.nil, by simp⟩
  · subst ho
    rcases Assembly.of_eq_ok_iff.mp hassembly with ⟨_, hreports, _, _⟩
    exact ⟨Assembly.kept (findingsOf table b) identities, each_eq_ok_iff.mp hreports,
      Assembly.pairwise_firsts [] _, fun f hf => Assembly.mem_of_mem_kept hf⟩

/-- Two reports that describe the same finding are of findings with different signatures, which
name one file by two numbers, for their own places or at the same step of their paths. Where the
bundle lists each path once there are no two such reports. -/
theorem pairwise_not_sameFinding {document : Bytes} {table : CheckerTable}
    {sources : Sources} {settings : Settings} {b : Bundle} {o : Outcome}
    (hread : Bundle.read document = .ok b)
    (hingest : ingest document table sources settings = .ok o) :
    (o.reports.Pairwise fun r s => r.SameFinding s ->
      exists f g, f ∈ findingsOf table b ∧ g ∈ findingsOf table b ∧
        f.ReportedAs b.files r ∧ g.ReportedAs b.files s ∧
        Signature.of f ≠ Signature.of g ∧ f.diagnostic.Aliases b.files g.diagnostic) ∧
    (b.files.Nodup -> o.reports.Pairwise fun r s => ¬ r.SameFinding s) := by
  rcases exists_ingest_of_read hread table sources settings with ⟨o', hbundle, hingest'⟩
  have ho : o' = o := Except.ok.inj (hingest'.symm.trans hingest)
  subst ho
  rcases exists_kept_of_ofBundle hbundle with ⟨fs, hreports, hsignatures, hmem⟩
  have haliased : o'.reports.Pairwise fun r s => r.SameFinding s ->
      exists f g, f ∈ findingsOf table b ∧ g ∈ findingsOf table b ∧
        f.ReportedAs b.files r ∧ g.ReportedAs b.files s ∧
        Signature.of f ≠ Signature.of g ∧ f.diagnostic.Aliases b.files g.diagnostic := by
    refine pairwise_of_forall₂ hreports hsignatures ?_
    intro f g r s hf hg hne hr hs hsame
    exact ⟨f.1, g.1, hmem f hf, hmem g hg, ⟨f.2, hr⟩, ⟨g.2, hs⟩, hne,
      Report.aliases_of_sameFinding hr hs hsame hne⟩
  refine ⟨haliased, ?_⟩
  intro hnodup
  refine haliased.imp ?_
  intro r s h hsame
  rcases h hsame with ⟨f, g, _, _, _, _, _, halias⟩
  exact Diagnostic.not_aliases_of_nodup hnodup f.diagnostic g.diagnostic halias

def twoPlacesDocument (second : String) : Bytes :=
  ("<plist><dict><key>files</key><array><string>a.c</string><string>" ++ second ++
    "</string></array><key>diagnostics</key><array><dict><key>location</key>" ++
    Bundle.placeMarkup "0" ++ "</dict><dict><key>location</key>" ++
    Bundle.placeMarkup "1" ++ "</dict></array></dict></plist>").toUTF8.data.toList

/-- A path that is listed twice makes two reports of one finding. -/
theorem exists_sameFinding_of_repeated_path :
    ¬ forall (document : Bytes) (table : CheckerTable) (sources : Sources)
      (settings : Settings) (o : Outcome),
      ingest document table sources settings = .ok o ->
        o.reports.Pairwise fun r s => ¬ r.SameFinding s := by
  intro h
  have hrepeated :
      (ingest (twoPlacesDocument "a.c") .empty .unavailable {}).toOption.map
          (fun o => decide (o.reports.Pairwise fun r s => ¬ r.SameFinding s)) =
        some false := by
    decide +kernel
  cases hingest : ingest (twoPlacesDocument "a.c") .empty .unavailable {} with
  | error e =>
      rw [hingest] at hrepeated
      cases hrepeated
  | ok o =>
      rw [hingest] at hrepeated
      have hfalse := Option.some.inj hrepeated
      exact absurd (h _ _ _ _ o hingest) (of_decide_eq_false hfalse)

theorem pairwise_not_sameFinding_twoPlacesDocument :
    exists b o, Bundle.read (twoPlacesDocument "b.c") = .ok b ∧ b.files.Nodup ∧
      ingest (twoPlacesDocument "b.c") .empty .unavailable {} = .ok o ∧
      o.reports.Pairwise fun r s => ¬ r.SameFinding s := by
  have hfiles :
      (Bundle.read (twoPlacesDocument "b.c")).toOption.map Bundle.files =
        some ["a.c", "b.c"] := by
    decide +kernel
  cases hread : Bundle.read (twoPlacesDocument "b.c") with
  | error e =>
      rw [hread] at hfiles
      cases hfiles
  | ok b =>
      rw [hread] at hfiles
      have hnodup : b.files.Nodup := by
        rw [Option.some.inj hfiles]
        decide
      rcases exists_ingest_of_read hread .empty .unavailable {} with ⟨o, _, ho⟩
      exact ⟨b, o, rfl, hnodup, ho, (pairwise_not_sameFinding hread ho).2 hnodup⟩

end Outcome
end FindingLedger
