import FindingLedger.Proofs.CheckerTable.Checkers
import FindingLedger.Proofs.Outcome.RegisteredFiles

/-!
# The sentinel of unresolved checkers

A report whose checker is not known stands under a sentinel in place of a name. Nothing keeps
a bundle from declaring the sentinel as the name of a checker, nor a table from giving it. So
the reports under the sentinel are those whose checker is not known just as long as no
diagnostic that is reported comes by the sentinel in one of these ways.
-/

namespace FindingLedger

/-- Whether a diagnostic has the sentinel as the name of its checker: declared, but for blanks
around it, or given by the table. -/
inductive Diagnostic.NamesSentinel (table : CheckerTable) (d : Diagnostic) : Prop where
  | declared {name : String} :
      d.checkerName = some name -> Text.trim name = unresolvedChecker -> NamesSentinel table d
  | inferred :
      d.checkerName = none -> table.lookup? d.description = some unresolvedChecker ->
        NamesSentinel table d

/-- Whether a table is the built-in one, or has been read and no row names the sentinel. -/
inductive CheckerTable.SparesSentinel : CheckerTable -> Prop where
  | builtin : SparesSentinel .builtin
  | read {document : String} {entries : List CheckerEntry} {t : CheckerTable} :
      read document = .ok t ->
        (Json.read? document >>= entriesOfJson?) = some entries ->
        (forall e, e ∈ entries -> Text.trim e.checker ≠ unresolvedChecker) ->
        SparesSentinel t

theorem CheckerTable.SparesSentinel.not_mem_checkers {t : CheckerTable}
    (h : t.SparesSentinel) : unresolvedChecker ∉ t.checkers := by
  intro hmem
  cases h with
  | builtin =>
      have hlisted := mem_builtin_checkers hmem
      revert hlisted
      decide
  | read hread hentries hspared =>
      rcases read_eq_ok_iff.mp hread with ⟨entries, hsame, hrows⟩
      rw [hentries] at hsame
      cases hsame
      rcases exists_entry_of_ofEntries hrows hmem with ⟨e, he, hname, _⟩
      exact hspared e he hname

namespace Finding

/-!
# Findings under the sentinel
-/

section Settled

variable {table : CheckerTable} {d : Diagnostic}

theorem checker_of_unresolved (h : (ofDiagnostic table d).provenance = .unresolved) :
    (ofDiagnostic table d).checker = unresolvedChecker := by
  cases hname : d.checkerName with
  | some name =>
      rw [ofDiagnostic_of_declared hname] at h
      cases h
  | none =>
      cases hlookup : table.lookup? d.description with
      | some checker =>
          rw [ofDiagnostic_of_inferred hname hlookup] at h
          cases h
      | none =>
          rw [ofDiagnostic_of_unknown hname hlookup]

theorem known_of_namesSentinel (h : d.NamesSentinel table) :
    (ofDiagnostic table d).checker = unresolvedChecker ∧
      (ofDiagnostic table d).provenance ≠ .unresolved := by
  cases h with
  | declared hname htrim =>
      rw [ofDiagnostic_of_declared hname]
      exact ⟨htrim, nofun⟩
  | inferred hname hlookup =>
      rw [ofDiagnostic_of_inferred hname hlookup]
      exact ⟨rfl, nofun⟩

theorem unresolved_of_checker (hspared : ¬ d.NamesSentinel table)
    (h : (ofDiagnostic table d).checker = unresolvedChecker) :
    (ofDiagnostic table d).provenance = .unresolved := by
  cases hname : d.checkerName with
  | some name =>
      rw [ofDiagnostic_of_declared hname] at h
      exact absurd (Diagnostic.NamesSentinel.declared hname h) hspared
  | none =>
      cases hlookup : table.lookup? d.description with
      | some checker =>
          rw [ofDiagnostic_of_inferred hname hlookup] at h
          dsimp only at h
          rw [h] at hlookup
          exact absurd (Diagnostic.NamesSentinel.inferred hname hlookup) hspared
      | none =>
          rw [ofDiagnostic_of_unknown hname hlookup]

/-- The sentinel tells that a checker is not known unless it is the name that was found. -/
theorem checker_eq_iff_unresolved_iff :
    ((ofDiagnostic table d).checker = unresolvedChecker <->
        (ofDiagnostic table d).provenance = .unresolved) <->
      ¬ d.NamesSentinel table := by
  constructor
  · intro htells hnames
    rcases known_of_namesSentinel hnames with ⟨hchecker, hknown⟩
    exact hknown (htells.mp hchecker)
  · intro hspared
    constructor
    · exact unresolved_of_checker hspared
    · exact checker_of_unresolved

end Settled

end Finding

/-- Whether a report stands under the sentinel although its checker is known. -/
def Report.isMistakable (r : Report) : Bool :=
  r.checker == unresolvedChecker && r.provenance != .unresolved

namespace Outcome

/-!
# Reports under the sentinel
-/

/-- Whether the sentinel tells the reports whose checker is not known from all others. -/
def TellsUnresolved (o : Outcome) : Prop :=
  forall r, r ∈ o.reports -> (r.checker = unresolvedChecker <-> r.provenance = .unresolved)

def sentinelCount (o : Outcome) : Nat :=
  o.reports.countP fun r => r.checker == unresolvedChecker

theorem sentinelCount_eq {o : Outcome}
    (h : forall r, r ∈ o.reports -> r.provenance = .unresolved ->
      r.checker = unresolvedChecker) :
    o.sentinelCount = o.unresolvedCount + o.reports.countP Report.isMistakable := by
  unfold sentinelCount unresolvedCount
  generalize o.reports = reports at h ⊢
  induction reports with
  | nil =>
      rfl
  | cons r rest ih =>
      rw [List.forall_mem_cons] at h
      rw [List.countP_cons, List.countP_cons, List.countP_cons, ih h.2]
      unfold Report.isMistakable
      by_cases hunresolved : r.provenance = .unresolved
      · simp only [hunresolved, h.1 hunresolved, beq_self_eq_true, bne_self_eq_false,
          Bool.and_false, Bool.false_eq_true, if_true, if_false]
        omega
      · have hbeq : (r.provenance == Provenance.unresolved) = false :=
          beq_eq_false_iff_ne.mpr hunresolved
        simp only [bne, hbeq, Bool.not_false, Bool.and_true, Bool.false_eq_true, if_false]
        omega

theorem countP_isMistakable_eq_zero_iff {o : Outcome}
    (h : forall r, r ∈ o.reports -> r.provenance = .unresolved ->
      r.checker = unresolvedChecker) :
    o.reports.countP Report.isMistakable = 0 <-> o.TellsUnresolved := by
  rw [List.countP_eq_zero]
  unfold Report.isMistakable
  constructor
  · intro hnone r hr
    constructor
    · intro hchecker
      simpa [hchecker] using hnone r hr
    · exact h r hr
  · intro htells r hr
    simpa using (htells r hr).mp

theorem unresolvedCount_eq_sentinelCount_iff {o : Outcome}
    (h : forall r, r ∈ o.reports -> r.provenance = .unresolved ->
      r.checker = unresolvedChecker) :
    o.unresolvedCount = o.sentinelCount <-> o.TellsUnresolved := by
  rw [sentinelCount_eq h, Nat.left_eq_add]
  exact countP_isMistakable_eq_zero_iff h

/-!
# Reported findings
-/

/-- Whether a finding of a bundle is reported: it repeats none before it. -/
def Reported (table : CheckerTable) (b : Bundle) (f : Finding) : Prop :=
  exists place : Nat, Assembly.IsFirst (findingsOf table b) place ∧
    (findingsOf table b)[place]? = some f

section Reports

variable {b : Bundle} {table : CheckerTable} {sources : Sources} {settings : Settings}
  {o : Outcome}

theorem Reported.exists_diagnostic {f : Finding} (h : Reported table b f) :
    exists d, d ∈ b.diagnostics ∧ f = Finding.ofDiagnostic table d := by
  rcases h with ⟨place, _, hf⟩
  rcases List.mem_map.mp (List.mem_of_getElem? hf) with ⟨d, hd, hfd⟩
  exact ⟨d, hd, hfd.symm⟩

theorem exists_reported_of_report (h : ofBundle b table sources settings = .ok o)
    {r : Report} (hr : r ∈ o.reports) :
    exists f, Reported table b f ∧ r.checker = f.checker ∧ r.provenance = f.provenance := by
  rcases exists_finding_of_report h hr with ⟨place, f, hfirst, hf, hrecords⟩
  exact ⟨f, ⟨place, hfirst, hf⟩, hrecords.checker, hrecords.provenance⟩

theorem exists_report_of_reported (h : ofBundle b table sources settings = .ok o)
    {f : Finding} (hf : Reported table b f) :
    exists r, r ∈ o.reports ∧ r.checker = f.checker ∧ r.provenance = f.provenance := by
  rcases hf with ⟨place, hfirst, hplace⟩
  rcases exists_report_of_isFirst h hfirst hplace with ⟨r, identity, hr, hrecords⟩
  exact ⟨r, hr, hrecords.checker, hrecords.provenance⟩

theorem checker_of_unresolved_report (h : ofBundle b table sources settings = .ok o)
    {r : Report} (hr : r ∈ o.reports) (hunresolved : r.provenance = .unresolved) :
    r.checker = unresolvedChecker := by
  rcases exists_reported_of_report h hr with ⟨f, hf, hchecker, hprovenance⟩
  rcases hf.exists_diagnostic with ⟨d, _, rfl⟩
  rw [hchecker]
  apply Finding.checker_of_unresolved
  rw [← hprovenance]
  exact hunresolved

theorem tellsUnresolved_iff (h : ofBundle b table sources settings = .ok o) :
    o.TellsUnresolved <->
      forall f, Reported table b f -> ¬ f.diagnostic.NamesSentinel table := by
  constructor
  · intro htells f hf
    rcases exists_report_of_reported h hf with ⟨r, hr, hchecker, hprovenance⟩
    have htold := htells r hr
    rcases hf.exists_diagnostic with ⟨d, _, rfl⟩
    rw [hchecker, hprovenance, Finding.checker_eq_iff_unresolved_iff] at htold
    rw [Finding.ofDiagnostic_diagnostic]
    exact htold
  · intro hspared r hr
    rcases exists_reported_of_report h hr with ⟨f, hf, hchecker, hprovenance⟩
    have hsparing := hspared f hf
    rcases hf.exists_diagnostic with ⟨d, _, rfl⟩
    rw [Finding.ofDiagnostic_diagnostic] at hsparing
    rw [hchecker, hprovenance]
    exact Finding.checker_eq_iff_unresolved_iff.mpr hsparing

theorem not_namesSentinel_of_spares (htable : table.SparesSentinel) {d : Diagnostic}
    (hnames : forall name, d.checkerName = some name -> Text.trim name ≠ unresolvedChecker) :
    ¬ d.NamesSentinel table := by
  intro h
  cases h with
  | declared hname htrim =>
      exact hnames _ hname htrim
  | inferred _ hlookup =>
      exact htable.not_mem_checkers (CheckerTable.mem_checkers_of_lookup? hlookup)

end Reports

/-- Unresolved reports always stand under the sentinel. They are the only ones that do, and as
many as there are, if and only if no diagnostic that is reported names the sentinel. So it is
where neither a checker that the bundle declares nor a row of the table is the sentinel. -/
theorem tellsUnresolved_iff_of_ingest {document : Bytes} {table : CheckerTable}
    {sources : Sources} {settings : Settings} {o : Outcome}
    (h : ingest document table sources settings = .ok o) :
    exists b, Bundle.read document = .ok b ∧
      (forall r, r ∈ o.reports -> r.provenance = .unresolved ->
        r.checker = unresolvedChecker) ∧
      (o.TellsUnresolved <->
        forall f, Reported table b f -> ¬ f.diagnostic.NamesSentinel table) ∧
      (o.unresolvedCount = o.sentinelCount <-> o.TellsUnresolved) ∧
      (table.SparesSentinel ->
        (forall d, d ∈ b.diagnostics -> forall name, d.checkerName = some name ->
          Text.trim name ≠ unresolvedChecker) ->
        o.TellsUnresolved) := by
  rcases exists_read_of_ingest h with ⟨b, hread, hbundle⟩
  have hunresolved : forall r, r ∈ o.reports -> r.provenance = .unresolved ->
      r.checker = unresolvedChecker := by
    intro r hr
    exact checker_of_unresolved_report hbundle hr
  refine ⟨b, hread, hunresolved, tellsUnresolved_iff hbundle,
    unresolvedCount_eq_sentinelCount_iff hunresolved, ?_⟩
  intro htable hnames
  apply (tellsUnresolved_iff hbundle).mpr
  intro f hf
  rcases hf.exists_diagnostic with ⟨d, hd, rfl⟩
  rw [Finding.ofDiagnostic_diagnostic]
  exact not_namesSentinel_of_spares htable (hnames d hd)

def sentinelMarkup : String :=
  "<key>check_name</key><string>NOT FOUND</string>"

theorem not_tellsUnresolved_of_ingest :
    ¬ forall (document : Bytes) (table : CheckerTable) (sources : Sources)
      (settings : Settings) (o : Outcome),
      (table = .builtin ∨ exists text, CheckerTable.read text = .ok table) ->
        ingest document table sources settings = .ok o ->
        o.TellsUnresolved ∧ o.unresolvedCount = o.sentinelCount := by
  intro h
  have hcounts :
      (ingest (divisionDocument sentinelMarkup) .builtin .unavailable {}).toOption.map
          (fun o => (o.unresolvedCount, o.sentinelCount)) = some (0, 1) := by
    decide +kernel
  rcases map_toOption_eq_some_iff.mp hcounts with ⟨o, hingest, hcount⟩
  rcases Prod.mk.inj hcount with ⟨hnone, hone⟩
  have hequal := (h _ _ _ _ o (Or.inl rfl) hingest).2
  rw [hnone, hone] at hequal
  cases hequal

def sparingText : String :=
  "[[[\"core.NullDereference\",\"Dereference of null pointer\"]]]"

def sparingTable : CheckerTable :=
  CheckerTable.empty.addDescription "Dereference of null pointer" "core.NullDereference"

theorem sparesSentinel_sparingTable : sparingTable.SparesSentinel := by
  have hentries :
      (Json.read? sparingText >>= CheckerTable.entriesOfJson?) =
        some [⟨"core.NullDereference", some "Dereference of null pointer", none⟩] := by
    decide +kernel
  have hread : CheckerTable.read sparingText = .ok sparingTable :=
    CheckerTable.read_eq_ok_iff.mpr ⟨_, hentries, rfl⟩
  apply CheckerTable.SparesSentinel.read hread hentries
  decide

/-- Names the checker of a diagnostic of its own, in front of the one that it is put into. -/
def apartMarkup : String :=
  "<key>check_name</key><string>core.DivideZero</string><key>location</key>" ++
    Bundle.placeMarkup "0" ++ "</dict><dict>"

theorem tellsUnresolved_divisionDocument :
    exists o b, ingest (divisionDocument apartMarkup) sparingTable .unavailable {} = .ok o ∧
      Bundle.read (divisionDocument apartMarkup) = .ok b ∧
      o.reports.map Report.provenance = [.declared, .unresolved] ∧
      o.TellsUnresolved ∧ o.unresolvedCount = o.sentinelCount := by
  have hreports :
      (ingest (divisionDocument apartMarkup) sparingTable .unavailable {}).toOption.map
          (fun o => o.reports.map Report.provenance) =
        some [.declared, .unresolved] := by
    decide +kernel
  have hdeclared :
      (Bundle.read (divisionDocument apartMarkup)).toOption.map
          (fun b => b.diagnostics.map Diagnostic.checkerName) =
        some [some "core.DivideZero", none, none] := by
    decide +kernel
  rcases map_toOption_eq_some_iff.mp hreports with ⟨o, hingest, hprovenance⟩
  rcases tellsUnresolved_iff_of_ingest hingest with ⟨b, hread, _, _, hcount, hspared⟩
  rw [hread] at hdeclared
  have hnames : b.diagnostics.map Diagnostic.checkerName =
      [some "core.DivideZero", none, none] := Option.some.inj hdeclared
  have htells : o.TellsUnresolved := by
    apply hspared sparesSentinel_sparingTable
    intro d hd name hname
    have hmem : some name ∈ b.diagnostics.map Diagnostic.checkerName :=
      List.mem_map.mpr ⟨d, hd, hname⟩
    rw [hnames] at hmem
    simp only [List.mem_cons, Option.some.injEq, reduceCtorEq, List.not_mem_nil,
      or_false] at hmem
    subst hmem
    decide
  exact ⟨o, b, hingest, hread, hprovenance, htells, hcount.mpr htells⟩

end Outcome
end FindingLedger
