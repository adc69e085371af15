import FindingLedger.Proofs.Outcome.DistinctFindings

/-!
# Checker names and outcomes

Generations of analyzers differ in what they say about checkers: some write no names, some
write no hashes. Nothing of this, and no checker table, has a say in which findings are kept
or which files are registered. Reports show it in what they say about the checker and in the
hashes, and the hashes change only where the name of the checker does.
-/

namespace FindingLedger

/-- Whether two diagnostics agree in everything but the name of the checker and the
analyzer's hash. -/
def Diagnostic.SameBesideChecker (d e : Diagnostic) : Prop :=
  { d with checkerName := e.checkerName, embeddedHash := e.embeddedHash } = e

instance (d e : Diagnostic) : Decidable (d.SameBesideChecker e) :=
  inferInstanceAs
    (Decidable ({ d with checkerName := e.checkerName, embeddedHash := e.embeddedHash } = e))

/-- Whether two reports agree in everything but the checker, where its name comes from, the
hashes of the finding, and the analyzer's own hash. -/
def Report.SameBesideChecker (r s : Report) : Prop :=
  { r with
    checker := s.checker
    provenance := s.provenance
    identity := ⟨s.identity.contentHash, s.identity.contextHash, r.identity.degraded⟩
    analyzerHash := s.analyzerHash } = s

/-!
# Findings
-/

namespace Finding

/-- Whether two findings are of diagnostics that agree in everything but the checker. -/
def SameBesideChecker (f g : Finding) : Prop :=
  f.diagnostic.SameBesideChecker g.diagnostic

theorem signature_eq_of_sameBesideChecker {f g : Finding} (h : f.SameBesideChecker g) :
    Signature.of f = Signature.of g := by
  unfold SameBesideChecker Diagnostic.SameBesideChecker at h
  unfold Signature.of
  rw [← h]

theorem fileIndices_eq_of_sameBesideChecker {f g : Finding} (h : f.SameBesideChecker g) :
    f.diagnostic.fileIndices = g.diagnostic.fileIndices := by
  unfold SameBesideChecker Diagnostic.SameBesideChecker at h
  rw [← h]
  rfl

/-- What identifies the content of a finding takes from it the checker's name, the context
and the place. -/
theorem contentKey_eq_of_sameBesideChecker {f g : Finding} (h : f.SameBesideChecker g)
    (hchecker : f.checker = g.checker) (sources : Sources) (settings : Settings)
    (path : String) :
    Identity.contentKey sources settings f path =
      Identity.contentKey sources settings g path := by
  unfold SameBesideChecker Diagnostic.SameBesideChecker at h
  unfold Identity.contentKey Finding.context Finding.location
  rw [← h, hchecker]

theorem contextKey_eq_of_sameBesideChecker {f g : Finding} (h : f.SameBesideChecker g)
    (hchecker : f.checker = g.checker) (sources : Sources) (settings : Settings)
    (path : String) :
    Identity.contextKey sources settings f path =
      Identity.contextKey sources settings g path := by
  unfold SameBesideChecker Diagnostic.SameBesideChecker at h
  unfold Identity.contextKey Identity.offsetOf Finding.context Finding.location
  rw [← h, hchecker]

theorem identity_eq_of_sameBesideChecker {f g : Finding} (h : f.SameBesideChecker g)
    (hchecker : f.checker = g.checker) (sources : Sources) (settings : Settings)
    (path : String) :
    Identity.of sources settings f path = Identity.of sources settings g path := by
  unfold Identity.of
  rw [contentKey_eq_of_sameBesideChecker h hchecker,
    contextKey_eq_of_sameBesideChecker h hchecker]

theorem degraded_eq_of_sameBesideChecker {f g : Finding} (h : f.SameBesideChecker g)
    (sources : Sources) (settings : Settings) (path : String) :
    (Identity.of sources settings f path).degraded =
      (Identity.of sources settings g path).degraded := by
  unfold SameBesideChecker Diagnostic.SameBesideChecker at h
  unfold Identity.of Identity.contentKey Finding.location
  rw [← h]
  dsimp only
  cases sources.line? path f.diagnostic.location.line <;> rfl

/-- Whether two findings agree in everything but the checker, and their identities in
everything that the name of the checker has no part in. -/
def IdentifiedAlike (f g : Finding × Identity) : Prop :=
  f.1.SameBesideChecker g.1 ∧ f.2.degraded = g.2.degraded ∧
    (f.1.checker = g.1.checker -> f.2 = g.2)

end Finding

open Finding (IdentifiedAlike)

/-!
# Findings that are kept
-/

namespace Assembly

theorem identifiedAlike_firsts {fs gs : List (Finding × Identity)}
    (h : List.Forall₂ IdentifiedAlike fs gs) (seen : List Signature) :
    List.Forall₂ IdentifiedAlike (firsts seen fs) (firsts seen gs) := by
  induction h generalizing seen with
  | nil =>
      exact List.Forall₂.nil
  | @cons f g fs gs hfg _ ih =>
      unfold firsts
      dsimp only
      rw [Finding.signature_eq_of_sameBesideChecker hfg.1]
      split
      · exact ih seen
      · exact List.Forall₂.cons hfg (ih (Signature.of g.1 :: seen))

/-- Findings that agree in everything but the checker are kept at the same places, which are
counted from some number on. -/
theorem exists_places_of_firsts {fs gs : List (Finding × Identity)}
    (h : List.Forall₂ IdentifiedAlike fs gs) (seen : List Signature) (start : Nat) :
    exists places : List Nat,
      places.Pairwise (· < ·) ∧ (forall i, i ∈ places -> start ≤ i) ∧
      List.Forall₂ (fun i f => (f, i) ∈ fs.zipIdx start) places (firsts seen fs) ∧
      List.Forall₂ (fun i g => (g, i) ∈ gs.zipIdx start) places (firsts seen gs) := by
  induction h generalizing seen start with
  | nil =>
      exact ⟨[], List.Pairwise.nil, by simp, List.Forall₂.nil, List.Forall₂.nil⟩
  | @cons f g fs gs hfg _ ih =>
      rw [List.zipIdx_cons, List.zipIdx_cons]
      unfold firsts
      dsimp only
      rw [Finding.signature_eq_of_sameBesideChecker hfg.1]
      split
      · rcases ih seen (start + 1) with ⟨places, hsorted, hlater, hfs, hgs⟩
        refine ⟨places, hsorted, fun i hi => Nat.le_of_succ_le (hlater i hi), ?_, ?_⟩
        · exact hfs.imp fun i a ha => List.mem_cons_of_mem _ ha
        · exact hgs.imp fun i a ha => List.mem_cons_of_mem _ ha
      · rcases ih (Signature.of g.1 :: seen) (start + 1) with
          ⟨places, hsorted, hlater, hfs, hgs⟩
        refine ⟨start :: places, List.Pairwise.cons hlater hsorted, ?_, ?_, ?_⟩
        · intro i hi
          rcases List.mem_cons.mp hi with hi | hi
          · exact hi ▸ Nat.le_refl i
          · exact Nat.le_of_succ_le (hlater i hi)
        · exact List.Forall₂.cons List.mem_cons_self
            (hfs.imp fun i a ha => List.mem_cons_of_mem _ ha)
        · exact List.Forall₂.cons List.mem_cons_self
            (hgs.imp fun i a ha => List.mem_cons_of_mem _ ha)

theorem flatMap_fileIndices_eq {fs gs : List (Finding × Identity)}
    (h : List.Forall₂ IdentifiedAlike fs gs) :
    (fs.flatMap fun f => f.1.diagnostic.fileIndices) =
      gs.flatMap fun g => g.1.diagnostic.fileIndices := by
  induction h with
  | nil =>
      rfl
  | cons hfg _ ih =>
      rw [List.flatMap_cons, List.flatMap_cons, ih,
        Finding.fileIndices_eq_of_sameBesideChecker hfg.1]

end Assembly

/-!
# Reports
-/

namespace Report

/-- Whether two reports agree in everything but the checker, and in their hashes too where
the checker is the same. -/
def Alike (r s : Report) : Prop :=
  r.SameBesideChecker s ∧ (r.checker = s.checker -> r.identity = s.identity)

theorem alike_of_identifiedAlike {files : List String} {f g : Finding × Identity}
    {r s : Report} (h : IdentifiedAlike f g) (hr : ofFinding files f.1 f.2 = .ok r)
    (hs : ofFinding files g.1 g.2 = .ok s) : r.Alike s := by
  rcases h with ⟨hdiagnostic, hdegraded, hidentity⟩
  rcases ofFinding_eq_ok_iff.mp hr with ⟨hrpath, hrnotes, hrlocation, hrfill⟩
  rcases ofFinding_eq_ok_iff.mp hs with ⟨hspath, hsnotes, hslocation, hsfill⟩
  unfold Finding.SameBesideChecker Diagnostic.SameBesideChecker at hdiagnostic
  rw [← hdiagnostic] at hspath hsnotes hslocation
  have hpath : r.path = s.path := Except.ok.inj (hrpath.symm.trans hspath)
  have hnotes : r.notes = s.notes := Except.ok.inj (hrnotes.symm.trans hsnotes)
  have hlocation : r.location = s.location := Except.ok.inj (hrlocation.symm.trans hslocation)
  rw [hpath, hnotes, hlocation] at hrfill
  constructor
  · unfold SameBesideChecker
    rw [hrfill]
    rw [hsfill]
    unfold fill
    dsimp only
    rw [← hdiagnostic, hdegraded]
  · intro hchecker
    rw [hrfill, hsfill] at hchecker
    rw [hrfill, hsfill]
    exact hidentity hchecker

end Report

/-!
# Assemblies
-/

namespace Assembly

theorem alike_of_identifiedAlike {files : List String} {fs gs : List Finding}
    {is js : List Identity} {sources : Sources} {a c : Assembly}
    (h : List.Forall₂ IdentifiedAlike (fs.zip is) (gs.zip js))
    (hlength : fs.length = gs.length) (ha : of files fs is sources = .ok a)
    (hc : of files gs js sources = .ok c) :
    a.duplicates = c.duplicates ∧ a.files = c.files ∧
      List.Forall₂ Report.Alike a.reports c.reports := by
  rcases of_eq_ok_iff.mp ha with ⟨_, hreports, hregistry, hcount⟩
  rcases of_eq_ok_iff.mp hc with ⟨_, hreports', hregistry', hcount'⟩
  have hkept : List.Forall₂ IdentifiedAlike (kept fs is) (kept gs js) :=
    identifiedAlike_firsts h []
  refine ⟨?_, ?_, ?_⟩
  · rw [hkept.length_eq, hlength] at hcount
    exact Nat.add_left_cancel (hcount.trans hcount'.symm)
  · rw [flatMap_fileIndices_eq hkept] at hregistry
    exact Except.ok.inj (hregistry.symm.trans hregistry')
  · -- From a report to its finding, to the other finding, and to that one's report.
    rw [each_eq_ok_iff] at hreports hreports'
    have hreported : List.Forall₂ (fun r f => Report.ofFinding files f.1 f.2 = .ok r)
        a.reports (kept fs is) :=
      hreports.flip
    have hother : List.Forall₂
        (fun r g => forall s, Report.ofFinding files g.1 g.2 = .ok s -> r.Alike s)
        a.reports (kept gs js) := by
      refine forall₂_trans ?_ hreported hkept
      intro r f g hr hfg s hs
      exact Report.alike_of_identifiedAlike hfg hr hs
    refine forall₂_trans ?_ hother hreports'
    intro r g s hr hs
    exact hr s hs

/-- The reports of findings that agree in everything but the checker are those of the
findings at the same places. -/
theorem exists_places_of_identifiedAlike {files : List String} {fs gs : List Finding}
    {is js : List Identity} {sources : Sources} {a c : Assembly}
    (h : List.Forall₂ IdentifiedAlike (fs.zip is) (gs.zip js))
    (ha : of files fs is sources = .ok a) (hc : of files gs js sources = .ok c) :
    exists places : List Nat, places.Pairwise (· < ·) ∧
      List.Forall₂ (fun i r => exists f, fs[i]? = some f ∧ f.ReportedAs files r)
        places a.reports ∧
      List.Forall₂ (fun i r => exists g, gs[i]? = some g ∧ g.ReportedAs files r)
        places c.reports := by
  rcases of_eq_ok_iff.mp ha with ⟨_, hreports, _, _⟩
  rcases of_eq_ok_iff.mp hc with ⟨_, hreports', _, _⟩
  rcases exists_places_of_firsts h [] 0 with ⟨places, hsorted, _, hplaces, hplaces'⟩
  have hreportedAt : forall (ls : List Finding) (ids : List Identity) (i : Nat)
      (f : Finding × Identity) (r : Report), (f, i) ∈ (ls.zip ids).zipIdx 0 ->
      Report.ofFinding files f.1 f.2 = .ok r ->
      exists f, ls[i]? = some f ∧ f.ReportedAs files r := by
    intro ls ids i f r hf hr
    have hplace := List.mk_mem_zipIdx_iff_getElem?.mp hf
    exact ⟨f.1, (List.getElem?_zip_eq_some.mp hplace).1, f.2, hr⟩
  rw [each_eq_ok_iff] at hreports hreports'
  exact ⟨places, hsorted, forall₂_trans (hreportedAt fs is) hplaces hreports,
    forall₂_trans (hreportedAt gs js) hplaces' hreports'⟩

end Assembly

/-!
# Outcomes
-/

namespace Outcome

theorem sameBesideChecker_findingsOf {b c : Bundle} (table other : CheckerTable)
    (h : List.Forall₂ Diagnostic.SameBesideChecker b.diagnostics c.diagnostics) :
    List.Forall₂ Finding.SameBesideChecker (findingsOf table b) (findingsOf other c) := by
  unfold findingsOf
  rw [List.forall₂_map_left_iff, List.forall₂_map_right_iff]
  refine h.imp fun d e hde => ?_
  unfold Finding.SameBesideChecker
  rw [Finding.ofDiagnostic_diagnostic, Finding.ofDiagnostic_diagnostic]
  exact hde

theorem identify_eq_ok_iff {sources : Sources} {settings : Settings} {files : List String}
    {f : Finding} {identity : Identity} :
    identify sources settings files f = .ok identity <->
      exists path, files[f.location.fileIndex]? = some path ∧
        identity = Identity.of sources settings f path := by
  simp only [identify, bind_eq_ok_iff, Report.pathOf_eq_ok_iff]
  constructor
  · intro h
    rcases h with ⟨path, hpath, hidentity⟩
    exact ⟨path, hpath, (Except.ok.inj hidentity).symm⟩
  · intro h
    rcases h with ⟨path, hpath, hidentity⟩
    exact ⟨path, hpath, congrArg Except.ok hidentity.symm⟩

theorem identifiedAlike_of_identify {sources : Sources} {settings : Settings}
    {files : List String} {f g : Finding} {i j : Identity} (h : f.SameBesideChecker g)
    (hi : identify sources settings files f = .ok i)
    (hj : identify sources settings files g = .ok j) : IdentifiedAlike (f, i) (g, j) := by
  rcases identify_eq_ok_iff.mp hi with ⟨path, hpath, hi⟩
  rcases identify_eq_ok_iff.mp hj with ⟨path', hpath', hj⟩
  have hlocation : f.location = g.location := by
    unfold Finding.SameBesideChecker Diagnostic.SameBesideChecker at h
    unfold Finding.location
    rw [← h]
  rw [← hlocation, hpath] at hpath'
  cases hpath'
  rw [hi, hj]
  exact ⟨h, Finding.degraded_eq_of_sameBesideChecker h sources settings path,
    fun hchecker => Finding.identity_eq_of_sameBesideChecker h hchecker sources settings path⟩

theorem identifiedAlike_zip {sources : Sources} {settings : Settings} {files : List String}
    {fs gs : List Finding} {is js : List Identity}
    (h : List.Forall₂ Finding.SameBesideChecker fs gs)
    (his : List.Forall₂ (fun f i => identify sources settings files f = .ok i) fs is)
    (hjs : List.Forall₂ (fun g j => identify sources settings files g = .ok j) gs js) :
    List.Forall₂ IdentifiedAlike (fs.zip is) (gs.zip js) := by
  induction h generalizing is js with
  | nil =>
      exact List.Forall₂.nil
  | cons hfg _ ih =>
      cases his with
      | cons hi his =>
          cases hjs with
          | cons hj hjs =>
              exact List.Forall₂.cons (identifiedAlike_of_identify hfg hi hj) (ih his hjs)

/-- Whether a report is the one of the diagnostic at some place of a bundle. -/
def ReportsAt (b : Bundle) (table : CheckerTable) (place : Nat) (r : Report) : Prop :=
  exists d, b.diagnostics[place]? = some d ∧
    (Finding.ofDiagnostic table d).ReportedAs b.files r

theorem reportsAt_of_finding {b : Bundle} {table : CheckerTable} {place : Nat} {r : Report}
    (h : exists f, (findingsOf table b)[place]? = some f ∧ f.ReportedAs b.files r) :
    ReportsAt b table place r := by
  rcases h with ⟨f, hf, hr⟩
  unfold findingsOf at hf
  rw [List.getElem?_map, Option.map_eq_some_iff] at hf
  rcases hf with ⟨d, hd, hfd⟩
  exact ⟨d, hd, hfd ▸ hr⟩

/-- Two documents whose bundles agree in everything but the checkers have the same findings
kept and the same files registered, whatever the checker tables say, and their reports agree
but for the checkers and the hashes. A report whose checker has the same name in both has
the same hashes too. -/
theorem ingest_alike_of_sameBesideChecker {document other : Bytes} {b c : Bundle}
    (hb : Bundle.read document = .ok b) (hc : Bundle.read other = .ok c)
    (hfiles : b.files = c.files)
    (hdiagnostics :
      List.Forall₂ Diagnostic.SameBesideChecker b.diagnostics c.diagnostics)
    (table otherTable : CheckerTable) (sources : Sources) (settings : Settings) :
    exists o p,
      ingest document table sources settings = .ok o ∧
      ingest other otherTable sources settings = .ok p ∧
      o.duplicates = p.duplicates ∧ o.files = p.files ∧
      (exists places : List Nat, places.Pairwise (· < ·) ∧
        List.Forall₂ (ReportsAt b table) places o.reports ∧
        List.Forall₂ (ReportsAt c otherTable) places p.reports) ∧
      List.Forall₂ Report.Alike o.reports p.reports := by
  rcases exists_ingest_of_read hb table sources settings with ⟨o, ho, hingest⟩
  rcases exists_ingest_of_read hc otherTable sources settings with ⟨p, hp, hingest'⟩
  refine ⟨o, p, hingest, hingest', ?_⟩
  have hlength : b.diagnostics = [] <-> c.diagnostics = [] := by
    rw [← List.length_eq_zero_iff, hdiagnostics.length_eq, List.length_eq_zero_iff]
  rcases ofBundle_eq_ok_iff.mp ho with ⟨hnil, ho⟩ | ⟨hne, is, a, his, ha, ho⟩
  · rcases ofBundle_eq_ok_iff.mp hp with ⟨_, hp⟩ | ⟨hne, _⟩
    · subst ho hp
      exact ⟨rfl, rfl, ⟨[], List.Pairwise.nil, List.Forall₂.nil, List.Forall₂.nil⟩,
        List.Forall₂.nil⟩
    · exact absurd (hlength.mp hnil) hne
  · rcases ofBundle_eq_ok_iff.mp hp with ⟨hnil, _⟩ | ⟨_, js, a', hjs, ha', hp⟩
    · exact absurd (hlength.mpr hnil) hne
    · subst ho hp
      rw [← hfiles] at hjs ha'
      rw [each_eq_ok_iff] at his hjs
      have hfindings := sameBesideChecker_findingsOf table otherTable hdiagnostics
      have hzip := identifiedAlike_zip hfindings his hjs
      rcases Assembly.alike_of_identifiedAlike hzip hfindings.length_eq ha ha' with
        ⟨hduplicates, hregistry, hreports⟩
      rcases Assembly.exists_places_of_identifiedAlike hzip ha ha' with
        ⟨places, hsorted, hplaces, hplaces'⟩
      rw [hfiles] at hplaces'
      refine ⟨hduplicates, hregistry, ⟨places, hsorted, ?_, ?_⟩, hreports⟩
      · exact hplaces.imp fun place r h => reportsAt_of_finding h
      · exact hplaces'.imp fun place r h => reportsAt_of_finding h

/-- A document with a division by zero that is found twice. The first of the two says
something about the checker. -/
def divisionDocument (checker : String) : Bytes :=
  ("<plist><dict><key>files</key><array><string>a.c</string></array>" ++
    "<key>diagnostics</key><array><dict>" ++ checker ++
    "<key>description</key><string>Division by zero</string><key>location</key>" ++
    Bundle.placeMarkup "0" ++ "</dict><dict><key>description</key>" ++
    "<string>Division by zero</string><key>location</key>" ++ Bundle.placeMarkup "0" ++
    "</dict></array></dict></plist>").toUTF8.data.toList

def checkerMarkup : String :=
  "<key>check_name</key><string>core.DivideZero</string>" ++
    "<key>issue_hash_content_of_line_in_context</key><string>5f</string>"

def divisionDiagnostic (checkerName embeddedHash : Option String) : Diagnostic :=
  { category := "", type := "", description := "Division by zero", checkerName
    location := ⟨0, 3, 1⟩, contextName := none, contextKind := none, path := [], notes := []
    embeddedHash, functionOffset := none }

def divisionBundle (checkerName embeddedHash : Option String) : Bundle :=
  ⟨["a.c"], [divisionDiagnostic checkerName embeddedHash, divisionDiagnostic none none],
    some .unnamed, none⟩

/-- A checker that is named in one document and inferred in the other leaves the one finding
that is kept as it was. -/
theorem ingest_alike_divisionDocument :
    Bundle.read (divisionDocument checkerMarkup) =
        .ok (divisionBundle (some "core.DivideZero") (some "5f")) ∧
      Bundle.read (divisionDocument "") = .ok (divisionBundle none none) ∧
      exists o p,
        ingest (divisionDocument checkerMarkup) .empty .unavailable {} = .ok o ∧
        ingest (divisionDocument "") .builtin .unavailable {} = .ok p ∧
        o.duplicates = p.duplicates ∧ o.files = p.files ∧
        (exists places : List Nat, places.Pairwise (· < ·) ∧
          List.Forall₂
            (ReportsAt (divisionBundle (some "core.DivideZero") (some "5f")) .empty)
            places o.reports ∧
          List.Forall₂ (ReportsAt (divisionBundle none none) .builtin) places p.reports) ∧
        List.Forall₂ Report.Alike o.reports p.reports := by
  have hnamed : Bundle.read (divisionDocument checkerMarkup) =
      .ok (divisionBundle (some "core.DivideZero") (some "5f")) := by
    decide +kernel
  have hunnamed : Bundle.read (divisionDocument "") = .ok (divisionBundle none none) := by
    decide +kernel
  have hdiagnostics : List.Forall₂ Diagnostic.SameBesideChecker
      (divisionBundle (some "core.DivideZero") (some "5f")).diagnostics
      (divisionBundle none none).diagnostics := by
    decide
  exact ⟨hnamed, hunnamed,
    ingest_alike_of_sameBesideChecker hnamed hunnamed rfl hdiagnostics .empty .builtin
      .unavailable {}⟩

end Outcome
end FindingLedger
