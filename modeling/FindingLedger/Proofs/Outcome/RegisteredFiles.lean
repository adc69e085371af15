import FindingLedger.Proofs.Outcome.CheckerIndependence
import FindingLedger.Proofs.Report.RegisteredFiles

/-!
# Registered files of an outcome

Reports name files by their paths, and the registry holds the paths. Every path that a report
names is registered, and a path is registered only if a diagnostic that is reported refers to
it. What is known of a registered path is what the sources hold under it.
-/

namespace FindingLedger

namespace Report

/-!
# Places of a report
-/

/-- The places that a report names: its own, those of the steps of its path, and those of its
notes. -/
inductive Refers (r : Report) : ReportLocation -> Prop where
  | own : Refers r r.location
  | step {s : ReportStep} : s ∈ r.path -> Refers r s.location
  | note {s : ReportStep} : s ∈ r.notes -> Refers r s.location

theorem Records.exists_refers {files : List String} {f : Finding} {identity : Identity}
    {r : Report} (h : r.Records files f identity) {place : ReportLocation}
    (hplace : r.Refers place) : exists l, f.diagnostic.Refers l ∧ place.Names files l := by
  cases hplace with
  | own =>
      exact ⟨f.diagnostic.location, Diagnostic.Refers.own, h.location⟩
  | step hstep =>
      rcases exists_of_forall₂_right h.path hstep with ⟨e, he, _, hnames, _⟩
      exact ⟨e.location, Diagnostic.Refers.step he, hnames⟩
  | note hnote =>
      rcases exists_of_forall₂_right h.notes hnote with ⟨n, hn, _, hnames, _⟩
      exact ⟨n.location, Diagnostic.Refers.note hn, hnames⟩

end Report

namespace Outcome

/-!
# Findings behind the reports
-/

/-- Each report is that of a finding that repeats none before it, identified by its own file. -/
theorem exists_finding_of_report {b : Bundle} {table : CheckerTable} {sources : Sources}
    {settings : Settings} {o : Outcome} (h : ofBundle b table sources settings = .ok o)
    {r : Report} (hr : r ∈ o.reports) :
    exists place f, Assembly.IsFirst (findingsOf table b) place ∧
      (findingsOf table b)[place]? = some f ∧
      r.Records b.files f (Identity.of sources settings f r.location.file) := by
  rcases ofBundle_eq_ok_iff.mp h with
    ⟨_, ho⟩ | ⟨_, identities, assembly, hidentities, hassembly, ho⟩
  · subst ho
    cases hr
  · subst ho
    rcases Assembly.of_eq_ok_iff.mp hassembly with ⟨hlength, hreports, _, _⟩
    rcases exists_of_forall₂_right (each_eq_ok_iff.mp hreports) hr with
      ⟨⟨f, identity⟩, hkept, hwritten⟩
    rcases (Assembly.mem_kept_iff hlength).mp ⟨identity, hkept⟩ with ⟨place, hfirst, hplace⟩
    have hzip := (Assembly.firsts_sublist [] _).subset hkept
    have hidentity := (List.forall₂_iff_zip.mp (each_eq_ok_iff.mp hidentities)).2 hzip
    have hrecords := Report.records_of_ofFinding hwritten
    rcases identify_eq_ok_iff.mp hidentity with ⟨path, hpath, rfl⟩
    -- The file that identifies the finding is the one that the report names.
    have hfile : path = r.location.file :=
      Option.some.inj (hpath.symm.trans hrecords.location.1)
    subst hfile
    exact ⟨place, f, hfirst, hplace, hrecords⟩

theorem exists_report_of_isFirst {b : Bundle} {table : CheckerTable} {sources : Sources}
    {settings : Settings} {o : Outcome} (h : ofBundle b table sources settings = .ok o)
    {place : Nat} {f : Finding} (hfirst : Assembly.IsFirst (findingsOf table b) place)
    (hf : (findingsOf table b)[place]? = some f) :
    exists r identity, r ∈ o.reports ∧ r.Records b.files f identity := by
  rcases ofBundle_eq_ok_iff.mp h with
    ⟨hnone, _⟩ | ⟨_, identities, assembly, _, hassembly, ho⟩
  · unfold findingsOf at hf
    rw [hnone] at hf
    cases hf
  · subst ho
    rcases Assembly.of_eq_ok_iff.mp hassembly with ⟨hlength, hreports, _, _⟩
    rcases (Assembly.mem_kept_iff hlength).mpr ⟨place, hfirst, hf⟩ with ⟨identity, hkept⟩
    rcases exists_of_forall₂_right (List.Forall₂.flip (each_eq_ok_iff.mp hreports)) hkept
      with ⟨r, hr, hwritten⟩
    exact ⟨r, identity, hr, Report.records_of_ofFinding hwritten⟩

theorem lists_files_of_ofBundle {b : Bundle} {table : CheckerTable} {sources : Sources}
    {settings : Settings} {o : Outcome} (h : ofBundle b table sources settings = .ok o) :
    o.files.Lists b.files sources (Assembly.Uses (findingsOf table b)) := by
  rcases ofBundle_eq_ok_iff.mp h with
    ⟨hnone, ho⟩ | ⟨_, identities, assembly, _, hassembly, ho⟩
  · subst ho
    refine ⟨[], List.Pairwise.nil, ?_, rfl⟩
    intro index path
    constructor
    · intro hmem
      cases hmem
    · intro hleast
      rcases hleast.isUsed with ⟨place, f, _, _, hf, _, _⟩
      unfold findingsOf at hf
      rw [hnone] at hf
      cases hf
  · subst ho
    exact Assembly.lists_files hassembly

theorem mem_pathList_of_report {b : Bundle} {table : CheckerTable} {sources : Sources}
    {settings : Settings} {o : Outcome} (h : ofBundle b table sources settings = .ok o)
    {r : Report} (hr : r ∈ o.reports) {place : ReportLocation} (hplace : r.Refers place) :
    place.file ∈ o.files.pathList := by
  rcases exists_finding_of_report h hr with ⟨position, f, hfirst, hf, hrecords⟩
  rcases hrecords.exists_refers hplace with ⟨l, hl, hnames⟩
  rw [(lists_files_of_ofBundle h).mem_pathList_iff]
  exact ⟨l.fileIndex, ⟨position, f, l, hfirst, hf, hl, rfl⟩, hnames.1⟩

/-!
# Closed and least registries
-/

/-- Whether the registry of an outcome holds every file that a report names and just the files
in use, each path once, in the order of the least numbers that the paths go by. -/
structure RegistersFiles (o : Outcome) (files : List String) (sources : Sources)
    (used : Nat -> Prop) : Prop where
  closed : forall r, r ∈ o.reports -> forall place, r.Refers place ->
    place.file ∈ o.files.pathList
  mem_iff : forall path, path ∈ o.files.pathList <->
    exists index, used index ∧ files[index]? = some path
  nodup : o.files.pathList.Nodup
  ordered : exists indices : List Nat, indices.Pairwise (· < ·) ∧
    List.Forall₂ (IsLeastIndex files used) indices o.files.pathList
  /-- The digest of a path is that of what the sources hold there. -/
  digest : forall path, path ∈ o.files.pathList ->
    o.files.digestOf? path = (sources.bytes? path).map Digest.ofBytes
  unreadable : forall path, path ∈ o.files.unreadable <->
    path ∈ o.files.pathList ∧ sources.bytes? path = none

theorem registersFiles_of_ofBundle {b : Bundle} {table : CheckerTable} {sources : Sources}
    {settings : Settings} {o : Outcome} (h : ofBundle b table sources settings = .ok o) :
    o.RegistersFiles b.files sources (Assembly.Uses (findingsOf table b)) := by
  have hlists := lists_files_of_ofBundle h
  constructor
  · intro r hr place hplace
    exact mem_pathList_of_report h hr hplace
  · intro path
    exact hlists.mem_pathList_iff
  · exact hlists.nodup
  · exact hlists.exists_indices
  · intro path hpath
    exact hlists.digestOf?_eq hpath
  · intro path
    exact hlists.mem_unreadable_iff

/-- Whatever is taken in, its registry holds the files that the reports name, and only files
that the diagnostics behind the reports refer to. -/
theorem exists_registersFiles_of_ingest {document : Bytes} {table : CheckerTable}
    {sources : Sources} {settings : Settings} {o : Outcome}
    (h : ingest document table sources settings = .ok o) :
    exists b, Bundle.read document = .ok b ∧
      o.RegistersFiles b.files sources (Assembly.Uses (findingsOf table b)) := by
  rcases exists_read_of_ingest h with ⟨b, hread, hbundle⟩
  exact ⟨b, hread, registersFiles_of_ofBundle hbundle⟩

/-- A bundle that lists a path twice. Its diagnostic has a step with a range in a header and a
note in another file. The diagnostic that repeats it has a note in a further file. -/
def listedTwiceDocument : Bytes :=
  ("<plist><dict><key>files</key><array><string>b.c</string><string>a.c</string>" ++
    "<string>a.c</string><string>c.h</string><string>d.h</string></array>" ++
    "<key>diagnostics</key><array><dict><key>location</key>" ++ Bundle.placeMarkup "2" ++
    "<key>path</key><array><dict><key>kind</key><string>event</string><key>location</key>" ++
    Bundle.placeMarkup "1" ++ "<key>ranges</key><array><array>" ++ Bundle.placeMarkup "3" ++
    "</array></array></dict></array><key>notes</key><array><dict><key>location</key>" ++
    Bundle.placeMarkup "0" ++ "</dict></array></dict><dict><key>location</key>" ++
    Bundle.placeMarkup "2" ++
    "<key>path</key><array><dict><key>kind</key><string>event</string><key>location</key>" ++
    Bundle.placeMarkup "1" ++ "</dict></array><key>notes</key><array><dict>" ++
    "<key>location</key>" ++ Bundle.placeMarkup "4" ++
    "</dict></array></dict></array></dict></plist>").toUTF8.data.toList

/-- The path that is listed twice stands at its first place, and the file of the repeated
diagnostic's note is missing. -/
theorem exists_registersFiles_listedTwiceDocument :
    exists b o, Bundle.read listedTwiceDocument = .ok b ∧
      ingest listedTwiceDocument .empty (.ofFiles [("a.c", [0x0A])]) {} = .ok o ∧
      o.files.pathList = ["b.c", "a.c", "c.h"] ∧ o.files.unreadable = ["b.c", "c.h"] ∧
      o.RegistersFiles b.files (.ofFiles [("a.c", [0x0A])])
        (Assembly.Uses (findingsOf .empty b)) := by
  have hfiles :
      (ingest listedTwiceDocument .empty (.ofFiles [("a.c", [0x0A])]) {}).toOption.map
          (fun o => (o.files.pathList, o.files.unreadable)) =
        some (["b.c", "a.c", "c.h"], ["b.c", "c.h"]) := by
    decide +kernel
  rcases map_toOption_eq_some_iff.mp hfiles with ⟨o, hingest, hlists⟩
  rcases Prod.mk.inj hlists with ⟨hpaths, hunreadable⟩
  rcases exists_registersFiles_of_ingest hingest with ⟨b, hread, hregisters⟩
  exact ⟨b, o, hread, hingest, hpaths, hunreadable, hregisters⟩

end Outcome
end FindingLedger
