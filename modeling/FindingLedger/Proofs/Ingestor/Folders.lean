import FindingLedger.Ingestor.Basic
import FindingLedger.Proofs.Volume.Discovery

/-!
# Folders of bundles

Of a folder an ingestor takes in each bundle that lies at or below it, once and in the order of
the paths. The tree alone decides what comes of it, in whatever order its folders list their
entries.
-/

namespace FindingLedger

namespace Volume

variable {v : Volume} {start : Path} {place names : List Bytes}

theorem readBytes_pathBelow (hsound : v.root.Sound) (h : v.locate start = .ok place)
    {content : Bytes} (hat : v.root.at? (place ++ names) = some (.file content)) :
    v.readBytes (pathBelow start names) = .ok content := by
  have hnames : forall name, name ∈ names -> Path.IsName name :=
    fun name hname => (hsound.at? hat).2 name (List.mem_append_right place hname)
  unfold readBytes
  rw [node_of_locate (locate_pathBelow hnames h hat) hat]

end Volume

namespace Ingestor

variable {v w : Volume} {start : Path} {place : List Bytes} {paths : List Path}

section SameTree

variable (i : Ingestor) (h : v.root.SameTree w.root) (hwork : v.work = w.work)

include h hwork

theorem ingestBytes_eq_of_sameTree (document : Bytes) :
    i.ingestBytes v document = i.ingestBytes w document := by
  unfold ingestBytes SourceAccess.sources
  cases i.access with
  | shared sources =>
      rfl
  | volume root =>
      dsimp only
      rw [Volume.sources_eq_of_sameTree h hwork]

theorem ingestFile_eq_of_sameTree (path : Path) : i.ingestFile v path = i.ingestFile w path := by
  unfold ingestFile
  rw [Volume.readBytes_eq_of_sameTree h hwork]
  simp only [i.ingestBytes_eq_of_sameTree h hwork]

end SameTree

/-- Whether results are those of the bundles under some paths, one for each path. -/
structure TakesInEach (i : Ingestor) (v : Volume) (start : Path) (place : List Bytes)
    (paths : List Path) (results : List BundleResult) : Prop where
  paths : results.map BundleResult.path = paths
  outcome : forall result, result ∈ results -> exists names content,
    v.root.at? (place ++ names) = some (.file content) ∧
      result.path = Volume.pathBelow start names ∧ result.outcome = i.ingestBytes v content

theorem takesInEach_ingestBatch (i : Ingestor) (hsound : v.root.Sound)
    (h : v.locate start = .ok place) (hpaths : v.ListsBundles start place paths) :
    i.TakesInEach v start place paths (i.ingestBatch v paths) := by
  constructor
  · unfold ingestBatch
    rw [List.map_map]
    exact List.map_id _
  · intro result hresult
    rcases List.mem_map.mp hresult with ⟨path, hpath, rfl⟩
    rcases ((hpaths.mem_iff path).mp hpath).2 with ⟨names, content, hcontent, heq⟩
    refine ⟨names, content, hcontent, heq, ?_⟩
    change i.ingestFile v path = _
    rw [ingestFile, heq, Volume.readBytes_pathBelow hsound h hcontent]

/-- The bundles at or below a path in a volume are discovered and taken in, each once and in the
order of the components of their paths, and so they are in whatever order entries are listed. -/
theorem exists_discover_and_ingestFolder (hsound : v.root.Sound)
    (h : v.locate start = .ok place) :
    exists paths, v.discover start = .ok paths ∧ v.ListsBundles start place paths ∧
      (forall i : Ingestor, exists results, i.ingestFolder v start = .ok results ∧
        i.TakesInEach v start place paths results) ∧
      forall w : Volume, v.root.Relisted w.root -> v.work = w.work ->
        w.discover start = .ok paths ∧
          forall i : Ingestor, i.ingestFolder w start = i.ingestFolder v start := by
  rcases Volume.exists_listsBundles_of_locate hsound h with ⟨paths, hdiscover, hlists⟩
  refine ⟨paths, hdiscover, hlists, ?_, ?_⟩
  · intro i
    refine ⟨i.ingestBatch v paths, ?_, i.takesInEach_ingestBatch hsound h hlists⟩
    rw [ingestFolder, hdiscover]
  · intro w hrelisted hwork
    rcases hrelisted.sound_and_sameTree hsound with ⟨hsound', hsame⟩
    have hplace : w.locate start = .ok place := by
      rw [← Volume.locate_eq_of_sameTree hsame hwork, h]
    rcases Volume.exists_listsBundles_of_locate hsound' hplace with ⟨paths', hdiscover', hlists'⟩
    have hpaths : paths' = paths :=
      (hlists'.of_sameTree hsame).unique hlists
    rw [hpaths] at hdiscover'
    refine ⟨hdiscover', ?_⟩
    intro i
    rw [ingestFolder, ingestFolder, hdiscover, hdiscover']
    simp only [ingestBatch, i.ingestFile_eq_of_sameTree hsame hwork]

def named (name : String) (node : Node) : Bytes × Node :=
  (Path.ofText name, node)

/-- A volume with folders and files whose names come close to those of bundles. One of the names
is no text. -/
def nestedVolume : Volume :=
  ⟨[named "logs" (.folder [named "b.plist" (.file [1]), named "a.plist" (.file [2]),
    named ".plist" (.file [3]), (0xFF :: Path.ofText ".plist", .file [4]),
    named "x.plist" (.folder [named "..PList" (.file [5]), named "plist" (.file [6])]),
    named "a" (.folder [named "c.d.plist" (.file [7])]), named "a-b.plist" (.file [8])])],
    [Path.ofText "logs", Path.ofText "a"]⟩

theorem sound_nestedVolume : nestedVolume.root.Sound := by
  refine .folder (by decide +kernel) (by decide +kernel) (List.forall_mem_singleton.mpr ?_)
  refine .folder (by decide +kernel) (by decide +kernel) ?_
  simp only [List.forall_mem_cons, List.not_mem_nil, false_imp_iff, implies_true, and_true]
  refine ⟨.file _, .file _, .file _, .file _, ?_, ?_, .file _⟩
  · refine .folder (by decide +kernel) (by decide +kernel) ?_
    simp only [List.forall_mem_cons, List.not_mem_nil, false_imp_iff, implies_true, and_true]
    exact ⟨.file _, .file _⟩
  · exact .folder (by decide +kernel) (by decide +kernel) (List.forall_mem_singleton.mpr (.file _))

def nestedStart : Path :=
  .ofText "/logs/x.plist/../"

theorem exists_discover_and_ingestFolder_nestedVolume :
    nestedVolume.root.Sound ∧ nestedVolume.locate nestedStart = .ok [Path.ofText "logs"] ∧
      exists paths, nestedVolume.discover nestedStart = .ok paths ∧
        nestedVolume.ListsBundles nestedStart [Path.ofText "logs"] paths ∧
        (forall i : Ingestor, exists results,
          i.ingestFolder nestedVolume nestedStart = .ok results ∧
            i.TakesInEach nestedVolume nestedStart [Path.ofText "logs"] paths results) ∧
        forall w : Volume, nestedVolume.root.Relisted w.root -> nestedVolume.work = w.work ->
          w.discover nestedStart = .ok paths ∧ forall i : Ingestor,
            i.ingestFolder w nestedStart = i.ingestFolder nestedVolume nestedStart := by
  have hplace : nestedVolume.locate nestedStart = .ok [Path.ofText "logs"] := by
    decide +kernel
  exact ⟨sound_nestedVolume, hplace, exists_discover_and_ingestFolder sound_nestedVolume hplace⟩

end Ingestor
end FindingLedger
