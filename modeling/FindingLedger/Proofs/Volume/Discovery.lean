import FindingLedger.Proofs.Volume.Places
import Mathlib.Data.List.Forall2
import Mathlib.Data.List.Sort
import Mathlib.Data.List.TakeWhile

/-!
# What is discovered

Below a path those files are discovered, and no folders, whose names have the extension of
bundles, each once and in the order of the components of their paths. This leaves one list for
one tree, so that the order in which folders list their entries does not matter.
-/

namespace FindingLedger

/-!
# Extensions
-/

namespace Path

theorem nameExtension?_of_not_mem {name : Bytes} (h : dot ∉ name) :
    nameExtension? name = none := by
  have htake : name.reverse.takeWhile (fun b => b != dot) = name.reverse := by
    rw [List.takeWhile_eq_self_iff]
    intro b hb
    exact bne_iff_ne.mpr (fun heq => h (heq ▸ List.mem_reverse.mp hb))
  unfold nameExtension?
  dsimp only
  rw [htake, List.drop_length]

theorem nameExtension?_dot {ending : Bytes} (stem : Bytes) (h : dot ∉ ending) :
    nameExtension? (stem ++ dot :: ending) = if stem = [] then none else some ending := by
  have hreversed : (stem ++ dot :: ending).reverse = ending.reverse ++ dot :: stem.reverse := by
    simp
  have htake : (ending.reverse ++ dot :: stem.reverse).takeWhile (fun b => b != dot) =
      ending.reverse := by
    rw [List.takeWhile_append_of_pos]
    · simp
    · intro b hb
      exact bne_iff_ne.mpr (fun heq => h (heq ▸ List.mem_reverse.mp hb))
  unfold nameExtension?
  simp only [hreversed, htake, List.drop_left]
  by_cases hstem : stem = []
  · rw [if_pos hstem, hstem]
    rfl
  · rw [if_neg hstem]
    cases hreverse : stem.reverse with
    | nil =>
        exact absurd (List.reverse_eq_nil_iff.mp hreverse) hstem
    | cons b rest =>
        simp

theorem exists_last_dot {name : Bytes} (h : dot ∈ name) :
    exists stem ending, name = stem ++ dot :: ending ∧ dot ∉ ending := by
  rcases List.eq_append_cons_of_mem (List.mem_reverse.mpr h) with ⟨ending, stem, hname, hending⟩
  refine ⟨stem.reverse, ending.reverse, ?_, by simpa using hending⟩
  rw [← List.reverse_reverse name, hname]
  simp

theorem nameExtension?_eq_some_iff {name ending : Bytes} :
    nameExtension? name = some ending <->
      dot ∉ ending ∧ exists stem, stem ≠ [] ∧ name = stem ++ dot :: ending := by
  constructor
  · intro h
    by_cases hdot : dot ∈ name
    · rcases exists_last_dot hdot with ⟨stem, ending', rfl, hending⟩
      rw [nameExtension?_dot stem hending] at h
      split at h
      · cases h
      · rename_i hstem
        cases h
        exact ⟨hending, stem, hstem, rfl⟩
    · rw [nameExtension?_of_not_mem hdot] at h
      cases h
  · rintro ⟨hdot, stem, hstem, rfl⟩
    rw [nameExtension?_dot stem hdot, if_neg hstem]

end Path

def Text.SpellsLetter (letter b : UInt8) : Prop :=
  b = letter ∨ b.toNat + 32 = letter.toNat

theorem Text.lowerByte_eq_iff {b letter : UInt8} (h : 97 ≤ letter.toNat ∧ letter.toNat ≤ 122) :
    lowerByte b = letter <-> SpellsLetter letter b := by
  unfold lowerByte SpellsLetter
  simp only [← UInt8.toNat_inj, apply_ite UInt8.toNat, Bool.and_eq_true, decide_eq_true_eq,
    UInt8.le_iff_toNat_le, UInt8.toNat_add, UInt8.reduceToNat]
  split <;> omega

theorem Text.map_lowerByte_eq_iff {word bytes : Bytes}
    (h : forall letter, letter ∈ word -> 97 ≤ letter.toNat ∧ letter.toNat ≤ 122) :
    bytes.map lowerByte = word <-> List.Forall₂ SpellsLetter word bytes := by
  induction word generalizing bytes with
  | nil =>
      simp
  | cons letter word ih =>
      rcases List.forall_mem_cons.mp h with ⟨hletter, hword⟩
      cases bytes with
      | nil =>
          simp
      | cons b rest =>
          rw [List.map_cons, List.cons.injEq, lowerByte_eq_iff hletter, ih hword,
            List.forall₂_cons]

/-- Whether a name ends in a dot and the extension of bundles, in letters of either case, with
something before the dot. -/
def HasBundleExtension (name : Bytes) : Prop :=
  exists stem ending, stem ≠ [] ∧ name = stem ++ Path.dot :: ending ∧
    List.Forall₂ Text.SpellsLetter (Text.bytesOf "plist") ending

theorem isBundleName_iff (name : Bytes) :
    isBundleName name = true <-> HasBundleExtension name := by
  have hletters : forall letter, letter ∈ bundleExtension ->
      97 ≤ letter.toNat ∧ letter.toNat ≤ 122 := by
    decide +kernel
  unfold isBundleName HasBundleExtension
  constructor
  · intro h
    cases hending : Path.nameExtension? name with
    | none =>
        rw [hending] at h
        cases h
    | some ending =>
        rw [hending] at h
        rcases Path.nameExtension?_eq_some_iff.mp hending with ⟨_, stem, hstem, hname⟩
        exact ⟨stem, ending, hstem, hname,
          (Text.map_lowerByte_eq_iff hletters).mp (beq_iff_eq.mp h)⟩
  · rintro ⟨stem, ending, hstem, hname, hspells⟩
    have hdot : Path.dot ∉ ending := by
      intro hmem
      rcases exists_of_forall₂_right hspells hmem with ⟨letter, hletter, hsame⟩
      rw [← Text.lowerByte_eq_iff (hletters letter hletter)] at hsame
      rw [← hsame] at hletter
      revert hletter
      decide +kernel
    rw [Path.nameExtension?_eq_some_iff.mpr ⟨hdot, stem, hstem, hname⟩]
    exact beq_iff_eq.mpr ((Text.map_lowerByte_eq_iff hletters).mpr hspells)

namespace Volume

/-!
# Paths of bundles
-/

/-- Whether the last component of a path is a name with the extension of bundles. -/
def EndsInBundleName (path : Path) : Prop :=
  exists name, (Path.components path).getLast? = some (.name name) ∧ HasBundleExtension name

theorem eq_of_ofStep_eq {step name : Bytes}
    (h : Path.Component.ofStep step = .name name) : step = name := by
  unfold Path.Component.ofStep at h
  split at h
  · cases h
  · exact Path.Component.name.inj h

theorem origin_getLast?_ne_name (path : Path) (name : Bytes) :
    (Path.origin path).getLast? ≠ some (.name name) := by
  unfold Path.origin
  split
  · simp
  · split <;> simp

theorem leadsToBundle_nil_iff (start : Path) :
    leadsToBundle start [] = true <-> EndsInBundleName start := by
  have hdots : isBundleName Path.dots = false := by
    decide
  unfold leadsToBundle EndsInBundleName Path.components
  rw [List.getLast?_append, List.getLast?_map, List.getLast?_nil]
  cases (Path.steps start).getLast? with
  | none =>
      rw [Option.map_none, Option.none_or]
      constructor
      · intro h
        cases h
      · intro h
        rcases h with ⟨name, hname, _⟩
        exact absurd hname (origin_getLast?_ne_name start name)
  | some step =>
      rw [Option.map_some, Option.some_or]
      constructor
      · intro h
        -- A step upwards is no name, but then it is not the name of a bundle either.
        have hstep : step ≠ Path.dots := by
          intro heq
          rw [heq] at h
          exact Bool.false_ne_true (hdots.symm.trans h)
        exact ⟨step, congrArg some (if_neg hstep), (isBundleName_iff step).mp h⟩
      · intro h
        rcases h with ⟨name, hname, hbundle⟩
        rw [eq_of_ofStep_eq (Option.some.inj hname)]
        exact (isBundleName_iff name).mpr hbundle

theorem leadsToBundle_iff {names : List Bytes}
    (hnames : forall name, name ∈ names -> Path.IsName name) (start : Path) :
    leadsToBundle start names = true <-> EndsInBundleName (pathBelow start names) := by
  rcases List.eq_nil_or_concat' names with rfl | ⟨front, name, rfl⟩
  · exact leadsToBundle_nil_iff start
  · have hlast : leadsToBundle start (front ++ [name]) = isBundleName name := by
      unfold leadsToBundle
      rw [List.getLast?_concat]
    have hcomponents : (Path.components (pathBelow start (front ++ [name]))).getLast? =
        some (.name name) := by
      rw [Path.components_pathBelow hnames, List.map_append, ← List.append_assoc]
      exact List.getLast?_concat
    rw [hlast, isBundleName_iff, EndsInBundleName, hcomponents]
    constructor
    · intro h
      exact ⟨name, rfl, h⟩
    · intro h
      rcases h with ⟨name', heq, h⟩
      cases heq
      exact h

/-!
# Lists of bundles
-/

/-- Whether paths are those of the bundles at or below a path that leads to a place. -/
structure ListsBundles (v : Volume) (start : Path) (place : List Bytes)
    (paths : List Path) : Prop where
  mem_iff : forall path, path ∈ paths <-> EndsInBundleName path ∧
    exists names content, v.root.at? (place ++ names) = some (.file content) ∧
      path = pathBelow start names
  nodup : paths.Nodup
  increasing : paths.Pairwise Path.Before

def bundleChains (start : Path) (node : Node) : List (List Bytes) :=
  (node.fileNames.filter (leadsToBundle start)).mergeSort Path.namesLe

section Chains

variable {node : Node} (hnode : node.Sound) (start : Path)

include hnode

theorem isName_of_mem_fileNames {names : List Bytes} (h : names ∈ node.fileNames) :
    forall name, name ∈ names -> Path.IsName name := by
  rcases hnode.mem_fileNames_iff.mp h with ⟨content, hcontent⟩
  exact (hnode.at? hcontent).2

theorem mem_bundleChains_iff {names : List Bytes} :
    names ∈ bundleChains start node <->
      EndsInBundleName (pathBelow start names) ∧
        exists content, node.at? names = some (.file content) := by
  unfold bundleChains
  rw [List.mem_mergeSort, List.mem_filter, ← hnode.mem_fileNames_iff]
  constructor
  · intro h
    rcases h with ⟨hmem, hleads⟩
    exact ⟨(leadsToBundle_iff (isName_of_mem_fileNames hnode hmem) start).mp hleads, hmem⟩
  · intro h
    rcases h with ⟨hends, hmem⟩
    exact ⟨hmem, (leadsToBundle_iff (isName_of_mem_fileNames hnode hmem) start).mpr hends⟩

theorem pairwise_bundleChains :
    (bundleChains start node).Pairwise (List.Lex fun name name' => name < name') := by
  have hnodup : (bundleChains start node).Nodup := by
    unfold bundleChains
    rw [(List.mergeSort_perm _ _).nodup_iff]
    exact hnode.nodup_fileNames.filter _
  have hle : (bundleChains start node).Pairwise fun names names' =>
      Path.namesLe names names' = true :=
    Path.pairwise_mergeSort_namesLe _
  apply (hle.and hnodup).imp
  intro names names' h
  exact (Path.namesLe_iff.mp h.1).resolve_left h.2

theorem increasing_bundleChains :
    ((bundleChains start node).map (pathBelow start)).Pairwise Path.Before := by
  have hnames : forall names, names ∈ bundleChains start node ->
      forall name, name ∈ names -> Path.IsName name := by
    intro names hmem
    rcases (mem_bundleChains_iff hnode start).mp hmem with ⟨_, content, hcontent⟩
    exact (hnode.at? hcontent).2
  rw [List.pairwise_map]
  apply (pairwise_bundleChains hnode start).imp_of_mem
  intro names names' hmem hmem' hlt
  exact Path.pathBelow_before (hnames names hmem) (hnames names' hmem') hlt start

end Chains

theorem nodup_of_increasing {paths : List Path} (h : paths.Pairwise Path.Before) :
    paths.Nodup := by
  apply h.imp
  intro path path' hbefore heq
  rw [heq] at hbefore
  exact Std.Irrefl.irrefl _ hbefore

theorem exists_listsBundles_of_locate {v : Volume} (hsound : v.root.Sound) {start : Path}
    {place : List Bytes} (h : v.locate start = .ok place) :
    exists paths, v.discover start = .ok paths ∧ v.ListsBundles start place paths := by
  rcases exists_at?_of_locate h with ⟨node, hat⟩
  rcases hsound.at? hat with ⟨hnode, _⟩
  have hincreasing := increasing_bundleChains hnode start
  refine ⟨(bundleChains start node).map (pathBelow start), ?_, ?_, ?_, hincreasing⟩
  · rw [discover, node_of_locate h hat]
    rfl
  · intro path
    have hbelow (names : List Bytes) : v.root.at? (place ++ names) = node.at? names := by
      rw [Node.at?_append, hat, Option.bind_some]
    simp only [List.mem_map, mem_bundleChains_iff hnode, hbelow]
    constructor
    · intro hpath
      rcases hpath with ⟨names, ⟨hends, content, hcontent⟩, rfl⟩
      exact ⟨hends, names, content, hcontent, rfl⟩
    · intro hpath
      rcases hpath with ⟨hends, names, content, hcontent, rfl⟩
      exact ⟨names, ⟨hends, content, hcontent⟩, rfl⟩
  · exact nodup_of_increasing hincreasing

/-- A tree has one list of bundles. -/
theorem ListsBundles.unique {v : Volume} {start : Path} {place : List Bytes}
    {paths paths' : List Path} (h : v.ListsBundles start place paths)
    (h' : v.ListsBundles start place paths') : paths = paths' := by
  apply h.increasing.eq_of_mem_iff h'.increasing
  intro path
  rw [h.mem_iff, h'.mem_iff]

theorem ListsBundles.of_sameTree {v w : Volume} (hsame : v.root.SameTree w.root) {start : Path}
    {place : List Bytes} {paths : List Path} (h : w.ListsBundles start place paths) :
    v.ListsBundles start place paths := by
  refine ⟨?_, h.nodup, h.increasing⟩
  intro path
  simp only [h.mem_iff, hsame.at?_eq_file_iff]

end Volume
end FindingLedger
