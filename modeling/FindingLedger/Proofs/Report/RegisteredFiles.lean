import Mathlib.Data.Nat.Find
import FindingLedger.Proofs.Registrations
import FindingLedger.Proofs.Report.FirstFindings

/-!
# Registered files

The files of the findings that are kept are registered by their numbers, in rising order. A
path that goes by several of these numbers is registered with the least of them. So the
registry lists each path once, in the order of the least numbers, and with the digest of what
the sources hold under it.
-/

namespace FindingLedger

/-!
# Least numbers
-/

/-- Whether a number is the least of those in use that a path goes by. -/
structure IsLeastIndex (files : List String) (used : Nat -> Prop) (index : Nat)
    (path : String) : Prop where
  isUsed : used index
  path_eq : files[index]? = some path
  least : forall other, used other -> files[other]? = some path -> index ≤ other

theorem exists_isLeastIndex {files : List String} {used : Nat -> Prop} {index : Nat}
    {path : String} (hused : used index) (hpath : files[index]? = some path) :
    exists least, IsLeastIndex files used least path := by
  classical
  have hsome : exists i, used i ∧ files[i]? = some path := ⟨index, hused, hpath⟩
  exists Nat.find hsome
  constructor
  · exact (Nat.find_spec hsome).1
  · exact (Nat.find_spec hsome).2
  · intro other hother hsame
    exact Nat.find_min' hsome ⟨hother, hsame⟩

theorem isLeastIndex_concat_iff {files : List String} {done : List Nat} {index : Nat}
    (hdone : forall i, i ∈ done -> i < index) {i : Nat} {path : String} :
    IsLeastIndex files (· ∈ done ++ [index]) i path <->
      IsLeastIndex files (· ∈ done) i path ∨
        (i = index ∧ files[index]? = some path ∧
          forall other, other ∈ done -> files[other]? ≠ some path) := by
  constructor
  · intro h
    rcases List.mem_append.mp h.isUsed with hi | hi
    · apply Or.inl
      refine ⟨hi, h.path_eq, ?_⟩
      intro other hother
      exact h.least other (List.mem_append_left _ hother)
    · apply Or.inr
      rw [List.mem_singleton] at hi
      subst hi
      refine ⟨rfl, h.path_eq, ?_⟩
      intro other hother hpath
      have hle := h.least other (List.mem_append_left _ hother) hpath
      exact absurd (hdone other hother) (Nat.not_lt_of_le hle)
  · intro h
    rcases h with h | ⟨hi, hpath, hnew⟩
    · refine ⟨List.mem_append_left _ h.isUsed, h.path_eq, ?_⟩
      intro other hother hsame
      rcases List.mem_append.mp hother with hother | hother
      · exact h.least other hother hsame
      · rw [List.mem_singleton.mp hother]
        exact Nat.le_of_lt (hdone i h.isUsed)
    · subst hi
      refine ⟨List.mem_append_right _ (List.mem_singleton.mpr rfl), hpath, ?_⟩
      intro other hother hsame
      rcases List.mem_append.mp hother with hother | hother
      · exact absurd hsame (hnew other hother)
      · exact Nat.le_of_eq (List.mem_singleton.mp hother).symm

namespace Registry

/-!
# What is registered
-/

/-- Whether a registry lists the paths of the numbers in use, ordered by their least numbers
and with the digests of what some sources hold. -/
def Lists (files : List String) (sources : Sources) (used : Nat -> Prop) (r : Registry) :
    Prop :=
  exists places : List (Nat × String),
    (places.Pairwise fun p q => p.1 < q.1) ∧
    (forall index path, (index, path) ∈ places <-> IsLeastIndex files used index path) ∧
    r.paths =
      places.map fun place => (place.2, (sources.bytes? place.2).map Digest.ofBytes)

section Lists

variable {files : List String} {sources : Sources} {used : Nat -> Prop} {r : Registry}

theorem Lists.mem_pathList_iff (h : r.Lists files sources used) {path : String} :
    path ∈ r.pathList <-> exists index, used index ∧ files[index]? = some path := by
  rcases h with ⟨places, _, hplaces, hpaths⟩
  unfold pathList Entries.keys
  rw [hpaths, List.map_map, List.mem_map]
  constructor
  · rintro ⟨⟨index, path⟩, hmem, rfl⟩
    have hleast := (hplaces index path).mp hmem
    exact ⟨index, hleast.isUsed, hleast.path_eq⟩
  · rintro ⟨index, hused, hpath⟩
    rcases exists_isLeastIndex hused hpath with ⟨least, hleast⟩
    exact ⟨(least, path), (hplaces least path).mpr hleast, rfl⟩

theorem Lists.nodup (h : r.Lists files sources used) : r.pathList.Nodup := by
  rcases h with ⟨places, hsorted, hplaces, hpaths⟩
  unfold pathList Entries.keys
  rw [hpaths, List.map_map, List.Nodup, List.pairwise_map]
  refine hsorted.imp_of_mem ?_
  -- One path has one least number, and the numbers rise.
  intro p q hp hq hlt hsame
  have hleast := (hplaces p.1 p.2).mp hp
  have hother := (hplaces q.1 q.2).mp hq
  have hle := hother.least p.1 hleast.isUsed (hleast.path_eq.trans (congrArg some hsame))
  exact absurd hlt (Nat.not_lt_of_le hle)

theorem Lists.exists_indices (h : r.Lists files sources used) :
    exists indices : List Nat, indices.Pairwise (· < ·) ∧
      List.Forall₂ (IsLeastIndex files used) indices r.pathList := by
  rcases h with ⟨places, hsorted, hplaces, hpaths⟩
  exists places.map Prod.fst
  constructor
  · exact List.pairwise_map.mpr hsorted
  · unfold pathList Entries.keys
    rw [hpaths, List.map_map, List.forall₂_map_left_iff, List.forall₂_map_right_iff,
      List.forall₂_same]
    intro place hplace
    exact (hplaces place.1 place.2).mp hplace

theorem Lists.mem_paths_iff (h : r.Lists files sources used) {path : String}
    {digest? : Option String} :
    (path, digest?) ∈ r.paths <->
      path ∈ r.pathList ∧ digest? = (sources.bytes? path).map Digest.ofBytes := by
  rcases h with ⟨places, _, _, hpaths⟩
  unfold pathList Entries.keys
  rw [hpaths, List.map_map, List.mem_map, List.mem_map]
  constructor
  · rintro ⟨place, hplace, heq⟩
    cases heq
    exact ⟨⟨place, hplace, rfl⟩, rfl⟩
  · rintro ⟨⟨place, hplace, rfl⟩, rfl⟩
    exact ⟨place, hplace, rfl⟩

theorem Lists.digestOf?_eq (h : r.Lists files sources used) {path : String}
    (hpath : path ∈ r.pathList) :
    r.digestOf? path = (sources.bytes? path).map Digest.ofBytes := by
  have hget : Entries.get? r.paths path =
      some ((sources.bytes? path).map Digest.ofBytes) := by
    apply Entries.get?_eq_of_mem_iff
    intro digest?
    rw [h.mem_paths_iff, and_iff_right hpath, Option.some.injEq]
    exact eq_comm
  unfold digestOf?
  rw [hget, Option.join_some]

theorem Lists.mem_unreadable_iff (h : r.Lists files sources used) {path : String} :
    path ∈ r.unreadable <-> path ∈ r.pathList ∧ sources.bytes? path = none := by
  unfold unreadable
  rw [List.mem_map]
  constructor
  · rintro ⟨⟨path, digest?⟩, hentry, rfl⟩
    rw [List.mem_filter, h.mem_paths_iff] at hentry
    rcases hentry with ⟨⟨hpath, hdigest⟩, hnone⟩
    rw [hdigest, Option.isNone_map, Option.isNone_iff_eq_none] at hnone
    exact ⟨hpath, hnone⟩
  · rintro ⟨hpath, hnone⟩
    refine ⟨(path, none), List.mem_filter.mpr ⟨?_, rfl⟩, rfl⟩
    rw [h.mem_paths_iff, hnone]
    exact ⟨hpath, rfl⟩

end Lists

/-!
# One registration after another
-/

theorem lists_empty (files : List String) (sources : Sources) :
    Lists files sources (· ∈ ([] : List Nat)) .empty := by
  refine ⟨[], List.Pairwise.nil, ?_, rfl⟩
  intro index path
  constructor
  · intro h
    cases h
  · intro h
    exact absurd h.isUsed List.not_mem_nil

theorem register_of_mem {r : Registry} {path : String} (h : path ∈ r.pathList)
    (content : Option Bytes) : r.register path content = r :=
  registerWith_of_mem h content

theorem paths_register_of_not_mem {r : Registry} {path : String} (h : path ∉ r.pathList)
    (content : Option Bytes) :
    (r.register path content).paths = r.paths ++ [(path, content.map Digest.ofBytes)] :=
  congrArg paths (registerWith_of_not_mem h content)

/-- A file is registered if its number is the least of those so far that its path goes by. -/
theorem Lists.register {files : List String} {sources : Sources} {done : List Nat}
    {r : Registry} (h : r.Lists files sources (· ∈ done)) {index : Nat} {path : String}
    (hdone : forall i, i ∈ done -> i < index) (hpath : files[index]? = some path) :
    (r.register path (sources.bytes? path)).Lists files sources (· ∈ done ++ [index]) := by
  have hlisted : path ∈ r.pathList <-> exists i, i ∈ done ∧ files[i]? = some path :=
    h.mem_pathList_iff
  rcases h with ⟨places, hsorted, hplaces, hpaths⟩
  by_cases hmem : path ∈ r.pathList
  · rcases hlisted.mp hmem with ⟨earlier, hearlier, hsame⟩
    rw [register_of_mem hmem]
    refine ⟨places, hsorted, ?_, hpaths⟩
    intro i other
    rw [hplaces, isLeastIndex_concat_iff hdone]
    constructor
    · exact Or.inl
    · rintro (hleast | ⟨_, hother, hnew⟩)
      · exact hleast
      · rw [hpath] at hother
        exact absurd (hsame.trans hother) (hnew earlier hearlier)
  · have hnew : forall other, other ∈ done -> files[other]? ≠ some path := by
      intro other hother hsame
      exact hmem (hlisted.mpr ⟨other, hother, hsame⟩)
    refine ⟨places ++ [(index, path)], ?_, ?_, ?_⟩
    · refine List.pairwise_append.mpr ⟨hsorted, List.pairwise_singleton _ _, ?_⟩
      intro place hplace last hlast
      rw [List.mem_singleton.mp hlast]
      exact hdone place.1 ((hplaces place.1 place.2).mp hplace).isUsed
    · intro i other
      rw [List.mem_append, hplaces, List.mem_singleton, Prod.mk.injEq,
        isLeastIndex_concat_iff hdone]
      refine or_congr_right (and_congr_right fun _ => ?_)
      constructor
      · intro hother
        rw [hother]
        exact ⟨hpath, hnew⟩
      · rintro ⟨hother, _⟩
        exact Option.some.inj (hother.symm.trans hpath)
    · rw [paths_register_of_not_mem hmem, hpaths, List.map_append]
      rfl

end Registry

namespace Assembly

theorem lists_of_registerFiles {files : List String} {sources : Sources} {r r' : Registry}
    {done rest : List Nat} (h : r.Lists files sources (· ∈ done))
    (hrun : registerFiles files sources r rest = .ok r')
    (hsorted : (done ++ rest).Pairwise (· < ·)) :
    r'.Lists files sources (· ∈ done ++ rest) := by
  induction rest generalizing done r with
  | nil =>
      cases hrun
      rwa [List.append_nil]
  | cons index rest ih =>
      rcases bind_eq_ok_iff.mp hrun with ⟨path, hpath, hrest⟩
      have hdone : forall i, i ∈ done -> i < index := by
        intro i hi
        exact (List.pairwise_append.mp hsorted).2.2 i hi index List.mem_cons_self
      have hstep := h.register hdone (Report.pathOf_eq_ok_iff.mp hpath)
      have happend : done ++ index :: rest = done ++ [index] ++ rest := by
        rw [List.append_assoc, List.singleton_append]
      rw [happend] at hsorted ⊢
      exact ih hstep hrest hsorted

/-!
# Files of the findings that are kept
-/

/-- Whether a finding that repeats none before it refers to the file of a number. -/
def Uses (findings : List Finding) (index : Nat) : Prop :=
  exists place f l, IsFirst findings place ∧ findings[place]? = some f ∧
    f.diagnostic.Refers l ∧ l.fileIndex = index

theorem mem_kept_iff {findings : List Finding} {identities : List Identity}
    (hlength : findings.length = identities.length) {f : Finding} :
    (exists identity, (f, identity) ∈ kept findings identities) <->
      exists place, IsFirst findings place ∧ findings[place]? = some f := by
  rcases exists_places_eq_new [] (findings.zip identities) with ⟨places, _, hplaces, hkept⟩
  constructor
  · rintro ⟨identity, hmem⟩
    rcases exists_of_forall₂_right hkept hmem with ⟨place, hplace, hf⟩
    refine ⟨place, (isNew_zip_iff hlength).mp ((hplaces place).mp hplace), ?_⟩
    exact (List.getElem?_zip_eq_some.mp hf).1
  · rintro ⟨place, hfirst, hf⟩
    have hplace := (hplaces place).mpr ((isNew_zip_iff hlength).mpr hfirst)
    rcases exists_of_forall₂_right (List.Forall₂.flip hkept) hplace with ⟨g, hg, hat⟩
    have hfinding := (List.getElem?_zip_eq_some.mp hat).1
    rw [hf] at hfinding
    cases hfinding
    exact ⟨g.2, hg⟩

theorem mem_referenced_iff {findings : List Finding} {identities : List Identity}
    (hlength : findings.length = identities.length) {index : Nat} :
    index ∈ NatSet.ofList ((kept findings identities).flatMap fun f =>
        f.1.diagnostic.fileIndices) <->
      Uses findings index := by
  rw [NatSet.mem_ofList, List.mem_flatMap]
  constructor
  · rintro ⟨⟨f, identity⟩, hf, hindex⟩
    rcases (mem_kept_iff hlength).mp ⟨identity, hf⟩ with ⟨place, hfirst, hplace⟩
    rcases Diagnostic.mem_fileIndices_iff.mp hindex with ⟨l, hl, hli⟩
    exact ⟨place, f, l, hfirst, hplace, hl, hli⟩
  · rintro ⟨place, f, l, hfirst, hplace, hl, hli⟩
    rcases (mem_kept_iff hlength).mpr ⟨place, hfirst, hplace⟩ with ⟨identity, hf⟩
    exact ⟨(f, identity), hf, Diagnostic.mem_fileIndices_iff.mpr ⟨l, hl, hli⟩⟩

theorem lists_files {files : List String} {findings : List Finding}
    {identities : List Identity} {sources : Sources} {a : Assembly}
    (h : of files findings identities sources = .ok a) :
    a.files.Lists files sources (Uses findings) := by
  rcases of_eq_ok_iff.mp h with ⟨hlength, _, hregistry, _⟩
  have hlists := lists_of_registerFiles (Registry.lists_empty files sources) hregistry
    (NatSet.pairwise_ofList _)
  have hused : (· ∈ [] ++ NatSet.ofList ((kept findings identities).flatMap fun f =>
      f.1.diagnostic.fileIndices)) = Uses findings := by
    funext index
    rw [List.nil_append]
    exact propext (mem_referenced_iff hlength)
  rwa [hused] at hlists

end Assembly
end FindingLedger
