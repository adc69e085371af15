import FindingLedger.Proofs.Entries
import FindingLedger.Proofs.Source.Lines
import FindingLedger.Source.Cached

/-!
# Readers that keep what they have read

A reader says the same about a path for as long as it lives, however the files change. Of a
path that it has not looked at it says what the volume holds at that moment. So on a volume
that stays as it is a new reader says what the volume says, whatever it is asked before.
-/

namespace FindingLedger

namespace CachedReader

/-- The reader after looks at paths, each on the volume as it is at that moment. -/
def after (r : CachedReader) : List (Volume × String) -> CachedReader
  | [] => r
  | (v, path) :: rest => (r.look v path).2.after rest

/-- What the reader says about each path, the volume being as given. -/
def sources (r : CachedReader) (v : Volume) : Sources :=
  .ofLookup fun path => (r.look v path).1

variable {r : CachedReader} {v : Volume} {path : String}

theorem look_of_cached {found : Option Source.File}
    (h : Entries.get? r.cache path = some found) (v : Volume) : r.look v path = (found, r) := by
  rw [look, h]

theorem look_of_not_cached (h : Entries.get? r.cache path = none) (v : Volume) :
    r.look v path = (v.sourceFile? (Path.resolve r.root path),
      { r with cache := r.cache ++ [(path, v.sourceFile? (Path.resolve r.root path))] }) := by
  rw [look, h]

/-!
# What stays
-/

theorem root_look (r : CachedReader) (v : Volume) (path : String) :
    (r.look v path).2.root = r.root := by
  unfold look
  split <;> rfl

theorem get?_cache_look (r : CachedReader) (v : Volume) (path : String) :
    Entries.get? (r.look v path).2.cache path = some (r.look v path).1 := by
  cases h : Entries.get? r.cache path with
  | some found =>
      rw [look_of_cached h]
      exact h
  | none =>
      rw [look_of_not_cached h, Entries.get?_append, h, Option.none_or, Entries.get?_cons,
        if_pos rfl]

theorem get?_cache_look_of_cached {found : Option Source.File}
    (h : Entries.get? r.cache path = some found) (v : Volume) (other : String) :
    Entries.get? (r.look v other).2.cache path = some found := by
  cases hother : Entries.get? r.cache other with
  | some _ =>
      rw [look_of_cached hother]
      exact h
  | none =>
      rw [look_of_not_cached hother, Entries.get?_append, h, Option.some_or]

theorem get?_cache_after_of_cached {found : Option Source.File}
    (h : Entries.get? r.cache path = some found) (looks : List (Volume × String)) :
    Entries.get? (r.after looks).cache path = some found := by
  induction looks generalizing r with
  | nil =>
      exact h
  | cons place looks ih =>
      exact ih (get?_cache_look_of_cached h place.1 place.2)

theorem after_append (r : CachedReader) (looks more : List (Volume × String)) :
    r.after (looks ++ more) = (r.after looks).after more := by
  induction looks generalizing r with
  | nil =>
      rfl
  | cons place looks ih =>
      exact ih _

theorem look_after_look (r : CachedReader) (v w : Volume) (path : String)
    (more : List (Volume × String)) :
    ((r.after ((v, path) :: more)).look w path).1 = (r.look v path).1 := by
  have hcached := get?_cache_after_of_cached (get?_cache_look r v path) more
  rw [after, look_of_cached hcached]

/-- The lines and the bytes that are read in the course of time are those that the reader tells
of in the end. -/
theorem read_eq_sources_after (r : CachedReader) (looks more : List (Volume × String))
    (v w : Volume) (path : String) :
    (forall n, ((r.after looks).readLine v path n).1 =
      ((r.after (looks ++ (v, path) :: more)).sources w).line? path n) ∧
    ((r.after looks).readBytes v path).1 =
      ((r.after (looks ++ (v, path) :: more)).sources w).bytes? path := by
  have hlook := look_after_look (r.after looks) v w path more
  rw [after_append]
  constructor
  · intro n
    exact congrArg (fun found => found.bind fun f => f.line? n) hlook.symm
  · exact congrArg (fun found => found.map Source.File.bytes) hlook.symm

/-!
# What is kept
-/

def Keeps (r : CachedReader) (kind : String -> Option Source.File -> Prop) : Prop :=
  forall path found, Entries.get? r.cache path = some found -> kind path found

section Keeps

variable {kind : String -> Option Source.File -> Prop}

theorem keeps_start (root : Option Path) : (start root).Keeps kind := by
  intro path found h
  cases h

theorem Keeps.look (h : r.Keeps kind)
    (hread : kind path (v.sourceFile? (Path.resolve r.root path))) :
    kind path (r.look v path).1 ∧ (r.look v path).2.Keeps kind := by
  cases hpath : Entries.get? r.cache path with
  | some found =>
      rw [look_of_cached hpath]
      exact ⟨h path found hpath, h⟩
  | none =>
      rw [look_of_not_cached hpath]
      refine ⟨hread, ?_⟩
      intro other found hother
      rw [Entries.get?_append, Option.or_eq_some_iff] at hother
      rcases hother with hother | ⟨_, hnew⟩
      · exact h other found hother
      · rw [Entries.get?_cons] at hnew
        split at hnew
        · rename_i heq
          cases heq
          cases hnew
          exact hread
        · cases hnew

theorem Keeps.after (h : r.Keeps kind) {looks : List (Volume × String)}
    (hread : forall v path, (v, path) ∈ looks ->
      kind path (v.sourceFile? (Path.resolve r.root path))) :
    (r.after looks).Keeps kind ∧ (r.after looks).root = r.root := by
  induction looks generalizing r with
  | nil =>
      exact ⟨h, rfl⟩
  | cons place looks ih =>
      have hplace := hread place.1 place.2 List.mem_cons_self
      have hroot := root_look r place.1 place.2
      have hrest : forall v path, (v, path) ∈ looks ->
          kind path (v.sourceFile? (Path.resolve (r.look place.1 place.2).2.root path)) := by
        intro v path hmem
        rw [hroot]
        exact hread v path (List.mem_cons_of_mem place hmem)
      rcases ih (h.look hplace).2 hrest with ⟨hkeeps, hsame⟩
      exact ⟨hkeeps, hsame.trans hroot⟩

end Keeps

theorem sources_after_start (root : Option Path) (v : Volume) (paths : List String) :
    ((start root).after (paths.map fun path => (v, path))).sources v = v.sources root := by
  let kind : String -> Option Source.File -> Prop := fun path found =>
    found = v.sourceFile? (Path.resolve root path)
  have hstart : (start root).Keeps kind := keeps_start root
  have hlooks : forall w path, (w, path) ∈ paths.map (fun path => (v, path)) ->
      kind path (w.sourceFile? (Path.resolve root path)) := by
    intro w path hmem
    rcases List.mem_map.mp hmem with ⟨_, _, heq⟩
    cases heq
    rfl
  rcases hstart.after hlooks with ⟨hkeeps, hroot⟩
  apply congrArg Sources.ofLookup
  funext path
  apply (hkeeps.look _).1
  rw [hroot]
  rfl

end CachedReader

/-!
# Files that are read whole
-/

namespace Sources

/-- Whether each path has a file of which all lines and the bytes can be read, or nothing. -/
def Whole (sources : Sources) : Prop :=
  forall path, (exists bytes, sources.HasFile path bytes) ∨
    (sources.bytes? path = none ∧ forall n, sources.line? path n = none)

theorem whole_ofLookup {find? : String -> Option Source.File}
    (h : forall path f, find? path = some f -> exists bytes, f = .ofBytes bytes) :
    (ofLookup find?).Whole := by
  intro path
  cases hfind : find? path with
  | none =>
      apply Or.inr
      simp [ofLookup, hfind]
  | some f =>
      rcases h path f hfind with ⟨bytes, rfl⟩
      apply Or.inl
      exists bytes
      constructor
      · simp [ofLookup, hfind, Source.File.ofBytes]
      · intro n
        simp [ofLookup, hfind]

theorem fileTable_eq_ofList (files : List (String × Bytes)) :
    fileTable files = Entries.ofList (files.map fun f => (f.1, .ofBytes f.2)) := by
  unfold fileTable Entries.ofList
  rw [List.foldl_map]

theorem whole_ofFiles (files : List (String × Bytes)) : (ofFiles files).Whole := by
  apply whole_ofLookup
  intro path f hf
  rw [fileTable_eq_ofList, Entries.get?_ofList] at hf
  have hmem := List.mem_reverse.mp (Entries.mem_of_get?_eq_some hf)
  rcases List.mem_map.mp hmem with ⟨file, _, heq⟩
  exact ⟨file.2, (Prod.mk.inj heq).2.symm⟩

theorem whole_sources_after_start (root : Option Path) (looks : List (Volume × String))
    (v : Volume) : (((CachedReader.start root).after looks).sources v).Whole := by
  let kind : String -> Option Source.File -> Prop := fun _ found =>
    forall f, found = some f -> exists bytes, f = .ofBytes bytes
  have hstart : (CachedReader.start root).Keeps kind := CachedReader.keeps_start root
  have hread : forall (w : Volume) path resolved, kind path (w.sourceFile? resolved) := by
    intro w path resolved f hf
    rcases Option.map_eq_some_iff.mp hf with ⟨bytes, _, hbytes⟩
    exact ⟨bytes, hbytes.symm⟩
  have hlooks : forall w path, (w, path) ∈ looks ->
      kind path (w.sourceFile? (Path.resolve root path)) := fun w path _ => hread w path _
  have hkeeps := (hstart.after hlooks).1
  apply whole_ofLookup
  intro path
  exact (hkeeps.look (hread v path _)).1

/-- The sources for one bundle: files in memory, or all that a reader tells of that is used for
no other bundle, while the files may change. -/
inductive ForOneBundle : Sources -> Prop where
  | memory (files : List (String × Bytes)) : ForOneBundle (.ofFiles files)
  | reader (root : Option Path) (looks : List (Volume × String)) (v : Volume) :
      ForOneBundle (((CachedReader.start root).after looks).sources v)

theorem ForOneBundle.whole {sources : Sources} (h : sources.ForOneBundle) : sources.Whole := by
  cases h with
  | memory files =>
      exact whole_ofFiles files
  | reader root looks v =>
      exact whole_sources_after_start root looks v

theorem forOneBundle_volume (v : Volume) (root : Option Path) :
    (v.sources root).ForOneBundle := by
  rw [← CachedReader.sources_after_start root v []]
  exact ForOneBundle.reader root [] v

theorem Whole.isSome_line?_iff {sources : Sources} (h : sources.Whole) {path : String}
    {n : Nat} :
    (sources.line? path n).isSome = true <->
      exists bytes, sources.bytes? path = some bytes ∧ 1 ≤ n ∧
        n ≤ Source.lineCount bytes := by
  rcases h path with ⟨bytes, hfile⟩ | ⟨hbytes, hlines⟩
  · rw [hfile.2, hfile.1, Source.File.isSome_line?_iff]
    simp
  · rw [hlines, hbytes]
    simp

end Sources
end FindingLedger
