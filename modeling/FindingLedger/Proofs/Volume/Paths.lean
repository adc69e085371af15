import FindingLedger.Volume.Discovery
import Mathlib.Data.List.Lex

/-!
# Paths and their components

A path consists of components: where it starts from, steps upwards, and names. Paths are put in
order component by component, which is not the order of their bytes. A name that is joined to a
path is one component more, whether or not the path ends in a slash.
-/

namespace FindingLedger
namespace Path

/-!
# Parts between slashes
-/

theorem segments_ne_nil (path : Path) : segments path ≠ [] := by
  cases path with
  | nil =>
      exact List.cons_ne_nil _ _
  | cons b rest =>
      rw [segments]
      split
      · exact List.cons_ne_nil _ _
      · split <;> exact List.cons_ne_nil _ _

theorem segments_append (path more : Path) :
    segments (path ++ slash :: more) = segments path ++ segments more := by
  induction path with
  | nil =>
      rfl
  | cons b rest ih =>
      rw [List.cons_append, segments, segments, ih]
      by_cases hslash : (b == slash) = true
      · rw [if_pos hslash, if_pos hslash]
        rfl
      · rw [if_neg hslash, if_neg hslash]
        cases hrest : segments rest with
        | nil =>
            exact absurd hrest (segments_ne_nil rest)
        | cons part parts =>
            rfl

theorem segments_of_not_mem {part : Bytes} (h : slash ∉ part) : segments part = [part] := by
  induction part with
  | nil =>
      rfl
  | cons b rest ih =>
      have hb : ¬ (b == slash) = true :=
        fun heq => h (beq_iff_eq.mp heq ▸ List.mem_cons_self)
      rw [segments, ih (fun hrest => h (List.mem_cons_of_mem b hrest)), if_neg hb]

/-- Whether bytes can stand as the name of a file or folder. -/
structure IsName (name : Bytes) : Prop where
  ne_empty : name ≠ []
  ne_dot : name ≠ [dot]
  ne_dots : name ≠ dots
  slash_not_mem : slash ∉ name
  nul_not_mem : 0 ∉ name

instance (name : Bytes) : Decidable (IsName name) :=
  decidable_of_iff (name ≠ [] ∧ name ≠ [dot] ∧ name ≠ dots ∧ slash ∉ name ∧ 0 ∉ name)
    ⟨fun h => ⟨h.1, h.2.1, h.2.2.1, h.2.2.2.1, h.2.2.2.2⟩,
      fun h => ⟨h.ne_empty, h.ne_dot, h.ne_dots, h.slash_not_mem, h.nul_not_mem⟩⟩

/-!
# Components
-/

inductive Component where
  | root
  | here
  | above
  | name (bytes : Bytes)
  deriving DecidableEq, Repr

namespace Component

def rank : Component -> Nat
  | root => 0
  | here => 1
  | above => 2
  | name _ => 3

def Before : Component -> Component -> Prop
  | name bytes, name bytes' => bytes < bytes'
  | c, c' => c.rank < c'.rank

theorem Before.asymm {c c' : Component} (h : c.Before c') : ¬ c'.Before c := by
  cases c with
  | name bytes =>
      cases c' with
      | name bytes' =>
          exact List.lt_asymm h
      | root | here | above =>
          exact @Nat.lt_asymm (rank _) (rank _) h
  | root | here | above =>
      cases c' with
      | root | here | above | name bytes' =>
          exact @Nat.lt_asymm (rank _) (rank _) h

def ofStep (step : Bytes) : Component :=
  if step = dots then above else name step

end Component

/-- Where a path starts from, if that is a component: a slash or a dot in front. -/
def origin (path : Path) : List Component :=
  if isAbsolute path then [.root]
  else if (segments path).head? = some [dot] then [.here]
  else []

/-- The components of a path. Idle parts behind its front do not count. -/
def components (path : Path) : List Component :=
  origin path ++ (steps path).map Component.ofStep

/-- Whether a path stands before another one, component by component. -/
def Before (path path' : Path) : Prop :=
  List.Lex Component.Before (components path) (components path')

instance : Std.Asymm Before :=
  ⟨fun _ _ h => List.lex_asymm Component.Before.asymm h⟩

/-!
# Joined names
-/

theorem holdsNul_eq_false_iff {path : Path} : holdsNul path = false <-> 0 ∉ path := by
  unfold holdsNul
  rw [List.contains_eq_mem, decide_eq_false_iff_not]

namespace IsName

variable {name : Bytes} (h : IsName name)

include h

theorem isIdle_eq_false : isIdle name = false := by
  simp [isIdle, h.ne_empty, h.ne_dot]

theorem isAbsolute_eq_false : isAbsolute name = false := by
  unfold isAbsolute
  rw [beq_eq_false_iff_ne]
  exact fun heq => h.slash_not_mem (List.mem_of_head? heq)

theorem segments_eq : segments name = [name] :=
  segments_of_not_mem h.slash_not_mem

/-- A joined name stands behind the folder, with a slash between them if there is none yet. -/
theorem join_cases (folder : Path) :
    (folder = [] ∧ join folder name = name) ∨
      (exists front, folder = front ++ [slash] ∧ join folder name = front ++ slash :: name) ∨
      folder ≠ [] ∧ join folder name = folder ++ slash :: name := by
  unfold join
  rw [h.isAbsolute_eq_false, Bool.false_or]
  by_cases hempty : folder = []
  · rw [hempty]
    exact Or.inl ⟨rfl, rfl⟩
  · rw [if_neg (mt List.isEmpty_iff.mp hempty)]
    by_cases hslash : (folder.getLast? == some slash) = true
    · rcases List.getLast?_eq_some_iff.mp (beq_iff_eq.mp hslash) with ⟨front, hfront⟩
      rw [if_pos hslash]
      refine Or.inr (Or.inl ⟨front, hfront, ?_⟩)
      rw [hfront, List.append_assoc, List.singleton_append]
    · rw [if_neg hslash]
      exact Or.inr (Or.inr ⟨hempty, rfl⟩)

/-- A joined name is the last part. An empty part at the end of the folder gives way to it. -/
theorem exists_segments_join (folder : Path) :
    exists front, segments (join folder name) = front ++ [name] ∧
      (segments folder = front ∨ segments folder = front ++ [[]]) := by
  rcases h.join_cases folder with ⟨rfl, hjoin⟩ | ⟨front, rfl, hjoin⟩ | ⟨_, hjoin⟩
  · exact ⟨[], by rw [hjoin, h.segments_eq, List.nil_append], Or.inr rfl⟩
  · refine ⟨segments front, ?_, Or.inr (segments_append front [])⟩
    rw [hjoin, segments_append, h.segments_eq]
  · refine ⟨segments folder, ?_, Or.inl rfl⟩
    rw [hjoin, segments_append, h.segments_eq]

theorem steps_join (folder : Path) : steps (join folder name) = steps folder ++ [name] := by
  have hempty : isIdle [] = true := rfl
  rcases h.exists_segments_join folder with ⟨front, hjoin, hfolder | hfolder⟩
  · simp [steps, hjoin, hfolder, h.isIdle_eq_false]
  · simp [steps, hjoin, hfolder, h.isIdle_eq_false, hempty]

theorem isAbsolute_join (folder : Path) :
    isAbsolute (join folder name) = isAbsolute folder := by
  rcases h.join_cases folder with ⟨rfl, hjoin⟩ | ⟨front, rfl, hjoin⟩ | ⟨hne, hjoin⟩
  · rw [hjoin, h.isAbsolute_eq_false]
    rfl
  · rw [hjoin]
    cases front <;> rfl
  · rw [hjoin]
    simp [isAbsolute, List.head?_append, List.head?_eq_some_head hne]

theorem join_ne_nil (folder : Path) : join folder name ≠ [] := by
  rcases h.join_cases folder with ⟨_, hjoin⟩ | ⟨front, _, hjoin⟩ | ⟨_, hjoin⟩
  · rw [hjoin]
    exact h.ne_empty
  · simp [hjoin]
  · simp [hjoin]

theorem nul_not_mem_join {folder : Path} (hfolder : 0 ∉ folder) : 0 ∉ join folder name := by
  have hslash : (0 : UInt8) ≠ slash := by
    decide
  rcases h.join_cases folder with ⟨_, hjoin⟩ | ⟨front, rfl, hjoin⟩ | ⟨_, hjoin⟩
  · rw [hjoin]
    exact h.nul_not_mem
  · simp_all [h.nul_not_mem]
  · simp_all [h.nul_not_mem]

theorem origin_join (folder : Path) : origin (join folder name) = origin folder := by
  have hhead : (segments (join folder name)).head? = some [dot] <->
      (segments folder).head? = some [dot] := by
    rcases h.exists_segments_join folder with ⟨front, hjoin, hfolder⟩
    rw [hjoin]
    cases front with
    | nil =>
        rcases hfolder with hfolder | hfolder <;> simp [hfolder, h.ne_dot]
    | cons first front =>
        rcases hfolder with hfolder | hfolder <;> simp [hfolder]
  unfold origin
  rw [h.isAbsolute_join]
  simp only [hhead]

theorem components_join (folder : Path) :
    components (join folder name) = components folder ++ [.name name] := by
  have hstep : Component.ofStep name = .name name :=
    if_neg h.ne_dots
  unfold components
  rw [h.origin_join, h.steps_join, List.map_append, List.map_singleton, hstep, List.append_assoc]

end IsName

theorem components_pathBelow {names : List Bytes} (h : forall name, name ∈ names -> IsName name)
    (start : Path) :
    components (Volume.pathBelow start names) = components start ++ names.map .name := by
  induction names generalizing start with
  | nil =>
      exact (List.append_nil _).symm
  | cons name names ih =>
      rcases List.forall_mem_cons.mp h with ⟨hname, hnames⟩
      change components (Volume.pathBelow (join start name) names) = _
      rw [ih hnames, hname.components_join, List.append_assoc]
      rfl

/-!
# Order
-/

theorem namesLe_iff {names names' : List Bytes} :
    namesLe names names' = true <->
      names = names' ∨ List.Lex (fun name name' => name < name') names names' := by
  induction names generalizing names' with
  | nil =>
      cases names' with
      | nil =>
          simp [namesLe]
      | cons name' names' =>
          simp [namesLe]
  | cons name names ih =>
      cases names' with
      | nil =>
          simp [namesLe]
      | cons name' names' =>
          rw [namesLe, List.cons_lex_cons_iff]
          by_cases heq : name = name'
          · simp [heq, ih, List.lt_irrefl]
          · simp [heq]

theorem namesLe_trans {a b c : List Bytes} (hab : namesLe a b = true)
    (hbc : namesLe b c = true) : namesLe a c = true := by
  rw [namesLe_iff] at hab hbc ⊢
  rcases hab with rfl | hab
  · exact hbc
  · rcases hbc with rfl | hbc
    · exact Or.inr hab
    · exact Or.inr (List.lex_trans List.lt_trans hab hbc)

theorem namesLe_total (a b : List Bytes) : (namesLe a b || namesLe b a) = true := by
  induction a generalizing b with
  | nil =>
      rfl
  | cons name names ih =>
      cases b with
      | nil =>
          rfl
      | cons name' names' =>
          rw [namesLe, namesLe]
          by_cases heq : name = name'
          · simpa [heq] using ih names'
          · have hlt : name < name' ∨ name' < name := by
              by_cases hlt : name < name'
              · exact Or.inl hlt
              · apply Or.inr
                apply Classical.byContradiction
                intro hgt
                exact heq (List.le_antisymm (List.not_lt.mp hgt) (List.not_lt.mp hlt))
            simpa [heq, Ne.symm heq] using hlt

theorem pairwise_mergeSort_namesLe (chains : List (List Bytes)) :
    (chains.mergeSort namesLe).Pairwise fun names names' => namesLe names names' = true := by
  apply List.pairwise_mergeSort
  · intro a b c
    exact namesLe_trans
  · exact namesLe_total

theorem lex_map_name {names names' : List Bytes}
    (h : List.Lex (fun name name' => name < name') names names') :
    List.Lex Component.Before (names.map .name) (names'.map .name) := by
  induction h with
  | nil =>
      exact .nil
  | rel hlt =>
      exact .rel hlt
  | cons _ ih =>
      exact .cons ih

theorem pathBelow_before {names names' : List Bytes}
    (hnames : forall name, name ∈ names -> IsName name)
    (hnames' : forall name, name ∈ names' -> IsName name)
    (h : List.Lex (fun name name' => name < name') names names') (start : Path) :
    Before (Volume.pathBelow start names) (Volume.pathBelow start names') := by
  unfold Before
  rw [components_pathBelow hnames, components_pathBelow hnames']
  exact List.Lex.append_left _ (lex_map_name h) _

end Path
end FindingLedger
