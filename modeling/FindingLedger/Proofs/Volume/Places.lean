import FindingLedger.Proofs.Sequencing
import FindingLedger.Proofs.Volume.Trees
import FindingLedger.Source.Cached

/-!
# Places that paths lead to

A path leads to what is there, and a path with a name joined to it leads to the entry of that
name, so that every place is where some absolute path leads to. Volumes that hold the same tree
and are worked in at the same place cannot be told apart by following paths, reading files or
looking up sources.
-/

namespace FindingLedger
namespace Volume

/-!
# Following a path
-/

theorem follow_append (v : Volume) (here parts more : List Bytes) :
    v.follow here (parts ++ more) =
      (v.follow here parts).bind fun there => v.follow there more := by
  induction parts generalizing here with
  | nil =>
      rw [List.nil_append, follow]
      rfl
  | cons part parts ih =>
      rw [List.cons_append, follow, follow]
      split
      · split
        · exact ih _
        · split
          · exact ih _
          · split
            · exact ih _
            · rfl
      · rfl
      · rfl

theorem exists_at?_dropLast {v : Volume} {here : List Bytes} {node : Node}
    (h : v.root.at? here = some node) : exists above, v.root.at? here.dropLast = some above := by
  rcases List.eq_nil_or_concat' here with rfl | ⟨front, name, rfl⟩
  · exact ⟨node, h⟩
  · rw [List.dropLast_concat]
    exact Node.exists_at?_of_append h

theorem exists_follow_of_cons {v : Volume} {here there parts : List Bytes} {part : Bytes}
    (h : v.follow here (part :: parts) = .ok there) :
    exists next node, v.root.at? next = some node ∧ v.follow next parts = .ok there := by
  rw [follow] at h
  split at h
  · rename_i entries hat
    split at h
    · exact ⟨here, _, hat, h⟩
    · split at h
      · rcases exists_at?_dropLast hat with ⟨above, habove⟩
        exact ⟨here.dropLast, above, habove, h⟩
      · split at h
        · rename_i hhas
          rw [← Node.isSome_at?_concat hat, Option.isSome_iff_exists] at hhas
          rcases hhas with ⟨below, hbelow⟩
          exact ⟨here ++ [part], below, hbelow, h⟩
        · cases h
  · cases h
  · cases h

theorem exists_at?_of_follow {v : Volume} {here there parts : List Bytes} {part : Bytes}
    (h : v.follow here (part :: parts) = .ok there) :
    exists node, v.root.at? there = some node := by
  induction parts generalizing here part with
  | nil =>
      rcases exists_follow_of_cons h with ⟨next, node, hnext, hrest⟩
      cases hrest
      exact ⟨node, hnext⟩
  | cons next parts ih =>
      rcases exists_follow_of_cons h with ⟨_, _, _, hrest⟩
      exact ih hrest

theorem locate_eq_ok_iff {v : Volume} {path : Path} {place : List Bytes} :
    v.locate path = .ok place <->
      0 ∉ path ∧ path ≠ [] ∧ v.follow (v.origin path) (Path.segments path) = .ok place := by
  unfold locate
  by_cases hnul : 0 ∈ path
  · have hholds : Path.holdsNul path = true := by
      rwa [← Bool.not_eq_false, Path.holdsNul_eq_false_iff, not_not]
    simp [hnul, hholds]
  · simp only [hnul, Path.holdsNul_eq_false_iff.mpr hnul]
    by_cases hempty : path = []
    · simp [hempty]
    · simp [hempty]

theorem exists_at?_of_locate {v : Volume} {path : Path} {place : List Bytes}
    (h : v.locate path = .ok place) : exists node, v.root.at? place = some node := by
  have hfollow := (locate_eq_ok_iff.mp h).2.2
  cases hsegments : Path.segments path with
  | nil =>
      exact absurd hsegments (Path.segments_ne_nil path)
  | cons part parts =>
      rw [hsegments] at hfollow
      exact exists_at?_of_follow hfollow

theorem node_of_locate {v : Volume} {path : Path} {place : List Bytes} {node : Node}
    (h : v.locate path = .ok place) (hat : v.root.at? place = some node) :
    v.node path = .ok node := by
  unfold Volume.node
  rw [h]
  dsimp only
  rw [hat]

/-!
# Joined names
-/

theorem eq_of_follow_empty {v : Volume} {here there : List Bytes}
    (h : v.follow here [[]] = .ok there) : here = there := by
  have hidle : Path.isIdle [] = true := rfl
  rw [follow] at h
  split at h
  · rw [if_pos hidle, follow] at h
    exact Except.ok.inj h
  · cases h
  · cases h

theorem locate_join {v : Volume} {folder : Path} {name : Bytes} {place : List Bytes}
    {entries : List (Bytes × Node)} (hname : Path.IsName name)
    (h : v.locate folder = .ok place) (hat : v.root.at? place = some (.folder entries))
    (hhas : Entries.has entries name = true) :
    v.locate (Path.join folder name) = .ok (place ++ [name]) := by
  rcases locate_eq_ok_iff.mp h with ⟨hnul, _, hfollow⟩
  rcases hname.exists_segments_join folder with ⟨front, hjoin, hfolder⟩
  have horigin : v.origin (Path.join folder name) = v.origin folder := by
    unfold origin
    rw [hname.isAbsolute_join]
  have hfront : v.follow (v.origin folder) front = .ok place := by
    rcases hfolder with hfolder | hfolder
    · rw [← hfolder]
      exact hfollow
    · rw [hfolder, follow_append] at hfollow
      rcases bind_eq_ok_iff.mp hfollow with ⟨there, hthere, hempty⟩
      rw [hthere, eq_of_follow_empty hempty]
  have hlast : v.follow place [name] = .ok (place ++ [name]) := by
    rw [follow, hat]
    simp only [hname.isIdle_eq_false, beq_false_of_ne hname.ne_dots, hhas]
    rfl
  refine locate_eq_ok_iff.mpr ⟨hname.nul_not_mem_join hnul, hname.join_ne_nil folder, ?_⟩
  rw [horigin, hjoin, follow_append, hfront]
  exact hlast

theorem locate_pathBelow {v : Volume} {start : Path} {place names : List Bytes} {node : Node}
    (hnames : forall name, name ∈ names -> Path.IsName name)
    (h : v.locate start = .ok place) (hat : v.root.at? (place ++ names) = some node) :
    v.locate (pathBelow start names) = .ok (place ++ names) := by
  induction names generalizing start place with
  | nil =>
      rw [List.append_nil]
      exact h
  | cons name names ih =>
      rcases List.forall_mem_cons.mp hnames with ⟨hname, hnames'⟩
      rw [← List.singleton_append, ← List.append_assoc] at hat ⊢
      rcases Node.exists_at?_of_append hat with ⟨next, hnext⟩
      rcases Node.exists_folder_of_concat hnext with ⟨entries, hfolder, hhas⟩
      exact ih hnames' (locate_join hname h hfolder hhas) hat

/-- Each place is where the path of its names behind a slash leads to, wherever is worked. -/
theorem locate_pathBelow_slash {v : Volume} (hsound : v.root.Sound) {names : List Bytes}
    {node : Node} (hat : v.root.at? names = some node) :
    v.locate (pathBelow [Path.slash] names) = .ok names := by
  have hroot : v.locate [Path.slash] = .ok [] := rfl
  exact locate_pathBelow (hsound.at? hat).2 hroot hat

/-!
# Volumes with the same tree
-/

section SameTree

variable {v w : Volume} (h : v.root.SameTree w.root)

include h

theorem follow_eq_of_sameTree (here parts : List Bytes) :
    v.follow here parts = w.follow here parts := by
  induction parts generalizing here with
  | nil =>
      rw [follow, follow]
  | cons part parts ih =>
      rw [follow, follow]
      rcases h.at?_cases here with ⟨hv, hw⟩ | ⟨content, hv, hw⟩ | ⟨entries, entries', hv, hw, hhas⟩
      · rw [hv, hw]
      · rw [hv, hw]
      · rw [hv, hw]
        simp only [ih, hhas]

variable (hwork : v.work = w.work)

include hwork

theorem locate_eq_of_sameTree (path : Path) : v.locate path = w.locate path := by
  unfold locate origin
  rw [follow_eq_of_sameTree h, hwork]

theorem readBytes_eq_of_sameTree (path : Path) : v.readBytes path = w.readBytes path := by
  unfold readBytes node
  rw [locate_eq_of_sameTree h hwork]
  cases w.locate path with
  | error fault =>
      rfl
  | ok place =>
      dsimp only
      rcases h.at?_cases place with ⟨hv, hw⟩ | ⟨content, hv, hw⟩ | ⟨entries, entries', hv, hw, _⟩
      · rw [hv, hw]
      · rw [hv, hw]
      · rw [hv, hw]

theorem sources_eq_of_sameTree (root : Option Path) : v.sources root = w.sources root := by
  have hfile : forall path, v.sourceFile? path = w.sourceFile? path := by
    intro path
    rw [sourceFile?, readBytes_eq_of_sameTree h hwork, sourceFile?]
  unfold sources
  simp only [hfile]

end SameTree

end Volume
end FindingLedger
