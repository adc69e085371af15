import FindingLedger.Proofs.Entries
import FindingLedger.Proofs.Volume.Paths

/-!
# Trees of folders and files

In a sound tree the entries of each folder have different names that paths can lead to, so that
the files that are listed are those that chains of names lead to, each listed once. Two trees are
the same if the same chains lead to the same files and to folders, in whatever order folders list
their entries.
-/

namespace FindingLedger

namespace Node

/-- Whether the entries of every folder have names, and different ones. -/
inductive Sound : Node -> Prop where
  | file (content : Bytes) : Sound (.file content)
  | folder {entries : List (Bytes × Node)} (distinct : (Entries.keys entries).Nodup)
      (names : forall entry, entry ∈ entries -> Path.IsName entry.1)
      (each : forall entry, entry ∈ entries -> Sound entry.2) : Sound (.folder entries)

def content? : Node -> Option Bytes
  | .file content => some content
  | .folder _ => none

/-- Whether the same chains of names lead to files and folders, and to the same contents. -/
def SameTree (a b : Node) : Prop :=
  forall names, (a.at? names).map content? = (b.at? names).map content?

/-- Whether a tree is another one with its folders listing their entries in other orders. -/
inductive Relisted : Node -> Node -> Prop where
  | refl (node : Node) : Relisted node node
  | perm {entries others : List (Bytes × Node)} (h : entries.Perm others) :
      Relisted (.folder entries) (.folder others)
  | entry (before after : List (Bytes × Node)) (name : Bytes) {node other : Node}
      (h : Relisted node other) :
      Relisted (.folder (before ++ (name, node) :: after))
        (.folder (before ++ (name, other) :: after))
  | trans {a b c : Node} (h : Relisted a b) (h' : Relisted b c) : Relisted a c

/-!
# Chains of names
-/

theorem at?_append (node : Node) (names more : List Bytes) :
    node.at? (names ++ more) = (node.at? names).bind fun below => below.at? more := by
  induction names generalizing node with
  | nil =>
      rw [List.nil_append, at?]
      rfl
  | cons name names ih =>
      cases node with
      | file content =>
          rfl
      | folder entries =>
          rw [List.cons_append, at?, at?]
          cases Entries.get? entries name with
          | none =>
              rfl
          | some below =>
              exact ih below

theorem at?_folder_cons (entries : List (Bytes × Node)) (name : Bytes) (names : List Bytes) :
    (folder entries).at? (name :: names) =
      (Entries.get? entries name).bind fun below => below.at? names := by
  rw [at?]
  cases Entries.get? entries name with
  | none | some below =>
      rfl

theorem isSome_at?_concat {node : Node} {names : List Bytes} {entries : List (Bytes × Node)}
    (h : node.at? names = some (.folder entries)) (name : Bytes) :
    (node.at? (names ++ [name])).isSome = Entries.has entries name := by
  have hget : (Entries.get? entries name).bind (fun below => below.at? []) =
      Entries.get? entries name := by
    cases Entries.get? entries name with
    | none =>
        rfl
    | some below =>
        rw [Option.bind_some, at?]
  rw [at?_append, h, Option.bind_some, at?_folder_cons, hget, Bool.eq_iff_iff,
    Entries.isSome_get?_iff, Entries.has_iff_mem_keys]

theorem exists_at?_of_append {node below : Node} {names more : List Bytes}
    (h : node.at? (names ++ more) = some below) : exists above, node.at? names = some above := by
  rw [at?_append] at h
  rcases Option.bind_eq_some_iff.mp h with ⟨above, habove, _⟩
  exact ⟨above, habove⟩

theorem exists_folder_of_concat {node below : Node} {names : List Bytes} {name : Bytes}
    (h : node.at? (names ++ [name]) = some below) :
    exists entries, node.at? names = some (.folder entries) ∧
      Entries.has entries name = true := by
  rcases exists_at?_of_append h with ⟨above, habove⟩
  cases above with
  | file content =>
      rw [at?_append, habove] at h
      cases h
  | folder entries =>
      refine ⟨entries, habove, ?_⟩
      rw [← isSome_at?_concat habove, h]
      rfl

theorem Sound.nodup_keys {entries : List (Bytes × Node)} (h : (Node.folder entries).Sound) :
    (Entries.keys entries).Nodup := by
  cases h with
  | folder hdistinct _ _ =>
      exact hdistinct

theorem Sound.of_mem {entries : List (Bytes × Node)} (h : (Node.folder entries).Sound)
    {entry : Bytes × Node} (hentry : entry ∈ entries) : entry.2.Sound := by
  cases h with
  | folder _ _ heach =>
      exact heach entry hentry

theorem Sound.at? {node below : Node} {names : List Bytes} (h : node.Sound)
    (hat : node.at? names = some below) :
    below.Sound ∧ forall name, name ∈ names -> Path.IsName name := by
  induction h generalizing names with
  | file content =>
      cases names with
      | nil =>
          cases hat
          exact ⟨.file content, nofun⟩
      | cons name names =>
          cases hat
  | @folder entries hdistinct hnames heach ih =>
      cases names with
      | nil =>
          cases hat
          exact ⟨.folder hdistinct hnames heach, nofun⟩
      | cons name names =>
          rw [at?_folder_cons] at hat
          rcases Option.bind_eq_some_iff.mp hat with ⟨next, hget, hnext⟩
          have hmem := Entries.mem_of_get?_eq_some hget
          rcases ih _ hmem hnext with ⟨hbelow, hrest⟩
          exact ⟨hbelow, List.forall_mem_cons.mpr ⟨hnames _ hmem, hrest⟩⟩

theorem SameTree.at?_cases {a b : Node} (h : a.SameTree b) (names : List Bytes) :
    (a.at? names = none ∧ b.at? names = none) ∨
      (exists content, a.at? names = some (.file content) ∧
        b.at? names = some (.file content)) ∨
      exists entries entries', a.at? names = some (.folder entries) ∧
        b.at? names = some (.folder entries') ∧
        forall name, Entries.has entries name = Entries.has entries' name := by
  have hnames := h names
  cases ha : a.at? names with
  | none =>
      rw [ha] at hnames
      exact Or.inl ⟨rfl, Option.map_eq_none_iff.mp hnames.symm⟩
  | some below =>
      rw [ha] at hnames
      rcases Option.map_eq_some_iff.mp hnames.symm with ⟨below', hb, hkind⟩
      cases below with
      | file content =>
          cases below' with
          | file content' =>
              cases hkind
              exact Or.inr (Or.inl ⟨content, rfl, hb⟩)
          | folder entries' =>
              cases hkind
      | folder entries =>
          cases below' with
          | file content' =>
              cases hkind
          | folder entries' =>
              refine Or.inr (Or.inr ⟨entries, entries', rfl, hb, ?_⟩)
              intro name
              rw [← isSome_at?_concat ha, ← isSome_at?_concat hb, ← Option.isSome_map,
                h (names ++ [name]), Option.isSome_map]

theorem SameTree.at?_eq_file_iff {a b : Node} (h : a.SameTree b) {names : List Bytes}
    {content : Bytes} :
    a.at? names = some (.file content) <-> b.at? names = some (.file content) := by
  rcases h.at?_cases names with ⟨ha, hb⟩ | ⟨content', ha, hb⟩ | ⟨entries, entries', ha, hb, _⟩
  · rw [ha, hb]
  · rw [ha, hb]
  · rw [ha, hb]
    constructor <;> exact nofun

/-!
# Other orders of listing
-/

theorem sameTree_folder_of_perm {entries others : List (Bytes × Node)}
    (hdistinct : (Entries.keys entries).Nodup) (h : entries.Perm others) :
    (folder entries).SameTree (folder others) := by
  intro names
  cases names with
  | nil =>
      rfl
  | cons name names =>
      rw [at?_folder_cons, at?_folder_cons, Entries.get?_eq_of_perm hdistinct h]

theorem sameTree_folder_of_entry (before after : List (Bytes × Node)) (name : Bytes)
    {node other : Node} (h : node.SameTree other) :
    (folder (before ++ (name, node) :: after)).SameTree
      (folder (before ++ (name, other) :: after)) := by
  intro names
  cases names with
  | nil =>
      rfl
  | cons key names =>
      rw [at?_folder_cons, at?_folder_cons, Entries.get?_append, Entries.get?_append,
        Entries.get?_cons, Entries.get?_cons]
      cases Entries.get? before key with
      | some below =>
          rfl
      | none =>
          dsimp only
          split
          · exact h names
          · rfl

theorem sound_folder_of_perm {entries others : List (Bytes × Node)}
    (hsound : (folder entries).Sound) (h : entries.Perm others) : (folder others).Sound := by
  cases hsound with
  | folder hdistinct hnames heach =>
      apply Sound.folder
      · exact (h.map Prod.fst).nodup_iff.mp hdistinct
      · intro entry hentry
        exact hnames entry (h.mem_iff.mpr hentry)
      · intro entry hentry
        exact heach entry (h.mem_iff.mpr hentry)

theorem sound_folder_of_entry {before after : List (Bytes × Node)} {name : Bytes}
    {node other : Node} (hsound : (folder (before ++ (name, node) :: after)).Sound)
    (h : other.Sound) : (folder (before ++ (name, other) :: after)).Sound := by
  cases hsound with
  | folder hdistinct hnames heach =>
      simp only [List.forall_mem_append, List.forall_mem_cons] at hnames heach
      apply Sound.folder
      · simpa [Entries.keys] using hdistinct
      · simp only [List.forall_mem_append, List.forall_mem_cons]
        exact hnames
      · simp only [List.forall_mem_append, List.forall_mem_cons]
        exact ⟨heach.1, h, heach.2.2⟩

theorem Relisted.sound_and_sameTree {a b : Node} (h : a.Relisted b) (hsound : a.Sound) :
    b.Sound ∧ a.SameTree b := by
  induction h with
  | refl node =>
      exact ⟨hsound, fun _ => rfl⟩
  | perm hperm =>
      have hdistinct := hsound.nodup_keys
      exact ⟨sound_folder_of_perm hsound hperm, sameTree_folder_of_perm hdistinct hperm⟩
  | entry before after name _ ih =>
      have hnode := hsound.of_mem (List.mem_append_right before List.mem_cons_self)
      rcases ih hnode with ⟨hother, hsame⟩
      exact ⟨sound_folder_of_entry hsound hother, sameTree_folder_of_entry before after name hsame⟩
  | trans _ _ ih ih' =>
      rcases ih hsound with ⟨hb, hab⟩
      rcases ih' hb with ⟨hc, hbc⟩
      exact ⟨hc, fun names => (hab names).trans (hbc names)⟩

/-!
# The files that are listed
-/

theorem mem_entryFileNames_iff {entries : List (Bytes × Node)} {names : List Bytes} :
    names ∈ entryFileNames entries <->
      exists entry, entry ∈ entries ∧ exists more, more ∈ entry.2.fileNames ∧
        names = entry.1 :: more := by
  induction entries with
  | nil =>
      simp [entryFileNames]
  | cons entry rest ih =>
      rw [entryFileNames, List.mem_append, List.mem_map, ih]
      constructor
      · intro h
        rcases h with ⟨more, hmore, rfl⟩ | ⟨other, hother, hmore⟩
        · exact ⟨entry, List.mem_cons_self, more, hmore, rfl⟩
        · exact ⟨other, List.mem_cons_of_mem _ hother, hmore⟩
      · intro h
        rcases h with ⟨other, hother, more, hmore, heq⟩
        rcases List.mem_cons.mp hother with rfl | hother
        · exact Or.inl ⟨more, hmore, heq.symm⟩
        · exact Or.inr ⟨other, hother, more, hmore, heq⟩

theorem Sound.mem_fileNames_iff {node : Node} (h : node.Sound) {names : List Bytes} :
    names ∈ node.fileNames <-> exists content, node.at? names = some (.file content) := by
  induction h generalizing names with
  | file content =>
      cases names with
      | nil =>
          simp [fileNames, Node.at?]
      | cons name names =>
          simp [fileNames, Node.at?]
  | @folder entries hdistinct hnames heach ih =>
      rw [fileNames, mem_entryFileNames_iff]
      cases names with
      | nil =>
          simp [Node.at?]
      | cons name names =>
          rw [at?_folder_cons]
          constructor
          · intro hmem
            rcases hmem with ⟨entry, hentry, more, hmore, heq⟩
            cases heq
            rcases (ih entry hentry).mp hmore with ⟨content, hcontent⟩
            refine ⟨content, ?_⟩
            rw [Entries.get?_eq_some_of_mem hdistinct hentry, Option.bind_some, hcontent]
          · intro hfile
            rcases hfile with ⟨content, hat⟩
            rcases Option.bind_eq_some_iff.mp hat with ⟨below, hget, hbelow⟩
            have hmem := Entries.mem_of_get?_eq_some hget
            exact ⟨_, hmem, names, (ih _ hmem).mpr ⟨content, hbelow⟩, rfl⟩

theorem nodup_entryFileNames {entries : List (Bytes × Node)}
    (hdistinct : (Entries.keys entries).Nodup)
    (heach : forall entry, entry ∈ entries -> entry.2.fileNames.Nodup) :
    (entryFileNames entries).Nodup := by
  induction entries with
  | nil =>
      exact List.nodup_nil
  | cons entry rest ih =>
      rcases List.nodup_cons.mp hdistinct with ⟨hnew, hdistinct'⟩
      rcases List.forall_mem_cons.mp heach with ⟨hentry, hrest⟩
      rw [entryFileNames]
      refine List.nodup_append'.mpr ⟨?_, ih hdistinct' hrest, ?_⟩
      · exact hentry.map List.cons_injective
      · intro names hfirst hlater
        rcases List.mem_map.mp hfirst with ⟨more, _, rfl⟩
        rcases mem_entryFileNames_iff.mp hlater with ⟨other, hother, more', _, heq⟩
        apply hnew
        rw [(List.cons.inj heq).1]
        exact List.mem_map_of_mem hother

theorem Sound.nodup_fileNames {node : Node} (h : node.Sound) : node.fileNames.Nodup := by
  induction h with
  | file content =>
      exact List.nodup_singleton []
  | folder hdistinct _ _ ih =>
      rw [fileNames]
      exact nodup_entryFileNames hdistinct ih

end Node

end FindingLedger
