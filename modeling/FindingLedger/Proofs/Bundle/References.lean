import FindingLedger.Proofs.Sequencing

/-!
# The files that diagnostics refer to

A location names its file by a number. A bundle that is read lists the file of every place
that its diagnostics refer to, which are the places that `Diagnostic.fileIndices`
goes through. The ends of the ranges shown with notes are not among them, and they are the
only places of a bundle that may name a file that is not listed.
-/

namespace FindingLedger

open Plist (Value)

/-!
# Places of a diagnostic
-/

namespace Diagnostic

/-- The places that a diagnostic refers to: its own, those of the steps of its path with
both ends of the ranges shown there, and those of its notes. -/
inductive Refers (d : Diagnostic) : Location -> Prop where
  | own : Refers d d.location
  | step {e : PathElement} : e ∈ d.path -> Refers d e.location
  | rangeFirst {e : PathElement} {r : SourceRange} :
      e ∈ d.path -> r ∈ e.ranges -> Refers d r.first
  | rangeLast {e : PathElement} {r : SourceRange} :
      e ∈ d.path -> r ∈ e.ranges -> Refers d r.last
  | note {n : PathEvent} : n ∈ d.notes -> Refers d n.location

/-- The ends of the ranges shown with notes. -/
inductive NoteRangeEnd (d : Diagnostic) : Location -> Prop where
  | first {n : PathEvent} {r : SourceRange} :
      n ∈ d.notes -> r ∈ n.ranges -> NoteRangeEnd d r.first
  | last {n : PathEvent} {r : SourceRange} :
      n ∈ d.notes -> r ∈ n.ranges -> NoteRangeEnd d r.last

/-- Every place that is written anywhere in a diagnostic. -/
def Mentions (d : Diagnostic) (l : Location) : Prop :=
  d.Refers l ∨ d.NoteRangeEnd l

theorem mem_elementIndices_iff {e : PathElement} {i : Nat} :
    i ∈ elementIndices e <->
      e.location.fileIndex = i ∨
        exists r, r ∈ e.ranges ∧ (r.first.fileIndex = i ∨ r.last.fileIndex = i) := by
  simp [elementIndices, eq_comm]

theorem mem_fileIndices_iff {d : Diagnostic} {i : Nat} :
    i ∈ d.fileIndices <-> exists l, d.Refers l ∧ l.fileIndex = i := by
  constructor
  · intro hi
    unfold fileIndices at hi
    rcases List.mem_append.mp hi with hi | hi
    · rcases List.mem_cons.mp hi with hi | hi
      · exact ⟨d.location, Refers.own, hi.symm⟩
      · rcases List.mem_flatMap.mp hi with ⟨e, he, hi⟩
        rcases mem_elementIndices_iff.mp hi with hi | ⟨r, hr, hi | hi⟩
        · exact ⟨e.location, Refers.step he, hi⟩
        · exact ⟨r.first, Refers.rangeFirst he hr, hi⟩
        · exact ⟨r.last, Refers.rangeLast he hr, hi⟩
    · rcases List.mem_map.mp hi with ⟨n, hn, hi⟩
      exact ⟨n.location, Refers.note hn, hi⟩
  · intro h
    rcases h with ⟨l, hl, hi⟩
    subst hi
    -- Three of the five kinds of places lie on the path.
    have hpath : forall {e : PathElement} {i : Nat}, e ∈ d.path ->
        i ∈ elementIndices e -> i ∈ d.fileIndices := by
      intro e i he hi
      unfold fileIndices
      refine List.mem_append_left _ (List.mem_cons_of_mem _ ?_)
      exact List.mem_flatMap.mpr ⟨e, he, hi⟩
    cases hl with
    | own =>
        simp [fileIndices]
    | step he =>
        exact hpath he (mem_elementIndices_iff.mpr (Or.inl rfl))
    | rangeFirst he hr =>
        exact hpath he (mem_elementIndices_iff.mpr (Or.inr ⟨_, hr, Or.inl rfl⟩))
    | rangeLast he hr =>
        exact hpath he (mem_elementIndices_iff.mpr (Or.inr ⟨_, hr, Or.inr rfl⟩))
    | note hn =>
        unfold fileIndices
        exact List.mem_append_right _ (List.mem_map.mpr ⟨_, hn, rfl⟩)

/-- Whether the places of a diagnostic lie in the first so many files. -/
def Resolves (d : Diagnostic) (count : Nat) : Prop :=
  forall l, d.Refers l -> l.fileIndex < count

theorem find?_fileIndices_eq_none_iff {d : Diagnostic} {count : Nat} :
    (d.fileIndices.find? fun file => count ≤ file) = none <-> d.Resolves count := by
  simp only [List.find?_eq_none, mem_fileIndices_iff, decide_eq_true_eq, Nat.not_le]
  constructor
  · intro h l hl
    exact h l.fileIndex ⟨l, hl, rfl⟩
  · intro h i hi
    rcases hi with ⟨l, hl, hi⟩
    rw [← hi]
    exact h l hl

end Diagnostic

/-!
# Decoded bundles
-/

namespace Bundle

theorem asDict_eq_ok_iff {field : String} {v : Value} {entries : List (String × Value)} :
    asDict field v = .ok entries <-> v = .dict entries := by
  cases v <;> simp [asDict]

theorem decodeListed_eq_ok_iff {count index : Nat} {v : Value} {d : Diagnostic} :
    decodeListed count index v = .ok d <->
      exists entries, v = .dict entries ∧ decodeDiagnostic entries = .ok d ∧
        d.Resolves count := by
  simp only [decodeListed, bind_eq_ok_iff, mapError_eq_ok_iff, asDict_eq_ok_iff]
  constructor
  · intro h
    rcases h with ⟨entries, hv, d', hd', hfind⟩
    cases hfound : d'.fileIndices.find? fun file => count ≤ file with
    | some file =>
        rw [hfound] at hfind
        cases hfind
    | none =>
        rw [hfound] at hfind
        cases hfind
        exact ⟨entries, hv, hd', Diagnostic.find?_fileIndices_eq_none_iff.mp hfound⟩
  · intro h
    rcases h with ⟨entries, hv, hd, hresolves⟩
    refine ⟨entries, hv, d, hd, ?_⟩
    rw [Diagnostic.find?_fileIndices_eq_none_iff.mpr hresolves]
    rfl

theorem decodeRoot_eq_ok_iff {entries : List (String × Value)} {b : Bundle} :
    decodeRoot entries = .ok b <->
      exists names items,
        optionalArray entries "files" = .ok names ∧
        decodeEach (fun index v => asString (indexed "files" index) v) 0 names =
          .ok b.files ∧
        optionalArray entries "diagnostics" = .ok items ∧
        decodeEach (decodeListed b.files.length) 0 items = .ok b.diagnostics ∧
        optionalString entries "clang_version" = .ok b.clangVersion ∧
        b.generation = Generation.oldest (b.diagnostics.map Diagnostic.generation) := by
  simp only [decodeRoot, bind_eq_ok_iff, mapError_eq_ok_iff]
  constructor
  · intro h
    rcases h with ⟨names, hnames, files, hfiles, items, hitems, diagnostics, hdiagnostics,
      clangVersion, hversion, hb⟩
    cases hb
    exact ⟨names, items, hnames, hfiles, hitems, hdiagnostics, hversion, rfl⟩
  · intro h
    rcases h with ⟨names, items, hnames, hfiles, hitems, hdiagnostics, hversion, hgeneration⟩
    refine ⟨names, hnames, b.files, hfiles, items, hitems, b.diagnostics, hdiagnostics,
      b.clangVersion, hversion, ?_⟩
    cases b with
    | mk files diagnostics generation clangVersion =>
        simp only at hgeneration
        subst hgeneration
        rfl

theorem read_eq_ok_iff {document : Bytes} {b : Bundle} :
    read document = .ok b <->
      (Plist.read document = .ok none ∧ b = empty) ∨
        exists entries, Plist.read document = .ok (some (.dict entries)) ∧
          decodeRoot entries = .ok b := by
  unfold read
  cases hplist : Plist.read document with
  | error e =>
      simp
  | ok v? =>
      cases v? with
      | none =>
          simp [ofValue, eq_comm]
      | some v =>
          cases v <;> simp [ofValue]

/-- Whether the given places of all diagnostics lie in listed files. -/
def Resolves (b : Bundle) (places : Diagnostic -> Location -> Prop) : Prop :=
  forall d, d ∈ b.diagnostics -> forall l, places d l -> l.fileIndex < b.files.length

theorem resolves_refers_of_decodeRoot {entries : List (String × Value)} {b : Bundle}
    (hroot : decodeRoot entries = .ok b) : b.Resolves Diagnostic.Refers := by
  rcases decodeRoot_eq_ok_iff.mp hroot with ⟨_, items, _, _, _, hdiagnostics, _, _⟩
  intro d hd
  rcases exists_of_forall₂_right (decodeEach_eq_ok_iff.mp hdiagnostics) hd with
    ⟨item, _, hitem⟩
  rcases decodeListed_eq_ok_iff.mp hitem with ⟨_, _, _, hresolves⟩
  exact hresolves

theorem resolves_refers_of_read {document : Bytes} {b : Bundle}
    (hread : read document = .ok b) : b.Resolves Diagnostic.Refers := by
  rcases read_eq_ok_iff.mp hread with ⟨_, hempty⟩ | ⟨entries, _, hroot⟩
  · subst hempty
    intro d hd
    cases hd
  · exact resolves_refers_of_decodeRoot hroot

/-- All places of a bundle that is read lie in listed files except for the ends of ranges
shown with notes, so they all do exactly when those ends do. -/
theorem resolves_mentions_iff_noteRangeEnds {document : Bytes} {b : Bundle}
    (hread : read document = .ok b) :
    b.Resolves Diagnostic.Refers ∧
      (b.Resolves Diagnostic.Mentions <-> b.Resolves Diagnostic.NoteRangeEnd) := by
  have hrefers := resolves_refers_of_read hread
  refine ⟨hrefers, ?_⟩
  constructor
  · intro h d hd l hl
    exact h d hd l (Or.inr hl)
  · intro h d hd l hl
    cases hl with
    | inl hrefer =>
        exact hrefers d hd l hrefer
    | inr hend =>
        exact h d hd l hend

def placeMarkup (file : String) : String :=
  "<dict><key>line</key><integer>3</integer><key>col</key><integer>1</integer>" ++
    "<key>file</key><integer>" ++ file ++ "</integer></dict>"

/-- A bundle of one file. Its diagnostic has a note with a range in a fifth file. -/
def strayNoteDocument : Bytes :=
  ("<plist><dict><key>files</key><array><string>a.c</string></array>" ++
    "<key>diagnostics</key><array><dict><key>location</key>" ++ placeMarkup "0" ++
    "<key>notes</key><array><dict><key>location</key>" ++ placeMarkup "0" ++
    "<key>ranges</key><array><array>" ++ placeMarkup "4" ++ "</array></array>" ++
    "</dict></array></dict></array></dict></plist>").toUTF8.data.toList

def strayNote : PathEvent :=
  { location := ⟨0, 3, 1⟩, message := "", extendedMessage := none, depth := 0
    ranges := [⟨⟨4, 3, 1⟩, ⟨4, 3, 1⟩⟩] }

def strayNoteDiagnostic : Diagnostic :=
  { category := "", type := "", description := "", checkerName := none
    location := ⟨0, 3, 1⟩, contextName := none, contextKind := none, path := []
    notes := [strayNote], embeddedHash := none, functionOffset := none }

def strayNoteBundle : Bundle :=
  ⟨["a.c"], [strayNoteDiagnostic], some .unnamed, none⟩

theorem read_strayNoteDocument : read strayNoteDocument = .ok strayNoteBundle := by
  decide +kernel

theorem not_resolves_mentions_of_read :
    ¬ forall (document : Bytes) (b : Bundle),
      read document = .ok b -> b.Resolves Diagnostic.Mentions := by
  intro h
  have hend : strayNoteDiagnostic.NoteRangeEnd ⟨4, 3, 1⟩ :=
    Diagnostic.NoteRangeEnd.first (n := strayNote) (r := ⟨⟨4, 3, 1⟩, ⟨4, 3, 1⟩⟩)
      (List.mem_singleton_self _) (List.mem_singleton_self _)
  have hlt := h _ _ read_strayNoteDocument strayNoteDiagnostic (List.mem_singleton_self _)
    ⟨4, 3, 1⟩ (Or.inr hend)
  exact absurd hlt (by decide)

theorem resolves_strayNoteBundle :
    read strayNoteDocument = .ok strayNoteBundle ∧
      strayNoteBundle.Resolves Diagnostic.Refers ∧
      (strayNoteBundle.Resolves Diagnostic.Mentions <->
        strayNoteBundle.Resolves Diagnostic.NoteRangeEnd) :=
  ⟨read_strayNoteDocument, resolves_mentions_iff_noteRangeEnds read_strayNoteDocument⟩

end Bundle

end FindingLedger
