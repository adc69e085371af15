import FindingLedger.Proofs.Outcome.RegisteredFiles

/-!
# Added diagnostics

A diagnostic is decoded, identified and reported without regard to those that stand behind
it. So diagnostics that are added to a bundle leave in place what it yields without them: its
reports come first, and its files stay registered with their digests. Two bundles that are
accepted are accepted together.
-/

namespace FindingLedger

open Plist (Value)

namespace Generation

theorem older_assoc (a b c : Generation) : older (older a b) c = older a (older b c) := by
  cases a <;> cases b <;> cases c <;> rfl

theorem oldest_append (gs hs : List Generation) :
    oldest (gs ++ hs) = Option.merge older (oldest gs) (oldest hs) := by
  induction gs with
  | nil =>
      show oldest hs = Option.merge older none (oldest hs)
      cases oldest hs <;> rfl
  | cons g rest ih =>
      simp only [List.cons_append, oldest, ih]
      cases oldest rest with
      | none =>
          cases oldest hs <;> rfl
      | some g' =>
          cases oldest hs with
          | none =>
              rfl
          | some h =>
              exact congrArg some (older_assoc g g' h).symm

end Generation

namespace Bundle

/-!
# Roots with other diagnostics
-/

def withDiagnostics (root : Entries Value) (items : List Value) : Entries Value :=
  Entries.put root "diagnostics" (.array items)

def holding (b : Bundle) (ds : List Diagnostic) : Bundle :=
  { b with
    diagnostics := ds
    generation := Generation.oldest (ds.map Diagnostic.generation) }

/-- Whether a value is decoded as a diagnostic that refers to the first so many files alone. -/
def Decodes (count : Nat) (v : Value) (d : Diagnostic) : Prop :=
  exists entries, v = .dict entries ∧ decodeDiagnostic entries = .ok d ∧ d.Resolves count

theorem decodeEach_decodeListed_eq_ok_iff {count index : Nat} {items : List Value}
    {ds : List Diagnostic} :
    decodeEach (decodeListed count) index items = .ok ds <->
      List.Forall₂ (Decodes count) items ds :=
  decodeEach_eq_ok_iff_forall₂ (Decodes count) fun _ _ _ => decodeListed_eq_ok_iff

/-- Whether the files and the version of a bundle are those of a root dictionary. -/
structure Frames (root : Entries Value) (b : Bundle) : Prop where
  files : exists names, optionalArray root "files" = .ok names ∧
    decodeEach (fun index v => asString (indexed "files" index) v) 0 names = .ok b.files
  clangVersion : optionalString root "clang_version" = .ok b.clangVersion

theorem decodeRoot_withDiagnostics_eq_ok_iff {root : Entries Value} {items : List Value}
    {b : Bundle} :
    decodeRoot (withDiagnostics root items) = .ok b <->
      Frames root b ∧ List.Forall₂ (Decodes b.files.length) items b.diagnostics ∧
        b = b.holding b.diagnostics := by
  have hfiles : optionalArray (withDiagnostics root items) "files" =
      optionalArray root "files" := by
    unfold optionalArray withDiagnostics
    rw [Entries.get?_put_of_ne root (.array items) (by decide)]
  have hversion : optionalString (withDiagnostics root items) "clang_version" =
      optionalString root "clang_version" := by
    unfold optionalString withDiagnostics
    rw [Entries.get?_put_of_ne root (.array items) (by decide)]
  have hitems : optionalArray (withDiagnostics root items) "diagnostics" = .ok items := by
    unfold optionalArray withDiagnostics
    rw [Entries.get?_put_self]
    rfl
  simp only [decodeRoot_eq_ok_iff, hfiles, hversion, hitems, Except.ok.injEq]
  constructor
  · rintro ⟨names, _, hnames, hlisted, rfl, hdiagnostics, hclang, hgeneration⟩
    refine ⟨⟨⟨names, hnames, hlisted⟩, hclang⟩,
      decodeEach_decodeListed_eq_ok_iff.mp hdiagnostics, ?_⟩
    cases b with
    | mk files diagnostics generation clangVersion =>
        exact congrArg (Bundle.mk files diagnostics · clangVersion) hgeneration
  · rintro ⟨⟨⟨names, hnames, hlisted⟩, hclang⟩, hdecodes, hb⟩
    exact ⟨names, items, hnames, hlisted, rfl, decodeEach_decodeListed_eq_ok_iff.mpr hdecodes,
      hclang, congrArg Bundle.generation hb⟩

theorem decodeRoot_append_eq_ok_iff {root : Entries Value} {items more : List Value}
    {b : Bundle} :
    decodeRoot (withDiagnostics root (items ++ more)) = .ok b <->
      exists ds es, b = b.holding (ds ++ es) ∧
        decodeRoot (withDiagnostics root items) = .ok (b.holding ds) ∧
        decodeRoot (withDiagnostics root more) = .ok (b.holding es) := by
  simp only [decodeRoot_withDiagnostics_eq_ok_iff]
  constructor
  · rintro ⟨hframes, hdecodes, hb⟩
    rcases forall₂_append_left_iff.mp hdecodes with ⟨ds, es, hsplit, hds, hes⟩
    rw [hsplit] at hb
    exact ⟨ds, es, hb, ⟨⟨hframes.files, hframes.clangVersion⟩, hds, rfl⟩,
      ⟨⟨hframes.files, hframes.clangVersion⟩, hes, rfl⟩⟩
  · rintro ⟨ds, es, hb, ⟨hframes, hds, _⟩, ⟨_, hes, _⟩⟩
    rw [hb]
    exact ⟨⟨hframes.files, hframes.clangVersion⟩, List.rel_append hds hes, rfl⟩

theorem eq_holding_of_decodeRoot {root : Entries Value} {items more : List Value}
    {b c : Bundle} (hb : decodeRoot (withDiagnostics root items) = .ok b)
    (hc : decodeRoot (withDiagnostics root more) = .ok c) :
    c = b.holding c.diagnostics := by
  rcases decodeRoot_withDiagnostics_eq_ok_iff.mp hb with ⟨⟨⟨names, hnames, hb⟩, hversion⟩, _⟩
  rcases decodeRoot_withDiagnostics_eq_ok_iff.mp hc with
    ⟨⟨⟨names', hnames', hc⟩, hversion'⟩, _, hholding⟩
  rw [hnames] at hnames'
  cases hnames'
  have hfiles : b.files = c.files := Except.ok.inj (hb.symm.trans hc)
  have hclang : b.clangVersion = c.clangVersion :=
    Except.ok.inj (hversion.symm.trans hversion')
  rw [hholding]
  unfold holding
  rw [hfiles, hclang]

end Bundle

namespace Assembly

/-!
# Findings behind others
-/

theorem firsts_cons (seen : List Signature) (f : Finding × Identity)
    (rest : List (Finding × Identity)) :
    firsts seen (f :: rest) =
      if seen.contains (Signature.of f.1) then firsts seen rest
      else f :: firsts (Signature.of f.1 :: seen) rest :=
  rfl

theorem exists_firsts_append (seen : List Signature) (fs more : List (Finding × Identity)) :
    exists seen', firsts seen (fs ++ more) = firsts seen fs ++ firsts seen' more := by
  induction fs generalizing seen with
  | nil =>
      exact ⟨seen, rfl⟩
  | cons f rest ih =>
      rw [List.cons_append, firsts_cons, firsts_cons]
      split
      · exact ih seen
      · rcases ih (Signature.of f.1 :: seen) with ⟨seen', hrest⟩
        exists seen'
        exact congrArg (f :: ·) hrest

theorem exists_kept_append {findings : List Finding} {identities : List Identity}
    (hlength : findings.length = identities.length) (more : List Finding)
    (others : List Identity) :
    exists seen, kept (findings ++ more) (identities ++ others) =
      kept findings identities ++ firsts seen (more.zip others) := by
  unfold kept
  rw [List.zip_append hlength]
  exact exists_firsts_append [] _ _

section Append

variable {files : List String} {findings more : List Finding}
  {identities others : List Identity} {sources : Sources}

theorem reports_prefix_of_append {a front : Assembly}
    (ha : of files (findings ++ more) (identities ++ others) sources = .ok a)
    (hfront : of files findings identities sources = .ok front) :
    front.reports <+: a.reports ∧ front.duplicates ≤ a.duplicates := by
  rcases of_eq_ok_iff.mp hfront with ⟨hlength, hreports, _, hcount⟩
  rcases of_eq_ok_iff.mp ha with ⟨_, hreports', _, hcount'⟩
  rcases exists_kept_append hlength more others with ⟨seen, hkept⟩
  rw [hkept] at hreports' hcount'
  constructor
  · rcases each_append_eq_ok_iff.mp hreports' with ⟨reports, back, hsplit, hfirst, _⟩
    have hsame : front.reports = reports := Except.ok.inj (hreports.symm.trans hfirst)
    rw [hsplit, hsame]
    exact List.prefix_append reports back
  · -- No more findings are kept of those that are added than there are.
    have hadded : (firsts seen (more.zip others)).length ≤ more.length := by
      apply Nat.le_trans (firsts_sublist seen _).length_le
      rw [List.length_zip]
      exact Nat.min_le_left _ _
    rw [List.length_append, List.length_append] at hcount'
    omega

theorem IsFirst.append {place : Nat} (h : IsFirst findings place) :
    IsFirst (findings ++ more) place := by
  rcases h with ⟨f, hf, hnew⟩
  rcases List.getElem?_eq_some_iff.mp hf with ⟨hplace, _⟩
  exists f
  constructor
  · rw [List.getElem?_append_left hplace]
    exact hf
  · intro earlier g hearlier hg
    rw [List.getElem?_append_left (Nat.lt_trans hearlier hplace)] at hg
    exact hnew earlier g hearlier hg

theorem Uses.append {index : Nat} (h : Uses findings index) :
    Uses (findings ++ more) index := by
  rcases h with ⟨place, f, l, hfirst, hf, hl, hindex⟩
  rcases List.getElem?_eq_some_iff.mp hf with ⟨hplace, _⟩
  refine ⟨place, f, l, hfirst.append, ?_, hl, hindex⟩
  rw [List.getElem?_append_left hplace]
  exact hf

end Append

end Assembly

namespace Outcome

/-!
# Outcomes of longer bundles
-/

/-- Whether an outcome begins with another one: with its reports, among others its duplicates,
and with its files under the same digests. -/
structure Extends (o front : Outcome) : Prop where
  reports : front.reports <+: o.reports
  duplicates : front.duplicates ≤ o.duplicates
  registered : forall path, path ∈ front.files.pathList ->
    path ∈ o.files.pathList ∧ o.files.digestOf? path = front.files.digestOf? path

section Bundles

variable {b : Bundle} {ds es : List Diagnostic} {table : CheckerTable} {sources : Sources}
  {settings : Settings} {o front : Outcome}

theorem findingsOf_append :
    findingsOf table (b.holding (ds ++ es)) =
      findingsOf table (b.holding ds) ++ findingsOf table (b.holding es) :=
  List.map_append

theorem reports_prefix_of_ofBundle
    (ho : ofBundle (b.holding (ds ++ es)) table sources settings = .ok o)
    (hfront : ofBundle (b.holding ds) table sources settings = .ok front) :
    front.reports <+: o.reports ∧ front.duplicates ≤ o.duplicates := by
  rcases ofBundle_eq_ok_iff.mp hfront with
    ⟨_, rfl⟩ | ⟨hsome, identities, assembly, hidentities, hassembly, rfl⟩
  · exact ⟨List.nil_prefix, Nat.zero_le _⟩
  · rcases ofBundle_eq_ok_iff.mp ho with
      ⟨hnone, _⟩ | ⟨_, identities', assembly', hidentities', hassembly', rfl⟩
    · exact absurd (List.append_eq_nil_iff.mp hnone).1 hsome
    · rw [findingsOf_append] at hidentities' hassembly'
      rcases each_append_eq_ok_iff.mp hidentities' with ⟨same, others, rfl, hsame, _⟩
      cases Except.ok.inj (hidentities.symm.trans hsame)
      exact Assembly.reports_prefix_of_append hassembly' hassembly

theorem registered_of_ofBundle
    (ho : ofBundle (b.holding (ds ++ es)) table sources settings = .ok o)
    (hfront : ofBundle (b.holding ds) table sources settings = .ok front) {path : String}
    (hpath : path ∈ front.files.pathList) :
    path ∈ o.files.pathList ∧ o.files.digestOf? path = front.files.digestOf? path := by
  have hlists := lists_files_of_ofBundle ho
  have hfirst := lists_files_of_ofBundle hfront
  have hmem : path ∈ o.files.pathList := by
    rcases hfirst.mem_pathList_iff.mp hpath with ⟨index, hused, hlisted⟩
    rw [hlists.mem_pathList_iff, findingsOf_append]
    exact ⟨index, hused.append, hlisted⟩
  constructor
  · exact hmem
  · rw [hlists.digestOf?_eq hmem, hfirst.digestOf?_eq hpath]

theorem extends_of_ofBundle
    (ho : ofBundle (b.holding (ds ++ es)) table sources settings = .ok o)
    (hfront : ofBundle (b.holding ds) table sources settings = .ok front) :
    o.Extends front := by
  rcases reports_prefix_of_ofBundle ho hfront with ⟨hreports, hduplicates⟩
  constructor
  · exact hreports
  · exact hduplicates
  · intro path hpath
    exact registered_of_ofBundle ho hfront hpath

theorem generation_eq_of_ofBundle (h : ofBundle b table sources settings = .ok o) :
    o.generation = b.generation := by
  rcases ofBundle_eq_ok_iff.mp h with ⟨_, rfl⟩ | ⟨_, _, _, _, _, rfl⟩
  · rfl
  · rfl

end Bundles

/-!
# Values of documents
-/

/-- What is yielded by the value of a document. -/
def ofValue (v? : Option Value) (table : CheckerTable) (sources : Sources)
    (settings : Settings) : Except Error Outcome := do
  let b ← (Bundle.ofValue v?).mapError .bundle
  (ofBundle b table sources settings).mapError .report

theorem ingest_eq_ofValue {document : Bytes} {v? : Option Value}
    (hread : Plist.read document = .ok v?) (table : CheckerTable) (sources : Sources)
    (settings : Settings) :
    ingest document table sources settings = ofValue v? table sources settings := by
  unfold ingest Bundle.read ofValue
  rw [hread]
  dsimp only
  cases Bundle.ofValue v? <;> rfl

/-- What is yielded by a root dictionary with the given items as its diagnostics. -/
def ofDiagnostics (root : Entries Value) (items : List Value) (table : CheckerTable)
    (sources : Sources) (settings : Settings) : Except Error Outcome :=
  ofValue (some (.dict (Bundle.withDiagnostics root items))) table sources settings

section Values

variable {root : Entries Value} {items more : List Value} {table : CheckerTable}
  {sources : Sources} {settings : Settings} {o : Outcome}

theorem ofDiagnostics_eq_ok_iff :
    ofDiagnostics root items table sources settings = .ok o <->
      exists b, Bundle.decodeRoot (Bundle.withDiagnostics root items) = .ok b ∧
        ofBundle b table sources settings = .ok o := by
  unfold ofDiagnostics ofValue
  simp only [bind_eq_ok_iff, mapError_eq_ok_iff]
  exact Iff.rfl

theorem exists_ofDiagnostics {b : Bundle}
    (hroot : Bundle.decodeRoot (Bundle.withDiagnostics root items) = .ok b)
    (table : CheckerTable) (sources : Sources) (settings : Settings) :
    exists o, ofBundle b table sources settings = .ok o ∧
      ofDiagnostics root items table sources settings = .ok o := by
  rcases exists_ofBundle table sources settings (Bundle.resolves_refers_of_decodeRoot hroot)
    with ⟨o, ho⟩
  exact ⟨o, ho, ofDiagnostics_eq_ok_iff.mpr ⟨b, hroot, ho⟩⟩

theorem exists_extends_of_append
    (h : ofDiagnostics root (items ++ more) table sources settings = .ok o) :
    exists front, ofDiagnostics root items table sources settings = .ok front ∧
      o.Extends front := by
  rcases ofDiagnostics_eq_ok_iff.mp h with ⟨b, hroot, ho⟩
  rcases Bundle.decodeRoot_append_eq_ok_iff.mp hroot with ⟨ds, es, hb, hitems, _⟩
  rcases exists_ofDiagnostics hitems table sources settings with ⟨front, hfront, haccepted⟩
  rw [hb] at ho
  exact ⟨front, haccepted, extends_of_ofBundle ho hfront⟩

theorem exists_extends_of_ingest {document : Bytes}
    (hread : Plist.read document = .ok (some (.dict root)))
    (hitems : Entries.get? root "diagnostics" = some (.array (items ++ more)))
    (h : ingest document table sources settings = .ok o) :
    exists front, ofDiagnostics root items table sources settings = .ok front ∧
      o.Extends front := by
  have hself : Bundle.withDiagnostics root (items ++ more) = root := Entries.put_eq_self hitems
  rw [ingest_eq_ofValue hread, ← hself] at h
  exact exists_extends_of_append h

theorem exists_append_of_both {front back : Outcome}
    (hfront : ofDiagnostics root items table sources settings = .ok front)
    (hback : ofDiagnostics root more table sources settings = .ok back) :
    exists o, ofDiagnostics root (items ++ more) table sources settings = .ok o ∧
      o.generation = Option.merge Generation.older front.generation back.generation := by
  rcases ofDiagnostics_eq_ok_iff.mp hfront with ⟨b, hb, hfront⟩
  rcases ofDiagnostics_eq_ok_iff.mp hback with ⟨c, hc, hback⟩
  have hframe := Bundle.eq_holding_of_decodeRoot hb hc
  have hself := Bundle.eq_holding_of_decodeRoot hb hb
  have happend : Bundle.decodeRoot (Bundle.withDiagnostics root (items ++ more)) =
      .ok (b.holding (b.diagnostics ++ c.diagnostics)) := by
    apply Bundle.decodeRoot_append_eq_ok_iff.mpr
    refine ⟨b.diagnostics, c.diagnostics, rfl, ?_, ?_⟩
    · exact hb.trans (congrArg Except.ok hself)
    · exact hc.trans (congrArg Except.ok hframe)
  rcases exists_ofDiagnostics happend table sources settings with ⟨o, ho, haccepted⟩
  refine ⟨o, haccepted, ?_⟩
  rw [generation_eq_of_ofBundle ho, generation_eq_of_ofBundle hfront,
    generation_eq_of_ofBundle hback, hself, hframe]
  show Generation.oldest ((b.diagnostics ++ c.diagnostics).map Diagnostic.generation) = _
  rw [List.map_append, Generation.oldest_append]
  rfl

end Values

/-- Diagnostics that are added to a bundle leave what it yields without them in place, and the
diagnostics of two bundles that differ in nothing else are accepted together if they are
accepted apart. -/
theorem extends_and_accepts_append (root : Entries Value) (items more : List Value)
    (table : CheckerTable) (sources : Sources) (settings : Settings) :
    (forall o, ofDiagnostics root (items ++ more) table sources settings = .ok o ->
      exists front, ofDiagnostics root items table sources settings = .ok front ∧
        o.Extends front) ∧
    (forall front back, ofDiagnostics root items table sources settings = .ok front ->
      ofDiagnostics root more table sources settings = .ok back ->
      exists o, ofDiagnostics root (items ++ more) table sources settings = .ok o ∧
        o.generation = Option.merge Generation.older front.generation back.generation) := by
  constructor
  · intro o h
    exact exists_extends_of_append h
  · intro front back hfront hback
    exact exists_append_of_both hfront hback

def placeValue (file line : Int) : Value :=
  .dict [("line", .integer line), ("col", .integer 1), ("file", .integer file)]

def foundValue (file line : Int) (others : Entries Value) : Value :=
  .dict (("location", placeValue file line) :: others)

def twoFilesRoot : Entries Value :=
  [("clang_version", .string "clang"), ("diagnostics", .array []),
    ("files", .array [.string "a.c", .string "b.c"])]

def namedItems : List Value :=
  [foundValue 1 2 [("check_name", .string "core.DivideZero")],
    foundValue 1 3 [("check_name", .string "core.DivideZero")]]

/-- The first item repeats one of the others, the second one has no checker and another file. -/
def addedItems : List Value :=
  [foundValue 1 3 [], foundValue 0 3 []]

def summary (o : Outcome) : Nat × Nat × List String × Option Generation :=
  (o.reports.length, o.duplicates, o.files.pathList, o.generation)

theorem extends_and_accepts_append_twoFilesRoot :
    exists o front back,
      ofDiagnostics twoFilesRoot (namedItems ++ addedItems) .empty (.ofFiles []) {} = .ok o ∧
      ofDiagnostics twoFilesRoot namedItems .empty (.ofFiles []) {} = .ok front ∧
      ofDiagnostics twoFilesRoot addedItems .empty (.ofFiles []) {} = .ok back ∧
      o.summary = (3, 1, ["a.c", "b.c"], some .unnamed) ∧
      front.summary = (2, 0, ["b.c"], some .namedUnhashed) ∧
      o.Extends front ∧
      o.generation = Option.merge Generation.older front.generation back.generation := by
  have hwhole :
      (ofDiagnostics twoFilesRoot (namedItems ++ addedItems) .empty (.ofFiles [])
          {}).toOption.map summary =
        some (3, 1, ["a.c", "b.c"], some .unnamed) := by
    decide +kernel
  have hnamed :
      (ofDiagnostics twoFilesRoot namedItems .empty (.ofFiles []) {}).toOption.map summary =
        some (2, 0, ["b.c"], some .namedUnhashed) := by
    decide +kernel
  have hadded :
      (ofDiagnostics twoFilesRoot addedItems .empty (.ofFiles []) {}).toOption.map summary =
        some (2, 0, ["a.c", "b.c"], some .unnamed) := by
    decide +kernel
  rcases map_toOption_eq_some_iff.mp hwhole with ⟨o, ho, hsummary⟩
  rcases map_toOption_eq_some_iff.mp hadded with ⟨back, hback, _⟩
  rcases extends_and_accepts_append twoFilesRoot namedItems addedItems .empty (.ofFiles []) {}
    with ⟨hextends, haccepts⟩
  rcases hextends o ho with ⟨front, hfront, hfirst⟩
  rcases haccepts front back hfront hback with ⟨o', ho', hgeneration⟩
  rw [ho] at ho'
  cases ho'
  rw [hfront] at hnamed
  exact ⟨o, front, back, ho, hfront, hback, hsummary, Option.some.inj hnamed, hfirst,
    hgeneration⟩

end Outcome
end FindingLedger
