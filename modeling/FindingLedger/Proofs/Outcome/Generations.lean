import FindingLedger.Proofs.Bundle.RoundTrip
import FindingLedger.Proofs.CheckerTable.Checkers
import FindingLedger.Proofs.Outcome.AddedDiagnostics
import FindingLedger.Proofs.Text.Trimmed

/-!
# Generations of reports

The generation of a bundle is told when the bundle is read, by the names and hashes that are
not blank. Where the checker of a report comes from is settled afterwards, by the name alone,
and whether the analyzer's hash is handed on by both. All of this is read off the entries of
one diagnostic, so that it fits together, also in bundles of several generations.
-/

namespace FindingLedger

open Plist (Value)

namespace Generation

theorem rank_older_le (a b : Generation) :
    (older a b).rank ≤ a.rank ∧ (older a b).rank ≤ b.rank := by
  cases a <;> cases b <;> decide

theorem oldest_ne_none {gs : List Generation} (h : gs ≠ []) : oldest gs ≠ none := by
  cases gs with
  | nil =>
      exact absurd rfl h
  | cons first rest =>
      unfold oldest
      split <;> exact nofun

theorem rank_le_of_oldest {gs : List Generation} {g : Generation} (h : oldest gs = some g)
    {g' : Generation} (hmem : g' ∈ gs) : g.rank ≤ g'.rank := by
  induction gs generalizing g with
  | nil =>
      cases hmem
  | cons first rest ih =>
      unfold oldest at h
      cases hrest : oldest rest with
      | none =>
          rw [hrest] at h
          cases h
          cases hmem with
          | head =>
              exact Nat.le_refl _
          | tail _ hmem =>
              exact absurd hrest (oldest_ne_none (List.ne_nil_of_mem hmem))
      | some g₀ =>
          rw [hrest] at h
          cases h
          rcases rank_older_le first g₀ with ⟨hfirst, hbefore⟩
          cases hmem with
          | head =>
              exact hfirst
          | tail _ hmem =>
              exact Nat.le_trans hbefore (ih hrest hmem)

theorem ne_unnamed_of_oldest {gs : List Generation} {g g' : Generation}
    (h : oldest gs = some g) (hmem : g' ∈ gs) (hne : g ≠ .unnamed) : g' ≠ .unnamed := by
  intro heq
  have hle := rank_le_of_oldest h hmem
  rw [heq] at hle
  cases g with
  | unnamed =>
      exact hne rfl
  | namedUnhashed | namedHashed =>
      exact absurd hle (by decide)

theorem eq_namedHashed_of_oldest {gs : List Generation} {g : Generation}
    (h : oldest gs = some .namedHashed) (hmem : g ∈ gs) : g = .namedHashed := by
  have hle := rank_le_of_oldest h hmem
  cases g with
  | namedHashed =>
      rfl
  | unnamed | namedUnhashed =>
      exact absurd hle (by decide)

end Generation

/-!
# What a diagnostic carries
-/

/-- Whether the entries of a diagnostic name its checker, and not by blanks alone. -/
def NamesChecker (entries : Entries Value) : Prop :=
  exists name, Entries.get? entries "check_name" = some (.string name) ∧
    Text.allBlank name = false

/-- Whether the entries of a diagnostic hold a hash that is not blank. -/
def HoldsHash (entries : Entries Value) (hash : String) : Prop :=
  Entries.get? entries "issue_hash_content_of_line_in_context" = some (.string hash) ∧
    Text.allBlank hash = false

namespace Diagnostic

variable {d : Diagnostic}

theorem generation_ne_unnamed_iff :
    d.generation ≠ .unnamed <-> exists name, d.checkerName = some name := by
  unfold generation
  cases d.checkerName with
  | none =>
      simp
  | some name =>
      cases d.hasEmbeddedHash <;> simp

theorem hasEmbeddedHash_iff :
    d.hasEmbeddedHash = true <->
      exists hash, d.embeddedHash = some hash ∧ Text.allBlank hash = false := by
  unfold hasEmbeddedHash
  cases d.embeddedHash <;> simp

theorem generation_eq_namedHashed_iff :
    d.generation = .namedHashed <->
      (exists name, d.checkerName = some name) ∧ d.hasEmbeddedHash = true := by
  unfold generation
  cases d.checkerName with
  | none =>
      simp
  | some name =>
      cases d.hasEmbeddedHash <;> simp

end Diagnostic

namespace Bundle

/-- Whether a document lists values as the diagnostics of its bundle. -/
def ListsDiagnostics (document : Bytes) (items : List Value) : Prop :=
  exists root, Plist.read document = .ok (some (.dict root)) ∧
    Entries.get? root "diagnostics" = some (.array items)

theorem fields_of_decodeDiagnostic {entries : Entries Value} {d : Diagnostic}
    (h : decodeDiagnostic entries = .ok d) :
    (exists name? : Option String, Entries.get? entries "check_name" = name?.map .string ∧
      d.checkerName = name?.filter fun name => !Text.allBlank name) ∧
    Entries.get? entries "issue_hash_content_of_line_in_context" =
      d.embeddedHash.map .string := by
  simp only [decodeDiagnostic, bind_eq_ok_iff, optionalString_eq_ok_iff] at h
  rcases h with ⟨_, _, _, _, _, _, _, _, _, _, _, _, _, _, _, _, _, _, name?, hname, _, _, _, _,
    hash?, hhash, hd⟩
  cases hd
  exact ⟨⟨name?, hname, rfl⟩, hhash⟩

section Fields

variable {entries : Entries Value} {d : Diagnostic}

theorem named_of_decodeDiagnostic (h : decodeDiagnostic entries = .ok d) : d.Named := by
  intro name hname
  rcases (fields_of_decodeDiagnostic h).1 with ⟨name?, _, hd⟩
  rw [hd] at hname
  simpa using (Option.filter_eq_some_iff.mp hname).2

theorem namesChecker_iff (h : decodeDiagnostic entries = .ok d) :
    NamesChecker entries <-> exists name, d.checkerName = some name := by
  rcases (fields_of_decodeDiagnostic h).1 with ⟨name?, hname, hd⟩
  unfold NamesChecker
  rw [hname, hd]
  cases name? with
  | none =>
      simp
  | some name =>
      cases hblank : Text.allBlank name <;> simp [hblank]

theorem holdsHash_iff (h : decodeDiagnostic entries = .ok d) {hash : String} :
    HoldsHash entries hash <->
      d.embeddedHash = some hash ∧ d.hasEmbeddedHash = true := by
  unfold HoldsHash Diagnostic.hasEmbeddedHash
  rw [(fields_of_decodeDiagnostic h).2]
  cases d.embeddedHash with
  | none =>
      simp
  | some text =>
      simp only [Option.map_some, Option.some.injEq, Plist.Value.string.injEq,
        Bool.not_eq_eq_eq_not, Bool.not_true]
      exact and_congr_right fun heq => by rw [heq]

end Fields

theorem exists_listsDiagnostics_of_read {document : Bytes} {b : Bundle}
    (hread : read document = .ok b) (hne : b.diagnostics ≠ []) :
    exists items, ListsDiagnostics document items ∧
      List.Forall₂ (Decodes b.files.length) items b.diagnostics := by
  rcases read_eq_ok_iff.mp hread with ⟨_, rfl⟩ | ⟨root, hroot, hdecode⟩
  · exact absurd rfl hne
  · rcases decodeRoot_eq_ok_iff.mp hdecode with ⟨_, items, _, _, hitems, hdiagnostics, _, _⟩
    have hdecodes := decodeEach_decodeListed_eq_ok_iff.mp hdiagnostics
    refine ⟨items, ⟨root, hroot, ?_⟩, hdecodes⟩
    rw [optionalArray_eq_ok_iff] at hitems
    cases hget : Entries.get? root "diagnostics" with
    | some v =>
        rw [hget] at hitems
        exact congrArg some hitems
    | none =>
        rw [hget] at hitems
        cases hitems
        exact absurd (List.forall₂_nil_left_iff.mp hdecodes) hne

theorem generation_eq_of_read {document : Bytes} {b : Bundle}
    (hread : read document = .ok b) :
    b.generation = Generation.oldest (b.diagnostics.map Diagnostic.generation) := by
  rcases read_eq_ok_iff.mp hread with ⟨_, rfl⟩ | ⟨_, _, hdecode⟩
  · rfl
  · rcases decodeRoot_eq_ok_iff.mp hdecode with ⟨_, _, _, _, _, _, _, hgeneration⟩
    exact hgeneration

end Bundle

/-!
# Findings and reports
-/

theorem trimmed_unresolvedChecker : Text.Trimmed unresolvedChecker :=
  Text.trimmed_of_trim_eq (by decide) (by decide)

section Settled

variable {table : CheckerTable} {d : Diagnostic}

theorem Finding.provenance_eq_declared_iff :
    (ofDiagnostic table d).provenance = .declared <-> exists name, d.checkerName = some name := by
  cases hname : d.checkerName with
  | some name =>
      rw [ofDiagnostic_of_declared hname]
      simp
  | none =>
      cases hlookup : table.lookup? d.description with
      | some checker =>
          rw [ofDiagnostic_of_inferred hname hlookup]
          simp
      | none =>
          rw [ofDiagnostic_of_unknown hname hlookup]
          simp

theorem Report.analyzerHashOf_eq_some_iff {hash : String} :
    analyzerHashOf (Finding.ofDiagnostic table d) = some hash <->
      (exists name, d.checkerName = some name) ∧
        d.embeddedHash = some hash ∧ d.hasEmbeddedHash = true := by
  unfold analyzerHashOf
  rw [Finding.ofDiagnostic_diagnostic, ← @Finding.provenance_eq_declared_iff table]
  split
  · rename_i hboth
    rw [Bool.and_eq_true, beq_iff_eq] at hboth
    simp [hboth]
  · rename_i hnot
    rw [Bool.and_eq_true, beq_iff_eq] at hnot
    simp only [reduceCtorEq, false_iff]
    rintro ⟨hdeclared, _, hhash⟩
    exact hnot ⟨hdeclared, hhash⟩

theorem Finding.trimmed_checker (hnamed : d.Named)
    (htable : forall checker, checker ∈ table.checkers -> Text.Trimmed checker) :
    Text.Trimmed (ofDiagnostic table d).checker := by
  cases hname : d.checkerName with
  | some name =>
      rw [ofDiagnostic_of_declared hname]
      exact Text.trimmed_trim (Text.trim_ne_empty (hnamed name hname))
  | none =>
      cases hlookup : table.lookup? d.description with
      | some checker =>
          rw [ofDiagnostic_of_inferred hname hlookup]
          exact htable checker (CheckerTable.mem_checkers_of_lookup? hlookup)
      | none =>
          rw [ofDiagnostic_of_unknown hname hlookup]
          exact trimmed_unresolvedChecker

end Settled

inductive CheckerTable.Given : CheckerTable -> Prop where
  | builtin : Given .builtin
  | read {document : String} {t : CheckerTable} (hread : read document = .ok t) : Given t

theorem CheckerTable.Given.trimmed {t : CheckerTable} (h : t.Given) {checker : String}
    (hmem : checker ∈ t.checkers) : Text.Trimmed checker := by
  cases h with
  | builtin =>
      have hall : forall name, name ∈ (builtinDescriptions ++ builtinPatterns).map Prod.snd ->
          Text.trim name = name ∧ name ≠ "" := by
        decide
      rcases hall checker (mem_builtin_checkers hmem) with ⟨htrim, hne⟩
      exact Text.trimmed_of_trim_eq htrim hne
  | read hread =>
      rcases read_eq_ok_iff.mp hread with ⟨_, _, hrows⟩
      rcases exists_entry_of_ofEntries hrows hmem with ⟨e, _, rfl, hfilled⟩
      exact Text.trimmed_trim hfilled

def Report.IsOf (files : List String) (table : CheckerTable) (entries : Entries Value)
    (r : Report) : Prop :=
  exists d identity, Bundle.decodeDiagnostic entries = .ok d ∧
    r.Records files (Finding.ofDiagnostic table d) identity

namespace Outcome

/-!
# Outcomes
-/

/-- Whether the generation of an outcome, the origins of its checkers and the hashes in its
reports go together, given what the bundle lists as its diagnostics. -/
structure Coheres (o : Outcome) (files : List String) (items : List Value)
    (table : CheckerTable) : Prop where
  generation : o.generation ≠ none
  declared : o.generation ≠ some .unnamed ->
    (forall r, r ∈ o.reports -> r.provenance = .declared) ∧ o.unresolvedCount = 0
  hashed : o.generation = some .namedHashed -> forall r, r ∈ o.reports -> r.analyzerHash ≠ none
  /-- Each report hands on the hash of its own diagnostic, if there is a name beside it. -/
  analyzerHash : exists places : List Nat, places.Pairwise (· < ·) ∧
    List.Forall₂
      (fun place r => exists entries, items[place]? = some (.dict entries) ∧
        r.IsOf files table entries ∧
        forall hash, r.analyzerHash = some hash <->
          NamesChecker entries ∧ HoldsHash entries hash)
      places o.reports
  trimmed : table.Given -> forall r, r ∈ o.reports -> Text.Trimmed r.checker

section Reports

variable {b : Bundle} {table : CheckerTable} {sources : Sources} {settings : Settings}
  {o : Outcome}

theorem exists_places_of_ofBundle (h : ofBundle b table sources settings = .ok o) :
    exists places : List Nat, places.Pairwise (· < ·) ∧
      List.Forall₂
        (fun place r => exists d identity, b.diagnostics[place]? = some d ∧
          r.Records b.files (Finding.ofDiagnostic table d) identity)
        places o.reports := by
  rcases ofBundle_eq_ok_iff.mp h with
    ⟨_, rfl⟩ | ⟨_, identities, assembly, _, hassembly, rfl⟩
  · exact ⟨[], List.Pairwise.nil, List.Forall₂.nil⟩
  · rcases Assembly.of_eq_ok_iff.mp hassembly with ⟨_, hreports, _, _⟩
    rcases Assembly.exists_places_eq_new [] ((findingsOf table b).zip identities) with
      ⟨places, hsorted, _, hkept⟩
    refine ⟨places, hsorted, forall₂_trans ?_ hkept (each_eq_ok_iff.mp hreports)⟩
    intro place f r hf hr
    rcases List.getElem?_zip_eq_some.mp hf with ⟨hfinding, _⟩
    unfold findingsOf at hfinding
    rw [List.getElem?_map] at hfinding
    rcases Option.map_eq_some_iff.mp hfinding with ⟨d, hd, hfd⟩
    exact ⟨d, f.2, hd, hfd ▸ Report.records_of_ofFinding hr⟩

theorem exists_diagnostic_of_report (h : ofBundle b table sources settings = .ok o)
    {r : Report} (hr : r ∈ o.reports) :
    exists d identity, d ∈ b.diagnostics ∧
      r.Records b.files (Finding.ofDiagnostic table d) identity := by
  rcases exists_places_of_ofBundle h with ⟨places, _, hreports⟩
  rcases exists_of_forall₂_right hreports hr with ⟨place, _, d, identity, hd, hrecords⟩
  exact ⟨d, identity, List.mem_of_getElem? hd, hrecords⟩

variable (h : ofBundle b table sources settings = .ok o)
  (hgeneration : b.generation = Generation.oldest (b.diagnostics.map Diagnostic.generation))
include h hgeneration

theorem declared_of_ofBundle (hne : b.diagnostics ≠ [])
    (hnamed : o.generation ≠ some .unnamed) {r : Report} (hr : r ∈ o.reports) :
    r.provenance = .declared := by
  rcases exists_diagnostic_of_report h hr with ⟨d, _, hd, hrecords⟩
  rw [generation_eq_of_ofBundle h, hgeneration] at hnamed
  cases holdest : Generation.oldest (b.diagnostics.map Diagnostic.generation) with
  | none =>
      exact absurd holdest (Generation.oldest_ne_none (mt List.map_eq_nil_iff.mp hne))
  | some g =>
      rw [holdest] at hnamed
      rw [hrecords.provenance, Finding.provenance_eq_declared_iff,
        ← Diagnostic.generation_ne_unnamed_iff]
      exact Generation.ne_unnamed_of_oldest holdest (List.mem_map_of_mem hd)
        fun heq => hnamed (congrArg some heq)

theorem analyzerHash_of_ofBundle (hhashed : o.generation = some .namedHashed) {r : Report}
    (hr : r ∈ o.reports) : r.analyzerHash ≠ none := by
  rcases exists_diagnostic_of_report h hr with ⟨d, _, hd, hrecords⟩
  rw [generation_eq_of_ofBundle h, hgeneration] at hhashed
  rcases Diagnostic.generation_eq_namedHashed_iff.mp
    (Generation.eq_namedHashed_of_oldest hhashed (List.mem_map_of_mem hd)) with ⟨hname, hhash⟩
  rcases Diagnostic.hasEmbeddedHash_iff.mp hhash with ⟨hash, hheld, _⟩
  rw [hrecords.analyzerHash, Report.analyzerHashOf_eq_some_iff.mpr ⟨hname, hheld, hhash⟩]
  exact nofun

end Reports

/-- Whatever a document with diagnostics yields, the generation of the outcome and what its
reports say of checkers and hashes go together. -/
theorem coheres_of_ingest {document : Bytes} {b : Bundle} {table : CheckerTable}
    {sources : Sources} {settings : Settings} {o : Outcome}
    (hread : Bundle.read document = .ok b) (hne : b.diagnostics ≠ [])
    (h : ingest document table sources settings = .ok o) :
    exists items, Bundle.ListsDiagnostics document items ∧ o.Coheres b.files items table := by
  rcases exists_read_of_ingest h with ⟨b', hread', hbundle⟩
  rw [hread] at hread'
  cases hread'
  rcases Bundle.exists_listsDiagnostics_of_read hread hne with ⟨items, hlists, hdecodes⟩
  have hgeneration := Bundle.generation_eq_of_read hread
  refine ⟨items, hlists, ?_, ?_, ?_, ?_, ?_⟩
  · rw [generation_eq_of_ofBundle hbundle, hgeneration]
    exact Generation.oldest_ne_none (mt List.map_eq_nil_iff.mp hne)
  · intro hnamed
    have hdeclared : forall r, r ∈ o.reports -> r.provenance = .declared :=
      fun r hr => declared_of_ofBundle hbundle hgeneration hne hnamed hr
    refine ⟨hdeclared, ?_⟩
    apply List.countP_eq_zero.mpr
    intro r hr
    rw [hdeclared r hr]
    decide
  · intro hhashed r hr
    exact analyzerHash_of_ofBundle hbundle hgeneration hhashed hr
  · rcases exists_places_of_ofBundle hbundle with ⟨places, hsorted, hreports⟩
    refine ⟨places, hsorted, hreports.imp ?_⟩
    rintro place r ⟨d, identity, hd, hrecords⟩
    rcases exists_getElem?_of_forall₂ hdecodes hd with ⟨_, hv, entries, rfl, hdecoded, _⟩
    refine ⟨entries, hv, ⟨d, identity, hdecoded, hrecords⟩, ?_⟩
    intro hash
    rw [hrecords.analyzerHash, Report.analyzerHashOf_eq_some_iff,
      Bundle.namesChecker_iff hdecoded, Bundle.holdsHash_iff hdecoded]
  · intro hgiven r hr
    rcases exists_diagnostic_of_report hbundle hr with ⟨d, _, hd, hrecords⟩
    rw [hrecords.checker]
    apply Finding.trimmed_checker ?_ fun checker hmem => hgiven.trimmed hmem
    rcases exists_of_forall₂_right hdecodes hd with ⟨_, _, entries, _, hdecoded, _⟩
    exact Bundle.named_of_decodeDiagnostic hdecoded

/-- A bundle with a checker between blanks and a hash, a hash beside a blank name, and a name
beside a blank hash. -/
def mixedDocument : Bytes :=
  ("<plist><dict><key>files</key><array><string>a.c</string><string>b.c</string>" ++
    "<string>c.c</string></array><key>diagnostics</key><array><dict>" ++
    "<key>check_name</key><string> core.DivideZero </string>" ++
    "<key>issue_hash_content_of_line_in_context</key><string> 5f</string>" ++
    "<key>location</key>" ++ Bundle.placeMarkup "0" ++ "</dict><dict>" ++
    "<key>description</key><string>Division by zero</string>" ++
    "<key>check_name</key><string> </string>" ++
    "<key>issue_hash_content_of_line_in_context</key><string>5f</string>" ++
    "<key>location</key>" ++ Bundle.placeMarkup "1" ++ "</dict><dict>" ++
    "<key>check_name</key><string>core.DivideZero</string>" ++
    "<key>issue_hash_content_of_line_in_context</key><string> </string>" ++
    "<key>location</key>" ++ Bundle.placeMarkup "2" ++
    "</dict></array></dict></plist>").toUTF8.data.toList

theorem coheres_mixedDocument :
    exists b o items, Bundle.read mixedDocument = .ok b ∧ b.diagnostics ≠ [] ∧
      ingest mixedDocument .builtin .unavailable {} = .ok o ∧
      o.generation = some .unnamed ∧
      o.reports.map (fun r => (r.provenance, r.analyzerHash)) =
        [(.declared, some " 5f"), (.inferred, none), (.declared, none)] ∧
      Bundle.ListsDiagnostics mixedDocument items ∧ o.Coheres b.files items .builtin := by
  have hbundle : (Bundle.read mixedDocument).toOption.map (fun b => b.diagnostics.isEmpty) =
      some false := by
    decide +kernel
  have hreports : (ingest mixedDocument .builtin .unavailable {}).toOption.map
      (fun o => (o.generation, o.reports.map fun r => (r.provenance, r.analyzerHash))) =
        some (some .unnamed,
          [(.declared, some " 5f"), (.inferred, none), (.declared, none)]) := by
    decide +kernel
  rcases map_toOption_eq_some_iff.mp hbundle with ⟨b, hread, hfilled⟩
  rcases map_toOption_eq_some_iff.mp hreports with ⟨o, hingest, hreported⟩
  rcases Prod.mk.inj hreported with ⟨hgeneration, hhashes⟩
  have hne : b.diagnostics ≠ [] := List.isEmpty_eq_false_iff.mp hfilled
  rcases coheres_of_ingest hread hne hingest with ⟨items, hlists, hcoheres⟩
  exact ⟨b, o, items, hread, hne, hingest, hgeneration, hhashes, hlists, hcoheres⟩

end Outcome
end FindingLedger
