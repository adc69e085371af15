import FindingLedger.Outcome.Json
import FindingLedger.Proofs.Json.IndentedRoundTrip
import Mathlib.Logic.Function.Basic

/-!
# The text of an outcome is unique

The text in which an outcome is handed on is read back as JSON, and of the JSON every part gives
away what it was made from. Members may be left out, but each has its own name, so that it shows
which ones are there. So two outcomes with one text differ in nothing but the contents of their
files.
-/

namespace FindingLedger

open Function (Injective)

/-!
# Texts, numbers and members
-/

theorem JsonText.ofString_injective : Injective JsonText.ofString := by
  intro s s' h
  have hread := JsonText.toString?_ofString s
  rw [h, JsonText.toString?_ofString] at hread
  exact (Option.some.inj hread).symm

namespace Json

theorem ofString_injective : Injective Json.ofString := by
  intro s s' h
  exact JsonText.ofString_injective (Json.string.inj h)

theorem ofNat_injective : Injective Json.ofNat := by
  intro n n' h
  have hdigits : Nat.toDigits 10 n = Nat.toDigits 10 n' := Json.number.inj h
  rw [← Nat.ofDigitChars_ten_toDigits (n := n), hdigits, Nat.ofDigitChars_ten_toDigits]

theorem ofOption_injective : Injective Json.ofOption := by
  intro s s' h
  cases s with
  | none =>
      cases s' with
      | none =>
          rfl
      | some text' =>
          exact Json.noConfusion h
  | some text =>
      cases s' with
      | none =>
          exact Json.noConfusion h
      | some text' =>
          exact congrArg some (ofString_injective h)

theorem ofMembers_injective : Injective Json.ofMembers := by
  intro members members' h
  refine List.map_injective_iff.mpr ?_ (Json.object.inj h)
  intro m m' heq
  exact Prod.ext (JsonText.ofString_injective (Prod.mk.inj heq).1) (Prod.mk.inj heq).2

theorem array_map_injective {α : Type} {write : α -> Json} (h : Injective write) :
    Injective fun items : List α => Json.array (items.map write) := by
  intro items items' heq
  exact List.map_injective_iff.mpr h (Json.array.inj heq)

def HasMember (name : String) : Json -> Prop
  | .object members => exists value, (JsonText.ofString name, value) ∈ members
  | _ => False

theorem hasMember_ofMembers_iff {name : String} {members : List (String × Json)} :
    (ofMembers members).HasMember name <-> exists value, (name, value) ∈ members := by
  constructor
  · rintro ⟨value, hmem⟩
    rcases List.mem_map.mp hmem with ⟨⟨name', value'⟩, hmem', heq⟩
    rcases Prod.mk.inj heq with ⟨hname, rfl⟩
    rw [← JsonText.ofString_injective hname]
    exact ⟨_, hmem'⟩
  · rintro ⟨value, hmem⟩
    exact ⟨value, List.mem_map.mpr ⟨_, hmem, rfl⟩⟩

/-- A member that is there or not is told from the one after it by its name. -/
theorem memberIfAny_append_inj {name after : String} (hne : name ≠ after)
    {value value' : Option String} {next next' : Json} {rest rest' : List (String × Json)}
    (h : memberIfAny name value ++ (after, next) :: rest =
      memberIfAny name value' ++ (after, next') :: rest') :
    value = value' ∧ next = next' ∧ rest = rest' := by
  cases value with
  | none =>
      cases value' with
      | none =>
          simpa [memberIfAny] using h
      | some text' =>
          exact absurd (Prod.mk.inj (List.cons.inj h).1).1.symm hne
  | some text =>
      cases value' with
      | none =>
          exact absurd (Prod.mk.inj (List.cons.inj h).1).1 hne
      | some text' =>
          simpa [memberIfAny, ofString_injective.eq_iff] using h

theorem memberIfAny_injective (name : String) : Injective (memberIfAny name) := by
  intro value value' h
  cases value with
  | none =>
      cases value' with
      | none =>
          rfl
      | some text' =>
          cases h
  | some text =>
      cases value' with
      | none =>
          cases h
      | some text' =>
          simpa [memberIfAny, ofString_injective.eq_iff] using h

end Json

/-!
# Labels
-/

theorem Generation.label_injective : Injective Generation.label := by
  intro g g' h
  cases g <;> cases g' <;> first | rfl | exact absurd h (by decide)

theorem Provenance.label_injective : Injective Provenance.label := by
  intro p p' h
  cases p <;> cases p' <;> first | rfl | exact absurd h (by decide)

theorem StepKind.label_injective : Injective StepKind.label := by
  intro k k' h
  cases k <;> cases k' <;> first | rfl | exact absurd h (by decide)

/-!
# Reports
-/

theorem ReportLocation.toJson_injective : Injective ReportLocation.toJson := by
  intro l l' h
  have hmembers := Json.ofMembers_injective h
  simp only [List.cons.injEq, Prod.mk.injEq, true_and, and_true] at hmembers
  rcases hmembers with ⟨hfile, hline, hcolumn⟩
  cases l
  cases l'
  simp only [ReportLocation.mk.injEq]
  exact ⟨Json.ofString_injective hfile, Json.ofNat_injective hline, Json.ofNat_injective hcolumn⟩

theorem ReportStep.toJson_injective : Injective ReportStep.toJson := by
  intro s s' h
  have hmembers := Json.ofMembers_injective h
  simp only [List.cons_append, List.nil_append, List.cons.injEq, Prod.mk.injEq, true_and]
    at hmembers
  rcases hmembers with ⟨hkind, hlocation, hmessage⟩
  cases s
  cases s'
  simp only [ReportStep.mk.injEq]
  exact ⟨StepKind.label_injective (Json.ofString_injective hkind),
    ReportLocation.toJson_injective hlocation, Json.memberIfAny_injective _ hmessage⟩

namespace Report

theorem noteMembers_injective : Injective noteMembers := by
  intro notes notes' h
  cases notes with
  | nil =>
      cases notes' with
      | nil =>
          rfl
      | cons note' more' =>
          cases h
  | cons note more =>
      cases notes' with
      | nil =>
          cases h
      | cons note' more' =>
          have hvalue := (Prod.mk.inj (List.cons.inj h).1).2
          exact Json.array_map_injective ReportStep.toJson_injective hvalue

theorem toJson_injective : Injective toJson := by
  intro r r' h
  have hmembers := Json.ofMembers_injective h
  simp only [List.cons_append, List.nil_append, List.append_assoc, List.cons.injEq,
    Prod.mk.injEq, true_and] at hmembers
  rcases hmembers with ⟨hchecker, hprovenance, hcategory, htype, hdescription, hlocation, hname,
    hkind, hcontent, hcontext, hdegraded, hrest⟩
  -- The hash may be missing, but the path that follows has another name.
  rcases Json.memberIfAny_append_inj (by decide) hrest with ⟨hhash, hpath, hnotes⟩
  have hidentity : r.identity = r'.identity := by
    cases hi : r.identity
    cases hi' : r'.identity
    rw [hi, hi'] at hcontent hcontext hdegraded
    simp only [Identity.mk.injEq]
    exact ⟨Json.ofString_injective hcontent, Json.ofString_injective hcontext,
      Json.boolean.inj hdegraded⟩
  cases r
  cases r'
  simp only [Report.mk.injEq]
  exact ⟨Json.ofString_injective hchecker,
    Provenance.label_injective (Json.ofString_injective hprovenance),
    Json.ofString_injective hcategory, Json.ofString_injective htype,
    Json.ofString_injective hdescription, ReportLocation.toJson_injective hlocation,
    Json.ofOption_injective hname, Json.ofOption_injective hkind, hidentity, hhash,
    Json.array_map_injective ReportStep.toJson_injective hpath, noteMembers_injective hnotes⟩

end Report

/-!
# Members that are left out
-/

theorem ReportStep.hasMember_message_iff (s : ReportStep) :
    s.toJson.HasMember "message" <-> s.message ≠ none := by
  rw [ReportStep.toJson, Json.hasMember_ofMembers_iff]
  cases s.message with
  | none =>
      simp [Json.memberIfAny]
  | some text =>
      simp [Json.memberIfAny]

theorem Report.hasMember_analyzerHash_iff (r : Report) :
    r.toJson.HasMember "analyzer_hash" <-> r.analyzerHash ≠ none := by
  rw [Report.toJson, Json.hasMember_ofMembers_iff, Report.noteMembers]
  cases r.analyzerHash with
  | none =>
      simp [Json.memberIfAny]
  | some text =>
      simp [Json.memberIfAny]

theorem Report.hasMember_notes_iff (r : Report) :
    r.toJson.HasMember "notes" <-> r.notes ≠ [] := by
  rw [Report.toJson, Json.hasMember_ofMembers_iff]
  cases r.notes with
  | nil =>
      cases r.analyzerHash with
      | none =>
          simp [Json.memberIfAny, Report.noteMembers]
      | some text =>
          simp [Json.memberIfAny, Report.noteMembers]
  | cons note more =>
      simp [Report.noteMembers]

/-!
# Outcomes
-/

namespace Json

theorem plain_memberIfAny {name : String} {value : Option String} {m : String × Json}
    (hm : m ∈ memberIfAny name value) : Plain m.2 := by
  cases value with
  | none =>
      cases hm
  | some text =>
      rw [List.mem_singleton.mp hm]
      exact plain_ofString text

end Json

open Json (plain_ofString plain_ofOption plain_ofMembers plain_memberIfAny plain_map)

theorem ReportLocation.plain_toJson (l : ReportLocation) : l.toJson.Plain := by
  apply plain_ofMembers
  simp only [List.forall_mem_cons, List.not_mem_nil, false_imp_iff, implies_true, and_true]
  exact ⟨plain_ofString _, .number _, .number _⟩

theorem ReportStep.plain_toJson (s : ReportStep) : s.toJson.Plain := by
  apply plain_ofMembers
  simp only [List.forall_mem_append, List.forall_mem_cons, List.not_mem_nil, false_imp_iff,
    implies_true, and_true]
  exact ⟨⟨plain_ofString _, s.location.plain_toJson⟩, fun m hm => plain_memberIfAny hm⟩

theorem Report.plain_noteMembers {notes : List ReportStep} {m : String × Json}
    (hm : m ∈ noteMembers notes) : m.2.Plain := by
  cases notes with
  | nil =>
      cases hm
  | cons note more =>
      rw [List.mem_singleton.mp hm]
      exact plain_map ReportStep.plain_toJson _

theorem Report.plain_toJson (r : Report) : r.toJson.Plain := by
  apply plain_ofMembers
  simp only [List.forall_mem_append, List.forall_mem_cons, List.not_mem_nil, false_imp_iff,
    implies_true, and_true]
  exact ⟨⟨⟨⟨plain_ofString _, plain_ofString _, plain_ofString _, plain_ofString _,
    plain_ofString _, r.location.plain_toJson, plain_ofOption _, plain_ofOption _,
    plain_ofString _, plain_ofString _, .boolean _⟩, fun m hm => plain_memberIfAny hm⟩,
    plain_map ReportStep.plain_toJson _⟩, fun m hm => plain_noteMembers hm⟩

theorem Registry.plain_toJson (r : Registry) : r.toJson.Plain := by
  apply plain_ofMembers
  intro m hm
  rcases List.mem_map.mp hm with ⟨entry, _, rfl⟩
  exact plain_ofOption entry.2

theorem Registry.toJson_eq_toJson_iff (r r' : Registry) :
    r.toJson = r'.toJson <-> r.paths = r'.paths := by
  constructor
  · intro h
    refine List.map_injective_iff.mpr ?_ (Json.ofMembers_injective h)
    intro entry entry' heq
    exact Prod.ext (Prod.mk.inj heq).1 (Json.ofOption_injective (Prod.mk.inj heq).2)
  · intro h
    rw [toJson, toJson, h]

namespace Outcome

theorem plain_toJson (o : Outcome) : o.toJson.Plain := by
  apply plain_ofMembers
  simp only [List.forall_mem_cons, List.not_mem_nil, false_imp_iff, implies_true, and_true]
  exact ⟨plain_ofOption _, plain_ofOption _, plain_map Report.plain_toJson _,
    o.files.plain_toJson, .number _⟩

theorem read?_text (o : Outcome) : Json.read? o.text = some o.toJson :=
  o.plain_toJson.read?_pretty

/-- Whether two outcomes agree in everything but the contents of their files. -/
structure SameBesideContents (o o' : Outcome) : Prop where
  generation : o.generation = o'.generation
  clangVersion : o.clangVersion = o'.clangVersion
  reports : o.reports = o'.reports
  paths : o.files.paths = o'.files.paths
  duplicates : o.duplicates = o'.duplicates

/-- Whether the members that the reports of an outcome may lack are lacking exactly where there is
nothing to tell. -/
structure OmitsNothingElse (o : Outcome) : Prop where
  analyzerHash : forall r, r ∈ o.reports ->
    (r.toJson.HasMember "analyzer_hash" <-> r.analyzerHash ≠ none)
  notes : forall r, r ∈ o.reports -> (r.toJson.HasMember "notes" <-> r.notes ≠ [])
  message : forall r, r ∈ o.reports -> forall s, s ∈ r.path ++ r.notes ->
    (s.toJson.HasMember "message" <-> s.message ≠ none)

theorem sameBesideContents_of_toJson_eq {o o' : Outcome} (h : o.toJson = o'.toJson) :
    o.SameBesideContents o' := by
  have hmembers := Json.ofMembers_injective h
  simp only [List.cons.injEq, Prod.mk.injEq, true_and, and_true] at hmembers
  rcases hmembers with ⟨hgeneration, hversion, hreports, hfiles, hduplicates⟩
  have hlabels := Json.ofOption_injective hgeneration
  exact {
    generation := Option.map_injective Generation.label_injective hlabels
    clangVersion := Json.ofOption_injective hversion
    reports := Json.array_map_injective Report.toJson_injective hreports
    paths := (Registry.toJson_eq_toJson_iff _ _).mp hfiles
    duplicates := Json.ofNat_injective hduplicates }

theorem SameBesideContents.toJson_eq {o o' : Outcome} (h : o.SameBesideContents o') :
    o.toJson = o'.toJson := by
  have hfiles := (Registry.toJson_eq_toJson_iff _ _).mpr h.paths
  rw [toJson, toJson, h.generation, h.clangVersion, h.reports, hfiles, h.duplicates]

/-- Outcomes have one text exactly if nothing but the contents of their files tells them apart. -/
theorem text_eq_text_iff (o o' : Outcome) :
    (o.text = o'.text <-> o.SameBesideContents o') ∧ o.OmitsNothingElse := by
  constructor
  · constructor
    · intro h
      have hread := o.read?_text
      rw [h, o'.read?_text] at hread
      exact sameBesideContents_of_toJson_eq (Option.some.inj hread).symm
    · intro h
      rw [text, text, h.toJson_eq]
  · exact {
      analyzerHash := fun r _ => r.hasMember_analyzerHash_iff
      notes := fun r _ => r.hasMember_notes_iff
      message := fun _ _ s _ => s.hasMember_message_iff }

end Outcome
end FindingLedger
