import FindingLedger.Proofs.Bundle.References
import FindingLedger.Proofs.Bundle.Writing

/-!
# Bundles are read back

Decoding undoes writing: a bundle whose numbers have room in their fields, whose places lie
in listed files and whose paths pass no place twice in a row is what is decoded from each
property list that it can be written as. The decoders are taken one by one, from the numbers
of a place upwards. Each is shown to find in the entries of a record what was written of it.
-/

namespace FindingLedger

open Plist (Value)
open Entries (Arranges)

/-!
# Numbers that have room
-/

/-- Whether the numbers of a place have room in 32 bits without a sign. -/
structure Location.Fits (l : Location) : Prop where
  fileIndex : l.fileIndex ≤ 4294967295
  line : l.line ≤ 4294967295
  column : l.column ≤ 4294967295

structure PathEvent.Fits (e : PathEvent) : Prop where
  location : e.location.Fits
  depth : e.depth ≤ 4294967295
  ranges : forall r, r ∈ e.ranges -> r.first.Fits ∧ r.last.Fits

def PathElement.Fits : PathElement -> Prop
  | .event e => e.Fits
  | .point l => l.Fits

/-- Whether a path goes from no place to the same place. -/
def Advances (path : List PathElement) : Prop :=
  path.IsChain fun e next => forall l, ¬ (e = .point l ∧ next = .point l)

namespace Diagnostic

structure Fits (d : Diagnostic) : Prop where
  location : d.location.Fits
  path : forall e, e ∈ d.path -> e.Fits
  notes : forall n, n ∈ d.notes -> n.Fits
  functionOffset : forall n, d.functionOffset = some n -> Text.fitsInt64 n = true

def Named (d : Diagnostic) : Prop :=
  forall name, d.checkerName = some name -> Text.allBlank name = false

end Diagnostic

namespace Bundle

/-- Whether nothing of a bundle is lost when it is written: its numbers have room, its places
lie in listed files, and no step and no name is taken for nothing. -/
structure Writable (b : Bundle) : Prop where
  fits : forall d, d ∈ b.diagnostics -> d.Fits
  named : forall d, d ∈ b.diagnostics -> d.Named
  advances : forall d, d ∈ b.diagnostics -> Advances d.path
  resolves : b.Resolves Diagnostic.Mentions
  generation : b.generation = Generation.oldest (b.diagnostics.map Diagnostic.generation)

/-!
# What entries give
-/

section Fields

variable {entries : List (String × Value)} {key : String}

theorem optionalString_eq_ok {text? : Option String}
    (h : Entries.get? entries key = text?.map .string) :
    optionalString entries key = .ok text? := by
  unfold optionalString
  rw [h]
  cases text? with
  | none =>
      rfl
  | some text =>
      rfl

theorem optionalString_eq_ok_iff {text? : Option String} :
    optionalString entries key = .ok text? <->
      Entries.get? entries key = text?.map Value.string := by
  constructor
  · intro h
    unfold optionalString at h
    split at h
    · rename_i hget
      cases h
      exact hget
    · rename_i v hget
      rcases map_eq_ok_iff.mp h with ⟨text, htext, rfl⟩
      cases v <;> cases htext
      exact hget
  · exact optionalString_eq_ok

theorem optionalArray_eq_ok_iff {items : List Value} :
    optionalArray entries key = .ok items <->
      (Entries.get? entries key).getD (.array []) = .array items := by
  unfold optionalArray
  cases Entries.get? entries key with
  | none =>
      simp
  | some v =>
      cases v <;> simp [asArray]

theorem WritesText.exists_optionalString {value? : Option Value} {text : String}
    (htext : WritesText value? text) (key : String) (h : Entries.get? entries key = value?) :
    exists text?, optionalString entries key = .ok text? ∧ text?.getD "" = text := by
  cases htext with
  | written =>
      exact ⟨some text, optionalString_eq_ok h, rfl⟩
  | omitted =>
      exact ⟨none, optionalString_eq_ok h, rfl⟩

theorem asWord?_natCast {n : Nat} (hn : n ≤ 4294967295) : asWord? (n : Int) = some n := by
  unfold asWord?
  rw [if_pos]
  · rfl
  · simp
    omega

theorem WritesDepth.eq_or_eq {value? : Option Value} {n : Nat} (h : WritesDepth value? n) :
    value? = some (.integer n) ∨ value? = none ∧ n = 0 := by
  cases h with
  | written =>
      exact Or.inl rfl
  | omitted =>
      exact Or.inr ⟨rfl, rfl⟩

theorem decodeNumber_eq_ok {field : String} {n : Nat} (hn : n ≤ 4294967295)
    (h : Entries.get? entries key = some (.integer n)) :
    decodeNumber field entries key = .ok n := by
  unfold decodeNumber
  rw [h]
  simp only [asInteger, bind_eq_ok_iff]
  refine ⟨n, rfl, ?_⟩
  rw [asWord?_natCast hn]

theorem decodeEach_eq_map {α β ε : Type} {writes : Value -> α -> Prop} {items : List Value}
    {as : List α} {decode : Nat -> Value -> Except ε β} {f : α -> β}
    (hitems : List.Forall₂ writes items as) (index : Nat)
    (hdecode : forall index v a, writes v a -> a ∈ as -> decode index v = .ok (f a)) :
    decodeEach decode index items = .ok (as.map f) := by
  induction hitems generalizing index with
  | nil =>
      rfl
  | cons hfirst _ ih =>
      have hrest := ih (index + 1) fun i v a hv ha =>
        hdecode i v a hv (List.mem_cons_of_mem _ ha)
      unfold decodeEach
      rw [hdecode index _ _ hfirst List.mem_cons_self]
      dsimp only
      rw [hrest]
      rfl

/-- A list is decoded when what each of its members is written as is decoded, whether or not
it is left out. -/
theorem WritesList.exists_decodeEach {α β ε : Type} {writes : Value -> α -> Prop}
    {value? : Option Value} {as : List α} (hlist : WritesList writes value? as) (key : String)
    (h : Entries.get? entries key = value?) (decode : Nat -> Value -> Except ε β) (f : α -> β)
    (hdecode : forall index v a, writes v a -> a ∈ as -> decode index v = .ok (f a)) :
    exists items, optionalArray entries key = .ok items ∧
      decodeEach decode 0 items = .ok (as.map f) := by
  unfold optionalArray
  rw [h]
  cases hlist with
  | @written items _ hitems =>
      exact ⟨items, rfl, decodeEach_eq_map hitems 0 hdecode⟩
  | omitted =>
      exact ⟨[], rfl, rfl⟩

end Fields

/-!
# Places
-/

theorem decodeLocation_of_writes {field : String} {v : Value} {l : Location}
    (h : WritesLocation v l) (hfits : l.Fits) : decodeLocation field v = .ok l := by
  cases h with
  | dict hentries =>
      have hget {key : String} {value? : Option Value} :=
        @Entries.Arranges.get?_eq _ _ _ hentries (by simp) key value?
      simp only [decodeLocation, asDict, bind_eq_ok_iff]
      exact ⟨_, rfl, _, decodeNumber_eq_ok hfits.line (hget (by simp)), _,
        decodeNumber_eq_ok hfits.column (hget (by simp)), _,
        decodeNumber_eq_ok hfits.fileIndex (hget (by simp)), rfl⟩

theorem decodeRange_of_writes {field : String} {v : Value} {r : SourceRange}
    (h : WritesRange v r) (hfits : r.first.Fits ∧ r.last.Fits) :
    decodeRange field v = .ok r := by
  cases h with
  | ends hfirst hlast =>
      simp only [decodeRange, asArray, bind_eq_ok_iff]
      refine ⟨_, rfl, ?_⟩
      simp only [bind_eq_ok_iff]
      exact ⟨_, decodeLocation_of_writes hfirst hfits.1, _,
        decodeLocation_of_writes hlast hfits.2, rfl⟩
  | single hplace =>
      simp only [decodeRange, asArray, bind_eq_ok_iff]
      refine ⟨_, rfl, ?_⟩
      simp only [bind_eq_ok_iff]
      exact ⟨_, decodeLocation_of_writes hplace hfits.1, rfl⟩

/-!
# Paths
-/

theorem decodeEvent_of_writes {entries : List (String × Value)}
    {fields : List (String × Option Value)} {e : PathEvent} (h : WritesEvent fields e)
    (hfits : e.Fits)
    (hget : forall key value?, (key, value?) ∈ fields -> Entries.get? entries key = value?) :
    decodeEvent entries = .ok e := by
  cases h with
  | @fields location message depth ranges _ hlocation hmessage hdepth hranges =>
      have hgetLocation := hget "location" (some location) (by simp)
      have hgetDepth := hget "depth" depth (by simp)
      have hgetExtended := hget "extended_message" (e.extendedMessage.map .string) (by simp)
      rcases hranges.exists_decodeEach "ranges" (hget "ranges" ranges (by simp))
        (fun _ v => decodeRange "ranges[]" v) id
        fun _ v r hv hr => decodeRange_of_writes hv (hfits.ranges r hr) with
        ⟨items, hitems, hdecoded⟩
      rcases hmessage.exists_optionalString "message" (hget "message" message (by simp)) with
        ⟨message?, hmessage?, hgetD⟩
      rw [List.map_id] at hdecoded
      unfold decodeEvent
      simp only [hgetLocation, bind_eq_ok_iff]
      refine ⟨_, decodeLocation_of_writes hlocation hfits.location, items, hitems, _,
        hdecoded, ?_⟩
      rcases hdepth.eq_or_eq with heq | ⟨heq, hzero⟩
      · simp only [hgetDepth, heq, asInteger, bind_eq_ok_iff]
        refine ⟨_, rfl, ?_⟩
        rw [asWord?_natCast hfits.depth]
        simp only [bind_eq_ok_iff]
        exact ⟨_, rfl, _, hmessage?, _, optionalString_eq_ok hgetExtended, by rw [hgetD]; rfl⟩
      · simp only [hgetDepth, heq, bind_eq_ok_iff]
        exact ⟨_, rfl, _, hmessage?, _, optionalString_eq_ok hgetExtended,
          by rw [hgetD, ← hzero]; rfl⟩

theorem WritesEvent.nodup_keys {fields : List (String × Option Value)} {e : PathEvent}
    (h : WritesEvent fields e) : ("kind" :: fields.map Prod.fst).Nodup := by
  cases h with
  | fields =>
      simp

theorem decodeNote_of_writes {index : Nat} {v : Value} {e : PathEvent} (h : WritesNote v e)
    (hfits : e.Fits) : decodeNote index v = .ok e := by
  cases h with
  | dict hentries hfields =>
      simp only [decodeNote, asDict, bind_eq_ok_iff]
      refine ⟨_, rfl, decodeEvent_of_writes hfields hfits ?_⟩
      intro key value? hfield
      exact hentries.get?_eq hfields.nodup_keys.of_cons hfield

theorem decodePiece_of_writes {index : Nat} {v : Value} {e : PathElement}
    (h : WritesElement v e) (hfits : e.Fits) : decodePiece index v = .ok [e] := by
  cases h with
  | @event entries fields e hentries hfields =>
      have hget {key : String} {value? : Option Value} :=
        @Entries.Arranges.get?_eq _ _ _ hentries hfields.nodup_keys key value?
      have hkind : optionalString entries "kind" = .ok (some "event") :=
        optionalString_eq_ok (hget List.mem_cons_self)
      have hevent := decodeEvent_of_writes hfields hfits fun key value? hfield =>
        hget (List.mem_cons_of_mem _ hfield)
      simp only [decodePiece, asDict, bind_eq_ok_iff]
      refine ⟨_, rfl, _, hkind, ?_⟩
      simp only [hevent]
      rfl
  | @point entries edge range l hentries hedge hrange =>
      have hget {key : String} {value? : Option Value} :=
        @Entries.Arranges.get?_eq _ _ _ hentries (by simp) key value?
      have hgetEdge {key : String} {value? : Option Value} :=
        @Entries.Arranges.get?_eq _ _ _ hedge (by simp) key value?
      have hkind : optionalString entries "kind" = .ok (some "control") :=
        optionalString_eq_ok (hget (by simp))
      have hedges : optionalArray entries "edges" = .ok [.dict edge] := by
        unfold optionalArray
        rw [@hget "edges" (some (.array [.dict edge])) (by simp)]
        rfl
      have hedge : decodeEdge 0 (.dict edge) = .ok [.point l] := by
        simp only [decodeEdge, asDict, decodeSide, bind_eq_ok_iff]
        refine ⟨_, rfl, [.point l], ?_, [], ?_, rfl⟩
        · rw [@hgetEdge "start" (some range) (by simp)]
          simp only [bind_eq_ok_iff]
          exact ⟨_, decodeRange_of_writes hrange ⟨hfits, hfits⟩, rfl⟩
        · rw [@hgetEdge "end" none (by simp)]
      simp only [decodePiece, asDict, bind_eq_ok_iff]
      refine ⟨_, rfl, _, hkind, ?_⟩
      have hdecoded : decodeEach decodeEdge 0 [.dict edge] = .ok [[.point l]] := by
        simp only [decodeEach, hedge]
        rfl
      simp only [bind_eq_ok_iff]
      exact ⟨_, hedges, _, hdecoded, rfl⟩

/-- Nothing is left out of a path that passes no place twice in a row, the step before it
included. -/
theorem mergeJoints_eq_self {previous : Option PathElement} {path : List PathElement}
    (h : Advances (previous.toList ++ path)) : mergeJoints previous path = path := by
  induction path generalizing previous with
  | nil =>
      rfl
  | cons e rest ih =>
      have hjoint : isJoint previous e = false := by
        cases e with
        | event event =>
            rfl
        | point l =>
            cases previous with
            | none =>
                rfl
            | some previous =>
                have hne := (List.isChain_cons_cons.mp h).1 l
                simpa [isJoint] using hne
      have hrest : Advances (e :: rest) := by
        cases previous with
        | none =>
            exact h
        | some previous =>
            exact (List.isChain_cons_cons.mp h).2
      rw [mergeJoints, hjoint]
      exact congrArg (e :: ·) (ih hrest)

theorem exists_decodePath_of_writes {entries : List (String × Value)} {value? : Option Value}
    {path : List PathElement} (hpath : WritesList WritesElement value? path)
    (hget : Entries.get? entries "path" = value?) (hfits : forall e, e ∈ path -> e.Fits)
    (hadvances : Advances path) :
    exists pieces, optionalArray entries "path" = .ok pieces ∧ decodePath pieces = .ok path := by
  rcases hpath.exists_decodeEach "path" hget decodePiece (fun e => [e])
    fun _ v e hv he => decodePiece_of_writes hv (hfits e he) with ⟨pieces, hpieces, hsteps⟩
  refine ⟨pieces, hpieces, ?_⟩
  simp only [decodePath, bind_eq_ok_iff]
  refine ⟨_, hsteps, ?_⟩
  have hmerged : mergeJoints none path = path :=
    mergeJoints_eq_self hadvances
  rw [← List.flatMap_def, List.flatMap_singleton', hmerged]
  rfl

/-!
# Diagnostics
-/

theorem decodeOffset_of_writes {entries : List (String × Value)} {value? : Option Value}
    {offset : Option Int} (h : WritesOffset value? offset)
    (hget : Entries.get? entries "issue_hash_function_offset" = value?)
    (hfits : forall n, offset = some n -> Text.fitsInt64 n = true) :
    decodeOffset entries = .ok offset := by
  unfold decodeOffset
  rw [hget]
  cases h with
  | omitted =>
      rfl
  | number n =>
      rfl
  | numeral n _ _ hbefore hafter =>
      simp only [String.toList_ofList]
      rw [Text.readInt64?_trimChars_toString (hfits n rfl) hbefore hafter]

theorem decodePlace_of_writes {entries : List (String × Value)} {value? : Option Value}
    {path : List PathElement} {l : Location} (h : WritesPlace value? path l)
    (hget : Entries.get? entries "location" = value?) (hfits : l.Fits) :
    decodePlace entries path = .ok l := by
  unfold decodePlace
  rw [hget]
  cases h with
  | written hplace =>
      exact decodeLocation_of_writes hplace hfits
  | omitted hlast =>
      rw [hlast]

theorem filter_checkerName {d : Diagnostic} (h : d.Named) :
    (d.checkerName.filter fun name => !Text.allBlank name) = d.checkerName := by
  cases hname : d.checkerName with
  | none =>
      rfl
  | some name =>
      rw [Option.filter_some, if_pos]
      rw [h name hname]
      rfl

theorem decodeDiagnostic_of_writes {v : Value} {d : Diagnostic} (h : WritesDiagnostic v d)
    (hfits : d.Fits) (hnamed : d.Named) (hadvances : Advances d.path) :
    exists entries, v = .dict entries ∧ decodeDiagnostic entries = .ok d := by
  cases h with
  | @dict entries _ path notes place offset category type description hpath hnotes hplace
      hoffset hcategory htype hdescription hentries =>
      have hget {key : String} {value? : Option Value} :=
        @Entries.Arranges.get?_eq _ _ _ hentries (by simp) key value?
      rcases exists_decodePath_of_writes hpath (hget (by simp)) hfits.path hadvances with
        ⟨pieces, hpieces, hpath⟩
      rcases hnotes.exists_decodeEach "notes" (hget (by simp)) decodeNote id
        fun _ v n hv hn => decodeNote_of_writes hv (hfits.notes n hn) with
        ⟨items, hitems, hnotes⟩
      rw [List.map_id] at hnotes
      rcases hcategory.exists_optionalString "category" (hget (by simp)) with
        ⟨category?, hcategory?, hcategory⟩
      rcases htype.exists_optionalString "type" (hget (by simp)) with
        ⟨type?, htype?, htype⟩
      rcases hdescription.exists_optionalString "description" (hget (by simp)) with
        ⟨description?, hdescription?, hdescription⟩
      have hchecker : optionalString entries "check_name" = .ok d.checkerName :=
        optionalString_eq_ok (hget (by simp))
      have hname : optionalString entries "issue_context" = .ok d.contextName :=
        optionalString_eq_ok (hget (by simp))
      have hkind : optionalString entries "issue_context_kind" = .ok d.contextKind :=
        optionalString_eq_ok (hget (by simp))
      have hhash : optionalString entries "issue_hash_content_of_line_in_context" =
          .ok d.embeddedHash :=
        optionalString_eq_ok (hget (by simp))
      refine ⟨entries, rfl, ?_⟩
      simp only [decodeDiagnostic, bind_eq_ok_iff]
      refine ⟨pieces, hpieces, _, hpath, items, hitems, _, hnotes, _,
        decodePlace_of_writes hplace (hget (by simp)) hfits.location, _,
        decodeOffset_of_writes hoffset (hget (by simp)) hfits.functionOffset, _, hcategory?, _,
        htype?, _, hdescription?, _, hchecker, _, hname, _, hkind, _, hhash, ?_⟩
      rw [hcategory, htype, hdescription, filter_checkerName hnamed]
      rfl

theorem Writable.decodeListed_eq_ok {b : Bundle} (hwritable : b.Writable) {d : Diagnostic}
    (hd : d ∈ b.diagnostics) {index : Nat} {v : Value} (h : WritesDiagnostic v d) :
    decodeListed b.files.length index v = .ok d := by
  rcases decodeDiagnostic_of_writes h (hwritable.fits d hd) (hwritable.named d hd)
    (hwritable.advances d hd) with ⟨entries, hv, hdecoded⟩
  refine decodeListed_eq_ok_iff.mpr ⟨entries, hv, hdecoded, ?_⟩
  intro l hl
  exact hwritable.resolves d hd l (Or.inl hl)

/-!
# Bundles
-/

/-- A bundle can be written and is decoded from whatever it is written as. -/
theorem Writable.exists_writes_and_ofValue {b : Bundle} (hwritable : b.Writable) :
    (exists v, WritesBundle v b) ∧
      forall v, WritesBundle v b -> ofValue (some v) = .ok b := by
  refine ⟨exists_writesBundle b, ?_⟩
  intro v h
  cases h with
  | @dict entries _ files diagnostics hfiles hdiagnostics hentries =>
      have hget {key : String} {value? : Option Value} :=
        @Entries.Arranges.get?_eq _ _ _ hentries (by simp) key value?
      rcases hfiles.exists_decodeEach "files" (hget (by simp))
        (fun index v => asString (indexed "files" index) v) id
        (fun index v file hv _ => by rw [hv]; rfl) with ⟨names, hnames, hfiles⟩
      rcases hdiagnostics.exists_decodeEach "diagnostics" (hget (by simp))
        (decodeListed b.files.length) id fun index v d hv hd => hwritable.decodeListed_eq_ok hd hv with
        ⟨items, hitems, hdiagnostics⟩
      rw [List.map_id] at hfiles hdiagnostics
      exact decodeRoot_eq_ok_iff.mpr ⟨names, items, hnames, hfiles, hitems, hdiagnostics,
        optionalString_eq_ok (hget (by simp)), hwritable.generation⟩

/-- A diagnostic whose path narrates a step and then passes two places. It is not said where
the defect is beyond the end of the path. -/
def turnedDiagnostic : Diagnostic :=
  { category := "", type := "leak", description := "", checkerName := some "unix.Malloc"
    location := ⟨1, 8, 2⟩, contextName := none, contextKind := some ""
    path := [
      .event ⟨⟨0, 3, 1⟩, "", none, 0, [⟨⟨0, 3, 1⟩, ⟨0, 3, 1⟩⟩, ⟨⟨0, 3, 1⟩, ⟨1, 4, 9⟩⟩]⟩,
      .point ⟨0, 5, 1⟩, .point ⟨1, 8, 2⟩]
    notes := [], embeddedHash := none, functionOffset := some (-7) }

def turnedBundle : Bundle :=
  ⟨["a.c", "b.h"], [turnedDiagnostic], some .namedUnhashed, none⟩

theorem writable_turnedBundle : turnedBundle.Writable where
  fits := by
    intro d hd
    rw [List.mem_singleton.mp hd]
    refine ⟨⟨by decide, by decide, by decide⟩, ?_, ?_, ?_⟩
    · simp only [turnedDiagnostic, List.forall_mem_cons]
      refine ⟨⟨⟨by decide, by decide, by decide⟩, by decide, ?_⟩,
        ⟨by decide, by decide, by decide⟩, ⟨by decide, by decide, by decide⟩, by simp⟩
      simp only [List.forall_mem_cons]
      exact ⟨⟨⟨by decide, by decide, by decide⟩, ⟨by decide, by decide, by decide⟩⟩,
        ⟨⟨by decide, by decide, by decide⟩, ⟨by decide, by decide, by decide⟩⟩, by simp⟩
    · intro n hn
      cases hn
    · intro n hn
      cases hn
      decide
  named := by
    intro d hd name hname
    rw [List.mem_singleton.mp hd] at hname
    cases hname
    decide
  advances := by
    intro d hd
    rw [List.mem_singleton.mp hd]
    simp [Advances, turnedDiagnostic]
  resolves := by
    intro d hd l hl
    rw [List.mem_singleton.mp hd] at hl
    rcases hl with hrefers | hend
    · refine Diagnostic.find?_fileIndices_eq_none_iff.mp ?_ l hrefers
      decide
    · rcases hend with ⟨hn, _⟩ | ⟨hn, _⟩ <;> cases hn
  generation := by
    decide

def turnedPlace (file line column : Int) : Value :=
  .dict [("file", .integer file), ("col", .integer column), ("line", .integer line)]

/-- That bundle with its entries turned around, its offset as a text between blanks and all
that may be left out left out. -/
def turnedValue : Value :=
  .dict [
    ("diagnostics", .array [.dict [
      ("issue_context_kind", .string ""),
      ("check_name", .string "unix.Malloc"),
      ("type", .string "leak"),
      ("issue_hash_function_offset", .string "\n -7\t"),
      ("path", .array [
        .dict [
          ("ranges", .array [
            .array [turnedPlace 0 3 1],
            .array [turnedPlace 0 3 1, turnedPlace 1 4 9]]),
          ("location", turnedPlace 0 3 1),
          ("kind", .string "event")],
        .dict [
          ("edges", .array [.dict [("start", .array [turnedPlace 0 5 1])]]),
          ("kind", .string "control")],
        .dict [
          ("kind", .string "control"),
          ("edges", .array [.dict [("start", .array [turnedPlace 1 8 2, turnedPlace 1 8 2])]])]])]]),
    ("files", .array [.string "a.c", .string "b.h"])]

theorem writesBundle_turnedValue : WritesBundle turnedValue turnedBundle := by
  have hplace (l : Location) : WritesLocation (turnedPlace l.fileIndex l.line l.column) l :=
    WritesLocation.dict (Arranges.of_eq_reverse rfl)
  have hranges : WritesList WritesRange _
      [⟨⟨0, 3, 1⟩, ⟨0, 3, 1⟩⟩, ⟨⟨0, 3, 1⟩, ⟨1, 4, 9⟩⟩] :=
    .written (.cons (.single (hplace _)) (.cons (.ends (hplace _) (hplace _)) .nil))
  have hevent := WritesElement.event (Arranges.of_eq_reverse rfl)
    (WritesEvent.fields (e := ⟨⟨0, 3, 1⟩, "", none, 0, _⟩) (hplace _) .omitted .omitted hranges)
  have hfirst := WritesElement.point (Arranges.of_eq_reverse rfl) (List.Perm.refl _)
    (WritesRange.single (hplace ⟨0, 5, 1⟩))
  have hsecond := WritesElement.point (List.Perm.refl _) (List.Perm.refl _)
    (WritesRange.ends (r := ⟨⟨1, 8, 2⟩, ⟨1, 8, 2⟩⟩) (hplace _) (hplace _))
  have hplaced : WritesPlace none turnedDiagnostic.path turnedDiagnostic.location :=
    .omitted (e := .point ⟨1, 8, 2⟩) rfl
  have hspelling : "\n -7\t" =
      String.ofList (['\n', ' '] ++ (toString (-7 : Int)).toList ++ ['\t']) := by
    decide
  have hoffset : WritesOffset (some (.string "\n -7\t")) (some (-7)) := by
    rw [hspelling]
    exact .numeral (-7) ['\n', ' '] ['\t'] (List.all_eq_true.mp (by decide))
        (List.all_eq_true.mp (by decide))
  have hdiagnostic := WritesDiagnostic.dict (d := turnedDiagnostic)
    (.written (.cons hevent (.cons hfirst (.cons hsecond .nil)))) .omitted hplaced
    hoffset .omitted (.written _) .omitted (Arranges.of_eq_reverse rfl)
  exact WritesBundle.dict (.written (.cons rfl (.cons rfl .nil)))
    (.written (.cons hdiagnostic .nil)) (Arranges.of_eq_reverse rfl)

theorem ofValue_turnedValue :
    turnedBundle.Writable ∧ WritesBundle turnedValue turnedBundle ∧
      ofValue (some turnedValue) = .ok turnedBundle :=
  ⟨writable_turnedBundle, writesBundle_turnedValue,
    writable_turnedBundle.exists_writes_and_ofValue.2 turnedValue writesBundle_turnedValue⟩

end Bundle
end FindingLedger
