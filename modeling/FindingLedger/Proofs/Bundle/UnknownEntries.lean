import Mathlib.Data.List.Forall2
import FindingLedger.Bundle.Decode

/-!
# Entries that are not known

Analyzers come to write entries that no reader knows yet. Property lists agree if they hold
the same under the keys that are read, at every level, in whatever order, and whatever else
they hold; of a piece of a path whose kind is not known only the kind counts. Such property
lists are the same bundle, or are refused for the same fault.
-/

namespace FindingLedger
namespace Bundle

open Plist (Value)

/-!
# What a value holds
-/

def text? : Value -> Option String
  | .string text => some text
  | _ => none

def number? : Value -> Option Int
  | .integer number => some number
  | _ => none

def items? : Value -> Option (List Value)
  | .array items => some items
  | _ => none

def entries? : Value -> Option (List (String × Value))
  | .dict entries => some entries
  | _ => none

/-- Whether two values agree for a reader that looks for something in them: what it finds is
alike, and where it finds nothing it can still name their type. -/
structure Agree (look? : Value -> Option α) (alike : α -> α -> Prop) (v w : Value) : Prop where
  sameType : v.typeName = w.typeName
  content : Option.Rel alike (look? v) (look? w)

def AgreeText : Value -> Value -> Prop :=
  Agree text? Eq

def AgreeNumber : Value -> Value -> Prop :=
  Agree number? Eq

def AgreeArray (alike : Value -> Value -> Prop) : Value -> Value -> Prop :=
  Agree items? (List.Forall₂ alike)

def AgreeDict (alike : List (String × Value) -> List (String × Value) -> Prop) :
    Value -> Value -> Prop :=
  Agree entries? alike

def AgreeAt (key : String) (alike : Value -> Value -> Prop) (a b : List (String × Value)) :
    Prop :=
  Option.Rel alike (Entries.get? a key) (Entries.get? b key)

/-!
# What is read at each level
-/

structure AgreeLocation (a b : List (String × Value)) : Prop where
  line : AgreeAt "line" AgreeNumber a b
  column : AgreeAt "col" AgreeNumber a b
  file : AgreeAt "file" AgreeNumber a b

def AgreeRange : Value -> Value -> Prop :=
  AgreeArray (AgreeDict AgreeLocation)

structure AgreeEvent (a b : List (String × Value)) : Prop where
  location : AgreeAt "location" (AgreeDict AgreeLocation) a b
  ranges : AgreeAt "ranges" (AgreeArray AgreeRange) a b
  depth : AgreeAt "depth" AgreeNumber a b
  message : AgreeAt "message" AgreeText a b
  extendedMessage : AgreeAt "extended_message" AgreeText a b

structure AgreeEdge (a b : List (String × Value)) : Prop where
  first : AgreeAt "start" AgreeRange a b
  last : AgreeAt "end" AgreeRange a b

/-- Pieces of a path agree if they are of one kind, and if more is read of a piece of this
kind, agree in that. -/
structure AgreePiece (a b : List (String × Value)) : Prop where
  kind : AgreeAt "kind" AgreeText a b
  event : Entries.get? a "kind" = some (.string "event") -> AgreeEvent a b
  control : Entries.get? a "kind" = some (.string "control") ->
    AgreeAt "edges" (AgreeArray (AgreeDict AgreeEdge)) a b

def AgreeOffset (v w : Value) : Prop :=
  AgreeNumber v w ∧ AgreeText v w

structure AgreeDiagnostic (a b : List (String × Value)) : Prop where
  path : AgreeAt "path" (AgreeArray (AgreeDict AgreePiece)) a b
  notes : AgreeAt "notes" (AgreeArray (AgreeDict AgreeEvent)) a b
  location : AgreeAt "location" (AgreeDict AgreeLocation) a b
  functionOffset : AgreeAt "issue_hash_function_offset" AgreeOffset a b
  category : AgreeAt "category" AgreeText a b
  type : AgreeAt "type" AgreeText a b
  description : AgreeAt "description" AgreeText a b
  checkerName : AgreeAt "check_name" AgreeText a b
  contextName : AgreeAt "issue_context" AgreeText a b
  contextKind : AgreeAt "issue_context_kind" AgreeText a b
  embeddedHash : AgreeAt "issue_hash_content_of_line_in_context" AgreeText a b

/-- Whether entries agree for the root of a bundle. -/
structure AgreeRoot (a b : List (String × Value)) : Prop where
  files : AgreeAt "files" (AgreeArray AgreeText) a b
  diagnostics : AgreeAt "diagnostics" (AgreeArray (AgreeDict AgreeDiagnostic)) a b
  clangVersion : AgreeAt "clang_version" AgreeText a b

/-!
# Results that agree
-/

theorem none_or_some_of_rel {alike : α -> β -> Prop} {a? : Option α} {b? : Option β}
    (h : Option.Rel alike a? b?) :
    a? = none ∧ b? = none ∨ exists a b, a? = some a ∧ b? = some b ∧ alike a b := by
  cases h with
  | none =>
      exact .inl ⟨rfl, rfl⟩
  | some hab =>
      exact .inr ⟨_, _, rfl, rfl, hab⟩

inductive SameResult (alike : α -> β -> Prop) : Except ε α -> Except ε β -> Prop where
  | error (e : ε) : SameResult alike (.error e) (.error e)
  | ok {a : α} {b : β} (h : alike a b) : SameResult alike (.ok a) (.ok b)

theorem SameResult.eq {x y : Except ε α} (h : SameResult Eq x y) : x = y := by
  cases h with
  | error e =>
      rfl
  | ok heq =>
      rw [heq]

theorem SameResult.bind_eq {alike : α -> β -> Prop} {x : Except ε α} {y : Except ε β}
    (h : SameResult alike x y) {f : α -> Except ε γ} {g : β -> Except ε γ}
    (hnext : forall a b, alike a b -> f a = g b) : (x >>= f) = (y >>= g) := by
  cases h with
  | error e =>
      rfl
  | ok hab =>
      exact hnext _ _ hab

theorem SameResult.mapError {alike : α -> β -> Prop} {x : Except ε α} {y : Except ε β}
    (h : SameResult alike x y) (f : ε -> ε') :
    SameResult alike (x.mapError f) (y.mapError f) := by
  cases h with
  | error e =>
      exact .error (f e)
  | ok hab =>
      exact .ok hab

theorem decodeEach_eq_of_forall₂ {alike : α -> β -> Prop} {items : List α} {others : List β}
    (h : List.Forall₂ alike items others) {decode : Nat -> α -> Except ε γ}
    {decode' : Nat -> β -> Except ε γ}
    (hdecode : forall index v w, alike v w -> decode index v = decode' index w)
    (index : Nat) : decodeEach decode index items = decodeEach decode' index others := by
  induction h generalizing index with
  | nil =>
      rfl
  | cons hfirst _ ih =>
      unfold decodeEach
      rw [hdecode index _ _ hfirst, ih]

/-!
# Typed access
-/

/-- What is found in a value, or else a fault that names its type. -/
def found (fault : String -> ε) (look? : Value -> Option α) (v : Value) : Except ε α :=
  match look? v with
  | some a => .ok a
  | none => .error (fault v.typeName)

theorem asString_eq_found (field : String) (v : Value) :
    asString field v = found (.wrongType field "string") text? v := by
  cases v <;> rfl

theorem asInteger_eq_found (field : String) (v : Value) :
    asInteger field v = found (.wrongType field "integer") number? v := by
  cases v <;> rfl

theorem asArray_eq_found (field : String) (v : Value) :
    asArray field v = found (.wrongType field "array") items? v := by
  cases v <;> rfl

theorem asDict_eq_found (field : String) (v : Value) :
    asDict field v = found (.wrongType field "dict") entries? v := by
  cases v <;> rfl

theorem ofValue_eq_found (v : Value) :
    ofValue (some v) = (found .rootType entries? v >>= decodeRoot) := by
  cases v <;> rfl

section Decoding

variable {v w : Value} {a b : List (String × Value)} {key : String}

theorem Agree.sameResult_found {look? : Value -> Option α} {alike : α -> α -> Prop}
    (h : Agree look? alike v w) (fault : String -> ε) :
    SameResult alike (found fault look? v) (found fault look? w) := by
  unfold found
  rw [h.sameType]
  rcases none_or_some_of_rel h.content with ⟨hv, hw⟩ | ⟨a, b, hv, hw, hab⟩
  · rw [hv, hw]
    exact .error _
  · rw [hv, hw]
    exact .ok hab

theorem Agree.look?_eq {look? : Value -> Option α} (h : Agree look? Eq v w) :
    look? v = look? w := by
  rcases none_or_some_of_rel h.content with ⟨hv, hw⟩ | ⟨a, b, hv, hw, heq⟩
  · rw [hv, hw]
  · rw [hv, hw, heq]

theorem asString_eq_of_agree (h : AgreeText v w) (field : String) :
    asString field v = asString field w := by
  rw [asString_eq_found, asString_eq_found]
  exact (h.sameResult_found _).eq

theorem asInteger_eq_of_agree (h : AgreeNumber v w) (field : String) :
    asInteger field v = asInteger field w := by
  rw [asInteger_eq_found, asInteger_eq_found]
  exact (h.sameResult_found _).eq

theorem sameResult_asArray {alike : Value -> Value -> Prop} (h : AgreeArray alike v w)
    (field : String) :
    SameResult (List.Forall₂ alike) (asArray field v) (asArray field w) := by
  rw [asArray_eq_found, asArray_eq_found]
  exact h.sameResult_found _

theorem sameResult_asDict {alike : List (String × Value) -> List (String × Value) -> Prop}
    (h : AgreeDict alike v w) (field : String) :
    SameResult alike (asDict field v) (asDict field w) := by
  rw [asDict_eq_found, asDict_eq_found]
  exact h.sameResult_found _

theorem optionalString_eq_of_agree (h : AgreeAt key AgreeText a b) :
    optionalString a key = optionalString b key := by
  unfold optionalString
  rcases none_or_some_of_rel h with ⟨ha, hb⟩ | ⟨v, w, ha, hb, hvw⟩
  · rw [ha, hb]
  · rw [ha, hb]
    dsimp only
    rw [asString_eq_of_agree hvw]

theorem sameResult_optionalArray {alike : Value -> Value -> Prop}
    (h : AgreeAt key (AgreeArray alike) a b) :
    SameResult (List.Forall₂ alike) (optionalArray a key) (optionalArray b key) := by
  unfold optionalArray
  rcases none_or_some_of_rel h with ⟨ha, hb⟩ | ⟨v, w, ha, hb, hvw⟩
  · rw [ha, hb]
    exact .ok .nil
  · rw [ha, hb]
    exact sameResult_asArray hvw key

/-!
# Places
-/

theorem decodeNumber_eq_of_agree (h : AgreeAt key AgreeNumber a b) (field : String) :
    decodeNumber field a key = decodeNumber field b key := by
  unfold decodeNumber
  rcases none_or_some_of_rel h with ⟨ha, hb⟩ | ⟨v, w, ha, hb, hvw⟩
  · rw [ha, hb]
  · rw [ha, hb]
    dsimp only
    rw [asInteger_eq_of_agree hvw]

theorem decodeLocation_eq_of_agree (h : AgreeDict AgreeLocation v w) (field : String) :
    decodeLocation field v = decodeLocation field w := by
  unfold decodeLocation
  refine (sameResult_asDict h field).bind_eq ?_
  intro a b hab
  rw [decodeNumber_eq_of_agree hab.line, decodeNumber_eq_of_agree hab.column,
    decodeNumber_eq_of_agree hab.file]

theorem decodeRange_eq_of_agree (h : AgreeRange v w) (field : String) :
    decodeRange field v = decodeRange field w := by
  unfold decodeRange
  refine (sameResult_asArray h field).bind_eq ?_
  intro bounds others hbounds
  have hlength := hbounds.length_eq
  cases hbounds with
  | nil =>
      rfl
  | cons hfirst hrest =>
      cases hrest with
      | nil =>
          dsimp only
          rw [decodeLocation_eq_of_agree hfirst]
      | cons hlast hmore =>
          cases hmore with
          | nil =>
              dsimp only
              rw [decodeLocation_eq_of_agree hfirst, decodeLocation_eq_of_agree hlast]
          | cons _ _ =>
              dsimp only
              rw [hlength]

/-!
# Paths
-/

theorem decodeEvent_eq_of_agree (h : AgreeEvent a b) : decodeEvent a = decodeEvent b := by
  unfold decodeEvent
  rcases none_or_some_of_rel h.location with ⟨ha, hb⟩ | ⟨v, w, ha, hb, hvw⟩
  · rw [ha, hb]
    rfl
  · rw [ha, hb]
    dsimp only
    rw [decodeLocation_eq_of_agree hvw]
    refine bind_congr fun location => ?_
    refine (sameResult_optionalArray h.ranges).bind_eq fun items others hitems => ?_
    rw [decodeEach_eq_of_forall₂ hitems fun _ _ _ hrange => decodeRange_eq_of_agree hrange _]
    refine bind_congr fun ranges => ?_
    rw [optionalString_eq_of_agree h.message, optionalString_eq_of_agree h.extendedMessage]
    rcases none_or_some_of_rel h.depth with ⟨ha, hb⟩ | ⟨v, w, ha, hb, hvw⟩
    · rw [ha, hb]
    · rw [ha, hb]
      dsimp only
      rw [asInteger_eq_of_agree hvw]

theorem decodeSide_eq_of_agree (h : AgreeAt key AgreeRange a b) :
    decodeSide a key = decodeSide b key := by
  unfold decodeSide
  rcases none_or_some_of_rel h with ⟨ha, hb⟩ | ⟨v, w, ha, hb, hvw⟩
  · rw [ha, hb]
  · rw [ha, hb]
    dsimp only
    rw [decodeRange_eq_of_agree hvw]

theorem decodeEdge_eq_of_agree (h : AgreeDict AgreeEdge v w) (index : Nat) :
    decodeEdge index v = decodeEdge index w := by
  unfold decodeEdge
  refine (sameResult_asDict h _).bind_eq ?_
  intro a b hab
  rw [decodeSide_eq_of_agree hab.first, decodeSide_eq_of_agree hab.last]

theorem get?_eq_of_optionalString {text : String}
    (h : optionalString a key = .ok (some text)) :
    Entries.get? a key = some (.string text) := by
  unfold optionalString at h
  split at h
  · cases h
  · rename_i v hv
    rw [hv]
    cases v <;> cases h
    rfl

theorem decodePiece_eq_of_agree (h : AgreeDict AgreePiece v w) (index : Nat) :
    decodePiece index v = decodePiece index w := by
  unfold decodePiece
  refine (sameResult_asDict h _).bind_eq ?_
  intro a b hab
  rw [← optionalString_eq_of_agree hab.kind]
  cases hkind : optionalString a "kind" with
  | error e =>
      rfl
  | ok kind =>
      simp only [bind, Except.bind]
      split
      · rw [decodeEvent_eq_of_agree (hab.event (get?_eq_of_optionalString hkind))]
      · have hedges := sameResult_optionalArray
          (hab.control (get?_eq_of_optionalString hkind))
        refine hedges.bind_eq fun edges others hall => ?_
        rw [decodeEach_eq_of_forall₂ hall fun index _ _ hedge =>
          decodeEdge_eq_of_agree hedge index]
      · rfl

theorem decodePath_eq_of_agree {pieces others : List Value}
    (h : List.Forall₂ (AgreeDict AgreePiece) pieces others) :
    decodePath pieces = decodePath others := by
  unfold decodePath
  rw [decodeEach_eq_of_forall₂ h fun index _ _ hpiece => decodePiece_eq_of_agree hpiece index]

/-!
# Diagnostics
-/

def offsetIn (v : Value) : Except FieldFault (Option Int) :=
  match number? v, text? v with
  | some number, _ => .ok (some number)
  | none, some text =>
      match Text.readInt64? (Text.trimChars text.toList) with
      | some number => .ok (some number)
      | none => .error (.badOffset text)
  | none, none => .error (.wrongType "issue_hash_function_offset" "string" v.typeName)

theorem decodeOffset_eq_offsetIn
    (h : Entries.get? a "issue_hash_function_offset" = some v) :
    decodeOffset a = offsetIn v := by
  unfold decodeOffset
  rw [h]
  cases v <;> rfl

theorem decodeOffset_eq_of_agree (h : AgreeAt "issue_hash_function_offset" AgreeOffset a b) :
    decodeOffset a = decodeOffset b := by
  rcases none_or_some_of_rel h with ⟨ha, hb⟩ | ⟨v, w, ha, hb, hnumber, htext⟩
  · rw [decodeOffset, decodeOffset, ha, hb]
  · rw [decodeOffset_eq_offsetIn ha, decodeOffset_eq_offsetIn hb, offsetIn, offsetIn,
      hnumber.look?_eq, htext.look?_eq, htext.sameType]

theorem decodePlace_eq_of_agree (h : AgreeAt "location" (AgreeDict AgreeLocation) a b)
    (path : List PathElement) : decodePlace a path = decodePlace b path := by
  unfold decodePlace
  rcases none_or_some_of_rel h with ⟨ha, hb⟩ | ⟨v, w, ha, hb, hvw⟩
  · rw [ha, hb]
  · rw [ha, hb]
    exact decodeLocation_eq_of_agree hvw "location"

theorem decodeNote_eq_of_agree (h : AgreeDict AgreeEvent v w) (index : Nat) :
    decodeNote index v = decodeNote index w := by
  unfold decodeNote
  exact (sameResult_asDict h _).bind_eq fun a b hab => decodeEvent_eq_of_agree hab

theorem decodeDiagnostic_eq_of_agree (h : AgreeDiagnostic a b) :
    decodeDiagnostic a = decodeDiagnostic b := by
  unfold decodeDiagnostic
  refine (sameResult_optionalArray h.path).bind_eq fun pieces others hpieces => ?_
  rw [decodePath_eq_of_agree hpieces]
  refine bind_congr fun path => ?_
  refine (sameResult_optionalArray h.notes).bind_eq fun notes others hnotes => ?_
  rw [decodeEach_eq_of_forall₂ hnotes fun index _ _ hnote => decodeNote_eq_of_agree hnote index,
    decodePlace_eq_of_agree h.location, decodeOffset_eq_of_agree h.functionOffset,
    optionalString_eq_of_agree h.category, optionalString_eq_of_agree h.type,
    optionalString_eq_of_agree h.description, optionalString_eq_of_agree h.checkerName,
    optionalString_eq_of_agree h.contextName, optionalString_eq_of_agree h.contextKind,
    optionalString_eq_of_agree h.embeddedHash]

/-!
# Bundles
-/

theorem decodeListed_eq_of_agree (h : AgreeDict AgreeDiagnostic v w) (count index : Nat) :
    decodeListed count index v = decodeListed count index w := by
  unfold decodeListed
  refine ((sameResult_asDict h _).mapError _).bind_eq ?_
  intro a b hab
  rw [decodeDiagnostic_eq_of_agree hab]

theorem decodeRoot_eq_of_agree (h : AgreeRoot a b) : decodeRoot a = decodeRoot b := by
  unfold decodeRoot
  refine ((sameResult_optionalArray h.files).mapError _).bind_eq fun names others hnames => ?_
  rw [decodeEach_eq_of_forall₂ hnames fun index _ _ hname =>
    asString_eq_of_agree hname (indexed "files" index)]
  refine bind_congr fun files => ?_
  refine ((sameResult_optionalArray h.diagnostics).mapError _).bind_eq
    fun items others hitems => ?_
  rw [decodeEach_eq_of_forall₂ hitems fun index _ _ hitem =>
      decodeListed_eq_of_agree hitem files.length index,
    optionalString_eq_of_agree h.clangVersion]

/-- Property lists that agree in what is read are the same bundle, or are refused for the
same fault. -/
theorem ofValue_eq_of_agree (h : AgreeDict AgreeRoot v w) :
    ofValue (some v) = ofValue (some w) := by
  rw [ofValue_eq_found, ofValue_eq_found]
  exact (h.sameResult_found _).bind_eq fun a b hab => decodeRoot_eq_of_agree hab

end Decoding

/-- A place as it is written today, and one with an entry that is not known. -/
def place : Value :=
  .dict [("line", .integer 3), ("col", .integer 5), ("file", .integer 0)]

def newerPlace : Value :=
  .dict [("file", .integer 0), ("offset", .integer 40), ("line", .integer 3),
    ("col", .integer 5)]

def event : Value :=
  .dict [("kind", .string "event"), ("location", place), ("message", .string "n is 0")]

def newerEvent : Value :=
  .dict [("message", .string "n is 0"), ("tone", .string "calm"), ("location", newerPlace),
    ("kind", .string "event")]

def popUp : Value :=
  .dict [("kind", .string "pop-up"), ("location", place)]

def newerPopUp : Value :=
  .dict [("location", .boolean true), ("kind", .string "pop-up")]

def tree : Value :=
  .dict [("files", .array [.string "a.c"]),
    ("diagnostics", .array [.dict [("description", .string "division by zero"),
      ("location", place), ("path", .array [event, popUp])]])]

def newerTree : Value :=
  .dict [("schema", .integer 2),
    ("diagnostics", .array [.dict [("path", .array [newerEvent, newerPopUp]),
      ("fixes", .array []), ("location", newerPlace),
      ("description", .string "division by zero")]]),
    ("files", .array [.string "a.c"])]

theorem agree_place : AgreeDict AgreeLocation place newerPlace :=
  ⟨rfl, .some ⟨.some ⟨rfl, .some rfl⟩, .some ⟨rfl, .some rfl⟩, .some ⟨rfl, .some rfl⟩⟩⟩

theorem agree_event : AgreeDict AgreePiece event newerEvent := by
  refine ⟨rfl, .some ⟨.some ⟨rfl, .some rfl⟩, fun _ => ?_, ?_⟩⟩
  · exact ⟨.some agree_place, .none, .none, .some ⟨rfl, .some rfl⟩, .none⟩
  · intro hcontrol
    simp [Entries.get?] at hcontrol

theorem agree_popUp : AgreeDict AgreePiece popUp newerPopUp := by
  refine ⟨rfl, .some ⟨.some ⟨rfl, .some rfl⟩, ?_, ?_⟩⟩
  · intro hevent
    simp [Entries.get?] at hevent
  · intro hcontrol
    simp [Entries.get?] at hcontrol

theorem agree_tree : AgreeDict AgreeRoot tree newerTree := by
  have hpath : AgreeArray (AgreeDict AgreePiece) (.array [event, popUp])
      (.array [newerEvent, newerPopUp]) :=
    ⟨rfl, .some (.cons agree_event (.cons agree_popUp .nil))⟩
  refine ⟨rfl, .some ⟨.some ⟨rfl, .some (.cons ⟨rfl, .some rfl⟩ .nil)⟩, ?_, .none⟩⟩
  refine .some ⟨rfl, .some (.cons ⟨rfl, .some ?_⟩ .nil)⟩
  exact ⟨.some hpath, .none, .some agree_place, .none, .none, .none, .some ⟨rfl, .some rfl⟩,
    .none, .none, .none, .none⟩

theorem ofValue_eq_of_agree_newerTree :
    AgreeDict AgreeRoot tree newerTree ∧
      (ofValue (some newerTree)).map (fun b => b.diagnostics.map Diagnostic.path) =
        .ok [[.event ⟨⟨0, 3, 5⟩, "n is 0", none, 0, []⟩]] := by
  refine ⟨agree_tree, ?_⟩
  rw [← ofValue_eq_of_agree agree_tree]
  rfl

end Bundle
end FindingLedger
