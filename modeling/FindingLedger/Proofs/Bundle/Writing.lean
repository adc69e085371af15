import FindingLedger.Proofs.Bundle.References
import FindingLedger.Proofs.Entries
import FindingLedger.Proofs.Text.Numerals

/-!
# Bundles written as property lists

One bundle can be written in many ways: entries stand in any order, what is empty may be left
out, a place may stand for a range of one point, and the offset of a defect may be a number
or the text of one. Each record has a relation that says which property lists stand for it.
Every bundle can be written.
-/

namespace FindingLedger
namespace Bundle

open Plist (Value)
open Entries (Arranges written)

/-!
# Texts, numbers and lists that may be left out
-/

/-- Whether a field is a text, which may be left out if it is empty. -/
inductive WritesText : Option Value -> String -> Prop where
  | written (text : String) : WritesText (some (.string text)) text
  | omitted : WritesText none ""

/-- Whether a field is a depth, which may be left out if it is zero. -/
inductive WritesDepth : Option Value -> Nat -> Prop where
  | written (depth : Nat) : WritesDepth (some (.integer depth)) depth
  | omitted : WritesDepth none 0

/-- Whether a field is a list of what can be written, which may be left out if it is empty. -/
inductive WritesList {α : Type} (writes : Value -> α -> Prop) :
    Option Value -> List α -> Prop where
  | written {items : List Value} {as : List α} (hitems : List.Forall₂ writes items as) :
      WritesList writes (some (.array items)) as
  | omitted : WritesList writes none []

/-!
# Places
-/

inductive WritesLocation : Value -> Location -> Prop where
  | dict {entries : List (String × Value)} {l : Location}
      (hentries : Arranges entries
        [("line", some (.integer l.line)), ("col", some (.integer l.column)),
          ("file", some (.integer l.fileIndex))]) :
      WritesLocation (.dict entries) l

/-- Whether a value is a range. That of one point may have one end. -/
inductive WritesRange : Value -> SourceRange -> Prop where
  | ends {first last : Value} {r : SourceRange} (hfirst : WritesLocation first r.first)
      (hlast : WritesLocation last r.last) : WritesRange (.array [first, last]) r
  | single {place : Value} {l : Location} (hplace : WritesLocation place l) :
      WritesRange (.array [place]) ⟨l, l⟩

/-!
# Steps
-/

inductive WritesEvent : List (String × Option Value) -> PathEvent -> Prop where
  | fields {location : Value} {message depth ranges : Option Value} {e : PathEvent}
      (hlocation : WritesLocation location e.location) (hmessage : WritesText message e.message)
      (hdepth : WritesDepth depth e.depth) (hranges : WritesList WritesRange ranges e.ranges) :
      WritesEvent
        [("location", some location), ("message", message),
          ("extended_message", e.extendedMessage.map .string), ("depth", depth),
          ("ranges", ranges)] e

inductive WritesNote : Value -> PathEvent -> Prop where
  | dict {entries : List (String × Value)} {fields : List (String × Option Value)}
      {e : PathEvent} (hentries : Arranges entries fields) (hfields : WritesEvent fields e) :
      WritesNote (.dict entries) e

/-- Whether a value is a step of a path. A place that is passed is the start of the only edge
of its piece. -/
inductive WritesElement : Value -> PathElement -> Prop where
  | event {entries : List (String × Value)} {fields : List (String × Option Value)}
      {e : PathEvent}
      (hentries : Arranges entries (("kind", some (.string "event")) :: fields))
      (hfields : WritesEvent fields e) : WritesElement (.dict entries) (.event e)
  | point {entries edge : List (String × Value)} {range : Value} {l : Location}
      (hentries : Arranges entries
        [("kind", some (.string "control")), ("edges", some (.array [.dict edge]))])
      (hedge : Arranges edge [("start", some range), ("end", none)])
      (hrange : WritesRange range ⟨l, l⟩) : WritesElement (.dict entries) (.point l)

/-!
# Diagnostics
-/

/-- Whether a field is an offset: left out if there is none, and otherwise a number or its
numeral with any blanks around it. -/
inductive WritesOffset : Option Value -> Option Int -> Prop where
  | omitted : WritesOffset none none
  | number (n : Int) : WritesOffset (some (.integer n)) (some n)
  | numeral (n : Int) (before after : List Char) (hbefore : Text.Blanks before)
      (hafter : Text.Blanks after) :
      WritesOffset (some (.string (.ofList (before ++ (toString n).toList ++ after)))) (some n)

/-- Whether a field is the place of a defect, which may be left out if a path leads there. -/
inductive WritesPlace : Option Value -> List PathElement -> Location -> Prop where
  | written {place : Value} {path : List PathElement} {l : Location}
      (hplace : WritesLocation place l) : WritesPlace (some place) path l
  | omitted {path : List PathElement} {e : PathElement} (hlast : path.getLast? = some e) :
      WritesPlace none path e.location

inductive WritesDiagnostic : Value -> Diagnostic -> Prop where
  | dict {entries : List (String × Value)} {d : Diagnostic}
      {path notes place offset category type description : Option Value}
      (hpath : WritesList WritesElement path d.path)
      (hnotes : WritesList WritesNote notes d.notes)
      (hplace : WritesPlace place d.path d.location)
      (hoffset : WritesOffset offset d.functionOffset)
      (hcategory : WritesText category d.category) (htype : WritesText type d.type)
      (hdescription : WritesText description d.description)
      (hentries : Arranges entries
        [("path", path), ("notes", notes), ("location", place),
          ("issue_hash_function_offset", offset), ("category", category), ("type", type),
          ("description", description), ("check_name", d.checkerName.map .string),
          ("issue_context", d.contextName.map .string),
          ("issue_context_kind", d.contextKind.map .string),
          ("issue_hash_content_of_line_in_context", d.embeddedHash.map .string)]) :
      WritesDiagnostic (.dict entries) d

/-!
# Bundles
-/

/-- Whether a value is a bundle. Its generation is not written. -/
inductive WritesBundle : Value -> Bundle -> Prop where
  | dict {entries : List (String × Value)} {b : Bundle} {files diagnostics : Option Value}
      (hfiles : WritesList (fun v file => v = .string file) files b.files)
      (hdiagnostics : WritesList WritesDiagnostic diagnostics b.diagnostics)
      (hentries : Arranges entries
        [("files", files), ("diagnostics", diagnostics),
          ("clang_version", b.clangVersion.map .string)]) :
      WritesBundle (.dict entries) b

/-!
# Every bundle can be written
-/

theorem exists_forall₂_of_exists {α β : Type} {r : α -> β -> Prop}
    (h : forall b, exists a, r a b) (bs : List β) : exists as, List.Forall₂ r as bs := by
  induction bs with
  | nil =>
      exact ⟨[], List.Forall₂.nil⟩
  | cons b bs ih =>
      rcases h b with ⟨a, ha⟩
      rcases ih with ⟨as, has⟩
      exact ⟨a :: as, List.Forall₂.cons ha has⟩

theorem exists_writesList {α : Type} {writes : Value -> α -> Prop}
    (h : forall a, exists v, writes v a) (as : List α) :
    exists field, WritesList writes field as := by
  rcases exists_forall₂_of_exists h as with ⟨items, hitems⟩
  exact ⟨_, WritesList.written hitems⟩

theorem exists_writesLocation (l : Location) : exists v, WritesLocation v l :=
  ⟨_, WritesLocation.dict (List.Perm.refl _)⟩

theorem exists_writesRange (r : SourceRange) : exists v, WritesRange v r := by
  rcases exists_writesLocation r.first with ⟨first, hfirst⟩
  rcases exists_writesLocation r.last with ⟨last, hlast⟩
  exact ⟨_, WritesRange.ends hfirst hlast⟩

theorem exists_writesEvent (e : PathEvent) : exists fields, WritesEvent fields e := by
  rcases exists_writesLocation e.location with ⟨location, hlocation⟩
  rcases exists_writesList exists_writesRange e.ranges with ⟨ranges, hranges⟩
  exact ⟨_, WritesEvent.fields hlocation (.written _) (.written _) hranges⟩

theorem exists_writesNote (e : PathEvent) : exists v, WritesNote v e := by
  rcases exists_writesEvent e with ⟨fields, hfields⟩
  exact ⟨_, WritesNote.dict (List.Perm.refl _) hfields⟩

theorem exists_writesElement (e : PathElement) : exists v, WritesElement v e := by
  cases e with
  | event e =>
      rcases exists_writesEvent e with ⟨fields, hfields⟩
      exact ⟨_, WritesElement.event (List.Perm.refl _) hfields⟩
  | point l =>
      rcases exists_writesRange ⟨l, l⟩ with ⟨range, hrange⟩
      exact ⟨_, WritesElement.point (List.Perm.refl _) (List.Perm.refl _) hrange⟩

theorem exists_writesDiagnostic (d : Diagnostic) : exists v, WritesDiagnostic v d := by
  rcases exists_writesList exists_writesElement d.path with ⟨path, hpath⟩
  rcases exists_writesList exists_writesNote d.notes with ⟨notes, hnotes⟩
  rcases exists_writesLocation d.location with ⟨place, hplace⟩
  have hoffset : exists offset, WritesOffset offset d.functionOffset := by
    cases d.functionOffset with
    | none =>
        exact ⟨_, WritesOffset.omitted⟩
    | some n =>
        exact ⟨_, WritesOffset.number n⟩
  rcases hoffset with ⟨offset, hoffset⟩
  exact ⟨_, WritesDiagnostic.dict hpath hnotes (.written hplace) hoffset (.written _)
    (.written _) (.written _) (List.Perm.refl _)⟩

theorem exists_writesBundle (b : Bundle) : exists v, WritesBundle v b := by
  have hfile (file : String) : exists v, v = Value.string file := ⟨_, rfl⟩
  rcases exists_writesList hfile b.files with ⟨files, hfiles⟩
  rcases exists_writesList exists_writesDiagnostic b.diagnostics with
    ⟨diagnostics, hdiagnostics⟩
  exact ⟨_, WritesBundle.dict hfiles hdiagnostics (List.Perm.refl _)⟩

end Bundle
end FindingLedger
