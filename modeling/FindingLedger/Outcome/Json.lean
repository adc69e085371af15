import FindingLedger.Outcome.Basic

/-!
# Outcomes as JSON

The text in which an outcome is handed on. The contents of files stay out of it: a file is
represented by its digest. What is absent is null, except that the analyzer's hash and the
messages of steps are left out when there are none, and so are empty notes.
-/

namespace FindingLedger

def Generation.label : Generation → String
  | .unnamed => "unnamed"
  | .namedUnhashed => "named_unhashed"
  | .namedHashed => "named_hashed"

def Provenance.label : Provenance → String
  | .declared => "declared"
  | .inferred => "inferred"
  | .unresolved => "unresolved"

def StepKind.label : StepKind → String
  | .event => "event"
  | .point => "point"

def Json.memberIfAny (name : String) : Option String → List (String × Json)
  | some value => [(name, Json.ofString value)]
  | none => []

def ReportLocation.toJson (l : ReportLocation) : Json :=
  .ofMembers [("file", .ofString l.file), ("line", .ofNat l.line), ("column", .ofNat l.column)]

def ReportStep.toJson (s : ReportStep) : Json :=
  .ofMembers ([("kind", .ofString s.kind.label), ("location", s.location.toJson)] ++
    Json.memberIfAny "message" s.message)

namespace Report

def noteMembers (notes : List ReportStep) : List (String × Json) :=
  if notes.isEmpty then [] else [("notes", .array (notes.map ReportStep.toJson))]

def toJson (r : Report) : Json :=
  .ofMembers
    ([("check_name", .ofString r.checker),
      ("checker_provenance", .ofString r.provenance.label),
      ("category", .ofString r.category),
      ("type", .ofString r.type),
      ("description", .ofString r.description),
      ("location", r.location.toJson),
      ("context_name", .ofOption r.contextName),
      ("context_kind", .ofOption r.contextKind),
      ("content_hash", .ofString r.identity.contentHash),
      ("context_hash", .ofString r.identity.contextHash),
      ("hash_degraded", .boolean r.identity.degraded)] ++
      Json.memberIfAny "analyzer_hash" r.analyzerHash ++
      [("bug_path", .array (r.path.map ReportStep.toJson))] ++ noteMembers r.notes)

end Report

namespace Outcome

def toJson (o : Outcome) : Json :=
  .ofMembers
    [("generation", .ofOption (o.generation.map Generation.label)),
     ("clang_version", .ofOption o.clangVersion),
     ("reports", .array (o.reports.map Report.toJson)),
     ("files", o.files.toJson),
     ("duplicates_dropped", .ofNat o.duplicates)]

def text (o : Outcome) : String :=
  String.ofList (o.toJson.pretty 0)

end Outcome

end FindingLedger
