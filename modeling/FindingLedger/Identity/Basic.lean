import FindingLedger.Identity.Context

/-!
# Identities of findings

A finding keeps its identity while the code around it moves: its content is identified by
the text of its line and its neighbours, its place by the distance from the beginning of
its context. Line numbers count only where the source text is missing.
-/

namespace FindingLedger

structure Identity where
  contentHash : String
  contextHash : String
  degraded : Bool
  deriving DecidableEq, Repr

namespace Identity

def contentKey (sources : Sources) (settings : Settings) (f : Finding) (path : String) :
    ContentKey :=
  match sources.line? path f.location.line with
  | some text =>
      .text f.checker f.context (Text.squeeze text)
        (linesAbove sources settings path f.location.line)
        (linesBelow sources settings path f.location.line)
  | none => .place f.checker f.context path f.location.line f.location.column

def contextKey (sources : Sources) (settings : Settings) (f : Finding) (path : String) :
    ContextKey :=
  ⟨f.checker, f.context, offsetOf sources settings f path⟩

def of (sources : Sources) (settings : Settings) (f : Finding) (path : String) : Identity :=
  let key := contentKey sources settings f path
  { contentHash := hashText (canonical key.fields)
    contextHash := hashText (canonical (contextKey sources settings f path).fields)
    degraded := key.isDegraded }

end Identity

end FindingLedger
