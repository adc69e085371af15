import FindingLedger.CheckerTable.Builtin
import FindingLedger.CheckerTable.Read
import FindingLedger.Outcome.Basic
import FindingLedger.Source.Cached
import FindingLedger.Volume.Discovery

/-!
# Ingestors

An ingestor takes in one bundle after another under the same settings. Its checker table
can be replaced between bundles, and its source files are either given once or read from
the volume anew for every bundle.
-/

namespace FindingLedger

inductive IngestError where
  | outcome (error : Outcome.Error)
  | io (fault : IoFault)
  | table (error : CheckerTable.Error)
  | settings (error : Settings.Error)
  deriving DecidableEq, Repr

namespace IngestError

def kind : IngestError → String
  | outcome _ => "malformed_bundle"
  | io _ => "io_error"
  | table _ => "config_error"
  | settings _ => "config_error"

def message : IngestError → String
  | outcome error => "Malformed bundle: " ++ error.message
  | io fault => "IO error: " ++ fault.message
  | table error => "Config error: " ++ error.message
  | settings error => "Config error: " ++ error.message

end IngestError

inductive SourceAccess where
  | shared (sources : Sources)
  /-- The volume as it is when a bundle is taken in, from a folder on. -/
  | volume (root : Option Path)

def SourceAccess.sources (access : SourceAccess) (v : Volume) : Sources :=
  match access with
  | shared sources => sources
  | volume root => v.sources root

/-- Settings, the active checker table, and access to source files. -/
structure Ingestor where
  settings : Settings
  table : CheckerTable
  access : SourceAccess

structure BundleResult where
  path : Path
  outcome : Except IngestError Outcome

inductive BundleStatus where
  | ok
  | degraded
  | failed
  deriving DecidableEq, Repr

def BundleResult.status (r : BundleResult) : BundleStatus :=
  match r.outcome with
  | .ok o => if o.isDegraded then .degraded else .ok
  | .error _ => .failed

def Volume.readTable (v : Volume) (path : Path) : Except IngestError CheckerTable :=
  match v.readText path with
  | .ok text => (CheckerTable.read text).mapError .table
  | .error fault => .error (.io fault)

def Volume.readBundle (v : Volume) (path : Path) : Except IngestError Bundle :=
  match v.readBytes path with
  | .ok content => (Bundle.read content).mapError fun e => .outcome (.bundle e)
  | .error fault => .error (.io fault)

namespace Ingestor

def make (settings : Settings) (table : CheckerTable) (access : SourceAccess) :
    Except IngestError Ingestor :=
  match settings.check with
  | .ok _ => .ok ⟨settings, table, access⟩
  | .error e => .error (.settings e)

/-- The ingestor that settings describe: with the checker table that they name or the
built-in one, and source files from the volume. -/
def ofSettings (v : Volume) (settings : Settings) : Except IngestError Ingestor :=
  match settings.checkerTable with
  | none => make settings .builtin (.volume settings.sourceRoot)
  | some path =>
      match v.readTable path with
      | .ok table => make settings table (.volume settings.sourceRoot)
      | .error e => .error e

def ingestBytes (i : Ingestor) (v : Volume) (document : Bytes) : Except IngestError Outcome :=
  (Outcome.ingest document i.table (i.access.sources v) i.settings).mapError .outcome

def ingestFile (i : Ingestor) (v : Volume) (path : Path) : Except IngestError Outcome :=
  match v.readBytes path with
  | .ok content => i.ingestBytes v content
  | .error fault => .error (.io fault)

def ingestBatch (i : Ingestor) (v : Volume) (paths : List Path) : List BundleResult :=
  paths.map fun path => ⟨path, i.ingestFile v path⟩

def ingestFolder (i : Ingestor) (v : Volume) (path : Path) :
    Except IngestError (List BundleResult) :=
  match v.discover path with
  | .ok paths => .ok (i.ingestBatch v paths)
  | .error fault => .error (.io fault)

end Ingestor

end FindingLedger
