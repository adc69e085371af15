import FindingLedger.Ingestor.Basic

/-!
# Sessions

In a session requests follow one another: files change, ingestors are set up, bundles are
taken in, checker tables are replaced and kept. What is remembered from one request to the
next is the volume, the current ingestor, and the tables that were kept. A request that
fails leaves all of it as it was.
-/

namespace FindingLedger

structure Session where
  volume : Volume
  ingestor : Option Ingestor
  snapshots : List (String × CheckerTable)

inductive FileChange where
  | write (path : Path) (content : Bytes)
  | makeFolder (path : Path)
  | remove (path : Path)
  deriving DecidableEq, Repr

/-- Makes a change: the volume afterwards, and whether the change could be made. -/
def FileChange.apply (change : FileChange) (v : Volume) : Volume × Bool :=
  match change with
  | write path content => v.writeFile path content
  | makeFolder path => v.makeFolder path
  | remove path => v.removeFile path

def CheckerTable.ofDocument? (document : Option String) : Except IngestError CheckerTable :=
  match document with
  | none => .ok .builtin
  | some text => (CheckerTable.read text).mapError .table

inductive Request where
  | change (change : FileChange)
  | setUp (settings : Settings) (table : Option String) (files : List (String × Bytes))
  | setUpFrom (settings : Settings)
  | showSettings
  | ingestBytes (document : Bytes)
  | ingestFile (path : Path)
  | ingestBatch (paths : List Path)
  | ingestFolder (path : Path)
  | discover (path : Path)
  | readBundle (path : Path)
  | replaceTable (document : Option String)
  | reloadTable (path : Path)
  | keepTable (name : String)
  /-- Looks a description up in the active table, or in one that was kept. -/
  | lookUp (description : String) (name : Option String)

inductive Reply where
  | done
  | changed (success : Bool)
  | settings (settings : Settings)
  | outcome (outcome : Outcome)
  | results (results : List BundleResult)
  | paths (paths : List Path)
  | bundle (bundle : Bundle)
  | size (size : Nat)
  | checker (checker : Option String)
  /-- There is no ingestor, or no table of the name, to answer the request. -/
  | nothing

namespace Session

def start (v : Volume) : Session :=
  ⟨v, none, []⟩

def answer (s : Session) (reply : Except IngestError Reply) :
    Session × Except IngestError Reply :=
  (s, reply)

def install (s : Session) (made : Except IngestError Ingestor) :
    Session × Except IngestError Reply :=
  match made with
  | .ok i => ({ s with ingestor := some i }, .ok .done)
  | .error e => (s, .error e)

/-- The session with a new table for an ingestor, unless that could not be read. -/
def useTable (s : Session) (i : Ingestor) (read : Except IngestError CheckerTable) :
    Session × Except IngestError Reply :=
  match read with
  | .ok table => ({ s with ingestor := some { i with table } }, .ok .done)
  | .error e => (s, .error e)

def tableFor? (s : Session) (name : Option String) : Option CheckerTable :=
  match name with
  | some name => Entries.get? s.snapshots name
  | none => s.ingestor.map Ingestor.table

def serve (s : Session) (i : Ingestor) (request : Request) :
    Session × Except IngestError Reply :=
  match request with
  | .showSettings => s.answer (.ok (.settings i.settings))
  | .ingestBytes document => s.answer ((i.ingestBytes s.volume document).map .outcome)
  | .ingestFile path => s.answer ((i.ingestFile s.volume path).map .outcome)
  | .ingestBatch paths => s.answer (.ok (.results (i.ingestBatch s.volume paths)))
  | .ingestFolder path => s.answer ((i.ingestFolder s.volume path).map .results)
  | .replaceTable document => s.useTable i (CheckerTable.ofDocument? document)
  | .reloadTable path => s.useTable i (s.volume.readTable path)
  | .keepTable name =>
      ({ s with snapshots := Entries.put s.snapshots name i.table },
        .ok (.size i.table.size))
  | _ => s.answer (.ok .nothing)

def step (s : Session) (request : Request) : Session × Except IngestError Reply :=
  match request with
  | .change change =>
      let (volume, success) := change.apply s.volume
      ({ s with volume }, .ok (.changed success))
  | .setUp settings document files =>
      s.install (CheckerTable.ofDocument? document >>= fun table =>
        Ingestor.make settings table (.shared (.ofFiles files)))
  | .setUpFrom settings => s.install (Ingestor.ofSettings s.volume settings)
  | .discover path => s.answer ((s.volume.discover path).mapError .io |>.map .paths)
  | .readBundle path => s.answer ((s.volume.readBundle path).map .bundle)
  | .lookUp description name =>
      match s.tableFor? name with
      | some table => s.answer (.ok (.checker (table.lookup? description)))
      | none => s.answer (.ok .nothing)
  | request =>
      match s.ingestor with
      | some i => s.serve i request
      | none => s.answer (.ok .nothing)

def run (s : Session) : List Request → Session × List (Except IngestError Reply)
  | [] => (s, [])
  | request :: rest =>
      let (s, reply) := s.step request
      let (s, replies) := run s rest
      (s, reply :: replies)

end Session

end FindingLedger
