import FindingLedger.Entries
import FindingLedger.Volume.Path

/-!
# Volumes

A volume is a tree of folders and files, and one of its folders is worked in: relative paths
start there, absolute ones from the outermost folder, above which there is nothing. A volume has
no links, all of it can be read, and names may be of any length.
-/

namespace FindingLedger

inductive Node where
  | file (content : Bytes)
  | folder (entries : List (Bytes × Node))
  deriving Inhabited

inductive IoFault where
  | missing
  | isFolder
  | notFolder
  | holdsNul
  | notText
  deriving DecidableEq, Repr

def IoFault.message : IoFault → String
  | .missing => "No such file or directory (os error 2)"
  | .isFolder => "Is a directory (os error 21)"
  | .notFolder => "Not a directory (os error 20)"
  | .holdsNul => "file name contained an unexpected NUL byte"
  | .notText => "stream did not contain valid UTF-8"

namespace Node

/-- What lies below a node at the end of a chain of names. -/
def at? : Node → List Bytes → Option Node
  | node, [] => some node
  | .file _, _ :: _ => none
  | .folder entries, name :: rest =>
      match Entries.get? entries name with
      | some node => at? node rest
      | none => none

/-- Changes what lies at the end of a chain of names in an existing folder. -/
def changeEntries (f : Option Node → Option Node) :
    List Bytes → List (Bytes × Node) → List (Bytes × Node)
  | [], entries => entries
  | [name], entries =>
      match f (Entries.get? entries name) with
      | some node => Entries.put entries name node
      | none => entries.filter fun entry => entry.1 != name
  | name :: rest, entries =>
      match Entries.get? entries name with
      | some (.folder below) => Entries.put entries name (.folder (changeEntries f rest below))
      | _ => entries

mutual

/-- The chains of names that lead to files, in the order of the entries. -/
def fileNames : Node → List (List Bytes)
  | .file _ => [[]]
  | .folder entries => entryFileNames entries

def entryFileNames : List (Bytes × Node) → List (List Bytes)
  | [] => []
  | (name, node) :: rest =>
      (fileNames node).map (name :: ·) ++ entryFileNames rest

end

end Node

structure Volume where
  entries : List (Bytes × Node)
  /-- The names that lead to the folder that is worked in. -/
  work : List Bytes

namespace Volume

def root (v : Volume) : Node :=
  .folder v.entries

def empty : Volume :=
  ⟨[], []⟩

/-- The place that a path starts from. A place is given by the names that lead to it from the
outermost folder. -/
def origin (v : Volume) (path : Path) : List Bytes :=
  if Path.isAbsolute path then [] else v.work

/-- The place that parts of a path lead to. Nothing lies above the outermost folder, so that a
step upwards stays there. -/
def follow (v : Volume) : List Bytes → List Bytes → Except IoFault (List Bytes)
  | here, [] => .ok here
  | here, segment :: rest =>
      match v.root.at? here with
      | some (.folder entries) =>
          if Path.isIdle segment then follow v here rest
          else if segment == Path.dots then follow v here.dropLast rest
          else if Entries.has entries segment then follow v (here ++ [segment]) rest
          else .error .missing
      | some (.file _) => .error .notFolder
      | none => .error .missing

/-- The place that a path leads to. The empty path leads nowhere. -/
def locate (v : Volume) (path : Path) : Except IoFault (List Bytes) :=
  if Path.holdsNul path then .error .holdsNul
  else if path.isEmpty then .error .missing
  else v.follow (v.origin path) (Path.segments path)

def node (v : Volume) (path : Path) : Except IoFault Node :=
  match v.locate path with
  | .ok place =>
      match v.root.at? place with
      | some node => .ok node
      | none => .error .missing
  | .error fault => .error fault

def readBytes (v : Volume) (path : Path) : Except IoFault Bytes :=
  match v.node path with
  | .ok (.file content) => .ok content
  | .ok (.folder _) => .error .isFolder
  | .error fault => .error fault

def readText (v : Volume) (path : Path) : Except IoFault String :=
  match v.readBytes path with
  | .ok content =>
      match Text.decode content with
      | .ok cs => .ok (String.ofList cs)
      | .error _ => .error .notText
  | .error fault => .error fault

/-!
# Changes

A change that cannot be made gives nothing, except that folders which were made on the way
stay. Each function gives the volume afterwards and whether it did what it was asked for.
-/

def changeAt (v : Volume) (place : List Bytes) (f : Option Node → Option Node) : Volume :=
  { v with entries := Node.changeEntries f place v.entries }

def makeAlong (v : Volume) : List Bytes → List Bytes → Volume × Bool
  | _, [] => (v, true)
  | here, step :: rest =>
      match v.root.at? here with
      | some (.folder entries) =>
          if step == Path.dots then
            makeAlong v here.dropLast rest
          else
            let next := here ++ [step]
            match Entries.get? entries step with
            | some (.folder _) => makeAlong v next rest
            | some (.file _) => (v, false)
            | none => makeAlong (v.changeAt next fun _ => some (.folder [])) next rest
      | _ => (v, false)

def makeAbove (v : Volume) (path : Path) : Volume :=
  let above := (Path.steps path).dropLast
  if above.any Path.holdsNul then v else (v.makeAlong (v.origin path) above).1

def hasFolder (v : Volume) (path : Path) : Bool :=
  match v.node path with
  | .ok (.folder _) => true
  | _ => false

/-- Makes a folder and those above it. A path that ends in a dot names a folder that has to
be there once those above it are. -/
def makeFolder (v : Volume) (path : Path) : Volume × Bool :=
  if Path.holdsNul path then
    (v, false)
  else if Path.endsInDot path then
    let v := v.makeAbove path
    (v, v.hasFolder path)
  else
    v.makeAlong (v.origin path) (Path.steps path)

def putFile (v : Volume) (here : List Bytes) (name content : Bytes) : Volume × Bool :=
  match v.root.at? here, v.root.at? (here ++ [name]) with
  | some (.folder _), some (.folder _) => (v, false)
  | some (.folder _), _ => (v.changeAt (here ++ [name]) fun _ => some (.file content), true)
  | _, _ => (v, false)

def writeFile (v : Volume) (path : Path) (content : Bytes) : Volume × Bool :=
  let v := v.makeAbove path
  let segments := Path.segments path
  match segments.getLast?, v.follow (v.origin path) segments.dropLast with
  | some name, .ok here =>
      if Path.isIdle name || name == Path.dots || Path.holdsNul path then (v, false)
      else v.putFile here name content
  | _, _ => (v, false)

def removeFile (v : Volume) (path : Path) : Volume × Bool :=
  match v.readBytes path, v.locate path with
  | .ok _, .ok place => (v.changeAt place fun _ => none, true)
  | _, _ => (v, false)

end Volume

end FindingLedger
