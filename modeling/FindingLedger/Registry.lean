import FindingLedger.Digest
import FindingLedger.Entries
import FindingLedger.Json.Write

/-!
# The file registry

The registry keeps the files that reports refer to. Every path that was registered has
the digest of its content, or none if there was no content, and each content is kept once
under its digest.
-/

namespace FindingLedger

/-- Registered paths and the contents behind them, in the order of registration. -/
structure Registry where
  paths : List (String × Option String)
  contents : List (String × Bytes)
  deriving DecidableEq, Repr

structure FileRecord where
  path : String
  digest : Option String
  content : Option Bytes
  deriving DecidableEq, Repr

namespace Registry

def empty : Registry :=
  ⟨[], []⟩

/-- Registers a path with what was read of it, contents being told apart by a digest. The
first registration of a path counts. -/
def registerWith (digest : Bytes → String) (r : Registry) (path : String)
    (content : Option Bytes) : Registry :=
  if Entries.has r.paths path then
    r
  else
    { paths := r.paths ++ [(path, content.map digest)]
      contents :=
        match content with
        | some bytes => Entries.putNew r.contents (digest bytes) bytes
        | none => r.contents }

def register (r : Registry) (path : String) (content : Option Bytes) : Registry :=
  registerWith Digest.ofBytes r path content

def size (r : Registry) : Nat :=
  r.paths.length

def isEmpty (r : Registry) : Bool :=
  r.paths.isEmpty

def pathList (r : Registry) : List String :=
  Entries.keys r.paths

def digestOf? (r : Registry) (path : String) : Option String :=
  (Entries.get? r.paths path).join

def contentOf? (r : Registry) (digest : String) : Option Bytes :=
  Entries.get? r.contents digest

def uniqueContents (r : Registry) : Nat :=
  r.contents.length

def unreadable (r : Registry) : List String :=
  (r.paths.filter fun entry => entry.2.isNone).map Prod.fst

def records (r : Registry) : List FileRecord :=
  r.paths.map fun entry => ⟨entry.1, entry.2, entry.2.bind r.contentOf?⟩

def toJson (r : Registry) : Json :=
  .ofMembers (r.paths.map fun entry => (entry.1, Json.ofOption entry.2))

end Registry

end FindingLedger
