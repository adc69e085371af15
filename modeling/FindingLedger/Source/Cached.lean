import FindingLedger.Source.Sources
import FindingLedger.Volume.Basic

/-!
# Reading files once

A reader of source files keeps what it has read, and also that a file could not be read,
so that all that it says about a path agrees however the files change.
-/

namespace FindingLedger

def Volume.sourceFile? (v : Volume) (path : Path) : Option Source.File :=
  (v.readBytes path).toOption.map Source.File.ofBytes

def Volume.sources (v : Volume) (root : Option Path) : Sources :=
  Sources.ofLookup fun path => v.sourceFile? (Path.resolve root path)

structure CachedReader where
  root : Option Path
  cache : List (String × Option Source.File)

namespace CachedReader

def start (root : Option Path) : CachedReader :=
  ⟨root, []⟩

/-- Looks at a path: what was found there first, and the reader afterwards. -/
def look (r : CachedReader) (v : Volume) (path : String) : Option Source.File × CachedReader :=
  match Entries.get? r.cache path with
  | some found => (found, r)
  | none =>
      let found := v.sourceFile? (Path.resolve r.root path)
      (found, { r with cache := r.cache ++ [(path, found)] })

def readLine (r : CachedReader) (v : Volume) (path : String) (line : Nat) :
    Option String × CachedReader :=
  let (found, r) := r.look v path
  (found.bind fun f => f.line? line, r)

def readBytes (r : CachedReader) (v : Volume) (path : String) : Option Bytes × CachedReader :=
  let (found, r) := r.look v path
  (found.map Source.File.bytes, r)

def size (r : CachedReader) : Nat :=
  r.cache.length

end CachedReader

end FindingLedger
