import FindingLedger.Entries
import FindingLedger.Source.File

/-!
# Access to source files

Findings are identified with the help of the source text. How that text is come by is left
open: all that is asked for is the lines and the bytes of a file by its path.
-/

namespace FindingLedger

structure Sources where
  /-- A line of a file, counted from one, if the file and the line are there. -/
  line? : String → Nat → Option String
  bytes? : String → Option Bytes

namespace Sources

def ofLookup (find? : String → Option Source.File) : Sources where
  line? path n := (find? path).bind fun f => f.line? n
  bytes? path := (find? path).map Source.File.bytes

def fileTable (files : List (String × Bytes)) : List (String × Source.File) :=
  files.foldl (fun table f => Entries.put table f.1 (Source.File.ofBytes f.2)) []

def ofFiles (files : List (String × Bytes)) : Sources :=
  let table := fileTable files
  ofLookup fun path => Entries.get? table path

end Sources

end FindingLedger
