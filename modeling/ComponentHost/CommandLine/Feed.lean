/-
# What a server is fed

A server started by hand opens no files and no connections of its own.  It is
told what the file tree holds, one line each up to an empty line, and then the
requests to answer, one line each.

| Line | Says |
|------|------|
| `dir PATH` | there is a directory |
| `file PATH` or `file PATH HEX` | there is a file with these octets |
| `link PATH TARGET` | there is a link |
| `METHOD TARGET` | a request |

Lines of any other form say nothing.
-/

import ComponentHost.FileTree
import ComponentHost.Http.Message
import ComponentHost.Text.Utf8

namespace ComponentHost
namespace CommandLine

/-- The parts of a line between its blanks. -/
def fields (line : String) : List String := (line.splitOn " ").filter (· ≠ "")

/-- What a line says of the file tree. -/
def changeOfLine? (line : String) : Option FileTree.Change :=
  match fields line with
  | ["dir", path] => some (.makeDirectory (.ofString path))
  | ["file", path] => some (.write (.ofString path) [])
  | ["file", path, hex] => (Bytes.ofHex? hex).map (.write (.ofString path))
  | ["link", path, target] => some (.link (.ofString path) (.ofString target))
  | _ => none

/-- The request of a line. -/
def requestOfLine? (line : String) : Option Http.Request :=
  match fields line with
  | [method, target] => some ⟨method, target⟩
  | _ => none

/-- A response as lines: its status, its headers, an empty line and its body. -/
def responseLines (r : Http.Response) : List String :=
  toString r.status :: r.headerLines ++ ["", Utf8.decodeLossy r.body]

end CommandLine
end ComponentHost
