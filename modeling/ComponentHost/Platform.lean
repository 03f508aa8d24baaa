/-
# What a host stands on

Some of what a host does depends on the system that it runs on.  A platform says how,
and it is the same for as long as the host runs:

| What it says | Where it counts |
|--------------|-----------------|
| `workingDirectory` | where relative paths start |
| `mediaType?` | the media types that `MediaType.table` leaves out |

Nothing else is known of a platform, so what is stated of hosts holds on all of them.
The plainest one is `atRoot`.
-/

import ComponentHost.Path

namespace ComponentHost

/-- The system that a host runs on. -/
class Platform where
  /-- The names from the root directory down to the working directory. -/
  workingDirectory : List Bytes
  /-- The working directory is reached by names alone. -/
  isName_of_mem : ∀ name ∈ workingDirectory, Path.IsName name
  /-- The media type of an extension that is not a listed one. -/
  mediaType? : String → Option String

/-- A platform whose working directory is the root, and that knows the listed media types
only. -/
@[reducible]
def Platform.atRoot : Platform where
  workingDirectory := []
  isName_of_mem := List.forall_mem_nil _
  mediaType? _ := none

/-- The absolute path without `.`, `..` and spare slashes.  Relative paths start in the
working directory, `..` takes the name before it away without looking at any directory,
and the empty path stays empty. -/
def Path.absolute [Platform] (p : Path) : Path :=
  if p.bytes = [] then p
  else
    let place := p.components.foldl Component.descend Platform.workingDirectory.reverse
    ofNames place.reverse

example [Platform] : (Path.ofString "//a/../../b/.").absolute = Path.ofString "/b" := rfl
example [Platform] (h : Platform.workingDirectory = [Utf8.encode "srv"]) :
    (Path.ofString "./a/../b").absolute = Path.ofString "/srv/b" := by
  rw [Path.absolute, h]
  decide

end ComponentHost
