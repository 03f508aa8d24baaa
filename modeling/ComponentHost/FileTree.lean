/-
# File trees

A file tree says what stands at each location, and what the process that looks may
do there.  A location is the list of names from the root directory down, so it holds
no link, no `.` and no `..`.

| Entry | Holds |
|-------|-------|
| `directory` | nothing of its own; what is below it has longer locations |
| `file body` | its octets |
| `symlink target` | the path it stands for |

Only `entryAt` is ever asked: an entry below something that is no directory is
never reached, whatever the list of entries says.  The root is always a
directory.

| Right | At a file | At a directory |
|-------|-----------|----------------|
| `read` | to have its octets | to open it |
| `search` | nothing | to reach the entries in it by their names |

A process has every right that is not denied, and one that runs with all privileges
is denied nothing.  Links need no right of their own.  Entries of other kinds, such as
sockets, are left out, and so are devices that fail.
-/

import ComponentHost.Path

namespace ComponentHost

/-- The names from the root directory down to an entry. -/
abbrev Location := List Bytes

/-- What stands at a location. -/
inductive Entry where
  | directory
  | file (body : Bytes)
  | symlink (target : Path)
  deriving DecidableEq, Repr

/-- What a process may do at a location. -/
inductive AccessRight where
  | read
  | search
  deriving DecidableEq, Repr

/-- Entries by location, of which the first for a location counts, and what is denied
the process that looks at them. -/
structure FileTree where
  entries : List (Location × Entry)
  denied : List (Location × AccessRight) := []

namespace FileTree

/-- The tree of a root directory without entries. -/
def empty : FileTree := { entries := [] }

/-- What stands at a location. -/
def entryAt (tree : FileTree) : Location → Option Entry
  | [] => some .directory
  | location => tree.entries.lookup location

/-- A right is not denied at a location. -/
def Permits (tree : FileTree) (right : AccessRight) (location : Location) : Prop :=
  (location, right) ∉ tree.denied

instance (tree : FileTree) (right : AccessRight) (location : Location) :
    Decidable (tree.Permits right location) :=
  inferInstanceAs (Decidable ((location, right) ∉ tree.denied))

/-- Puts an entry at a location, in place of what stood there. -/
def put (tree : FileTree) (location : Location) (entry : Entry) : FileTree :=
  { tree with entries := (location, entry) :: tree.entries.filter (·.1 ≠ location) }

/-- Takes the entry at a location away, with everything below it. -/
def removeAt (tree : FileTree) (location : Location) : FileTree where
  entries := tree.entries.filter fun e => !location.isPrefixOf e.1
  denied := tree.denied.filter fun d => !location.isPrefixOf d.1

/-- Grants or denies a right at a location. -/
def setRight (tree : FileTree) (location : Location) (right : AccessRight) (granted : Bool) :
    FileTree :=
  let others := tree.denied.filter (· ≠ (location, right))
  { tree with denied := if granted then others else (location, right) :: others }

/-- The tree as it is for a process that is denied nothing. -/
def unrestricted (tree : FileTree) : FileTree := { tree with denied := [] }

/-- Why a path leads to no readable file. -/
inductive Fault where
  | nulInPath
  | notFound
  | permissionDenied
  | notDirectory
  | isDirectory
  | nameTooLong
  | tooManyLinks
  deriving DecidableEq, Repr

/-- The text of a fault. -/
def Fault.message : Fault → String
  | .nulInPath => "file name contained an unexpected NUL byte"
  | .notFound => "No such file or directory (os error 2)"
  | .permissionDenied => "Permission denied (os error 13)"
  | .notDirectory => "Not a directory (os error 20)"
  | .isDirectory => "Is a directory (os error 21)"
  | .nameTooLong => "File name too long (os error 36)"
  | .tooManyLinks => "Too many levels of symbolic links (os error 40)"

/-! ### Where a path leads -/

/-- The longest name of an entry, in octets. -/
def maxName : Nat := 255

/-- The longest path that can be looked up at once, in octets. -/
def maxPath : Nat := 4095

/-- How many links one look-up follows. -/
def maxLinks : Nat := 40

/-- Where the target of a link in a directory starts from. -/
def linkBase (target : Path) (directory : Location) : Location :=
  if target.bytes.head? = some Path.slash then [] else directory

/-- How a look-up names the entries on its way. -/
inductive Manner where
  /-- By their path from the root, which must not be longer than `maxPath`. -/
  | byPath
  /-- By their name in the directory before. -/
  | byName
  deriving DecidableEq, Repr

/-- Whether an entry cannot be named because its path is too long. -/
def Manner.refuses (manner : Manner) (location : Location) : Bool :=
  manner = .byPath ∧ maxPath < (Path.ofNames location).bytes.length

/-- Whether a segment is looked for in the directory before it.  By path only names
are: of what stays or goes up, it is enough that the path before leads to a directory. -/
def Manner.searches : Manner → Bytes → Bool
  | .byPath, s => s ∉ [[], [Path.dot], [Path.dot, Path.dot]]
  | .byName, s => s ≠ []

/-- What keeps a look-up from going on with a segment at a location, whatever the
segment leads to there. -/
def obstruction? (tree : FileTree) (manner : Manner) (here : Location) (s : Bytes) :
    Option Fault :=
  if tree.entryAt here ≠ some .directory then some .notDirectory
  else if manner.searches s ∧ ¬ tree.Permits .search here then some .permissionDenied
  else none

/-- How far a walk over segments came. -/
inductive Walk where
  /-- All segments are used up. -/
  | arrived (location : Location)
  /-- A link was met: the walk goes on from a location with the link's segments
  before the remaining ones. -/
  | linked (location : Location) (segments : List Bytes)
  | failed (fault : Fault)
  deriving DecidableEq, Repr

/-- Walks segments from a location on, up to the first link.  Empty segments and
`.` stay, `..` goes up, and all three need a directory to stand in.  A path that is
too long is refused before anything is looked at, a name only where it is looked for. -/
def walk (tree : FileTree) (manner : Manner) (here : Location) : List Bytes → Walk
  | [] => .arrived here
  | s :: rest =>
    if s = [] ∨ s = [Path.dot] then
      match tree.obstruction? manner here s with
      | some fault => .failed fault
      | none => walk tree manner here rest
    else if s = [Path.dot, Path.dot] then
      match tree.obstruction? manner here s with
      | some fault => .failed fault
      | none => walk tree manner here.dropLast rest
    else if manner.refuses (here ++ [s]) then .failed .nameTooLong
    else match tree.obstruction? manner here s with
      | some fault => .failed fault
      | none =>
        if maxName < s.length then .failed .nameTooLong
        else match tree.entryAt (here ++ [s]) with
          | none => .failed .notFound
          | some (.symlink target) => .linked (linkBase target here) (target.segments ++ rest)
          | some _ => walk tree manner (here ++ [s]) rest

/-- Walks segments from a location on, following at most the given number of links. -/
def follow (tree : FileTree) (manner : Manner) :
    Nat → Location → List Bytes → Except Fault Location
  | links, here, segments =>
    match tree.walk manner here segments with
    | .arrived location => .ok location
    | .failed fault => .error fault
    | .linked location segments =>
      match links with
      | 0 => .error .tooManyLinks
      | links + 1 => tree.follow manner links location segments

/-- The location a path leads to, links followed.  A host looks up paths that were made
absolute, and what stays empty; a relative path would start at the root. -/
def lookUp (tree : FileTree) (manner : Manner) (p : Path) : Except Fault Location :=
  if p.bytes.contains 0 then .error .nulInPath
  else if p.bytes = [] then .error .notFound
  else tree.follow manner maxLinks [] p.segments

/-- The location a path leads to, found by the paths of the entries on the way. -/
def canonicalize (tree : FileTree) (p : Path) : Except Fault Location := tree.lookUp .byPath p

/-- Whether a path that can be looked up at once leads to a directory. -/
def isDirectory (tree : FileTree) (p : Path) : Bool :=
  match tree.lookUp .byName p with
  | .ok location => p.bytes.length ≤ maxPath ∧ tree.entryAt location = some .directory
  | .error _ => false

/-- The octets of the file at a location whose directories were searched.  A directory
can be opened, but has no octets. -/
def read (tree : FileTree) (location : Location) : Except Fault Bytes :=
  match tree.entryAt location with
  | some (.file body) =>
    if tree.Permits .read location then .ok body else .error .permissionDenied
  | some .directory =>
    .error (if tree.Permits .read location then .isDirectory else .permissionDenied)
  | some (.symlink _) => .error .tooManyLinks
  | none => .error .notFound

/-! ### Changes

Trees are changed by others than the process that looks, who are denied nothing. -/

/-- Goes from a location through segments, making the directories that are
missing.  `none` where something that is no directory is in the way. -/
def makeDirectories (tree : FileTree) (here : Location) :
    List Bytes → Option (FileTree × Location)
  | [] => some (tree, here)
  | s :: rest =>
    if s = [] ∨ s = [Path.dot] then tree.makeDirectories here rest
    else if s = [Path.dot, Path.dot] then tree.makeDirectories here.dropLast rest
    else
      let there := here ++ [s]
      match tree.entryAt there with
      | none => (tree.put there .directory).makeDirectories there rest
      | some .directory => tree.makeDirectories there rest
      | some (.file _) => none
      | some (.symlink target) =>
        match tree.unrestricted.follow .byName maxLinks (linkBase target here) target.segments with
        | .ok location =>
          if tree.entryAt location = some .directory then tree.makeDirectories location rest
          else none
        | .error _ => none

/-- The directory of a path's last name and that name, with the directories down
to it made. -/
def parentOf? (tree : FileTree) (p : Path) : Option (FileTree × Location) := do
  let names := p.segments.filter fun s => s ≠ [] ∧ s ≠ [Path.dot]
  let name ← names.getLast?
  let (tree, directory) ← tree.makeDirectories [] names.dropLast
  return (tree, directory ++ [name])

/-- Where a file is written that is named by segments from a location on: the
links that its last name stands for are followed, even if the last of them leads
to nothing yet.  `none` if that is no place for a file. -/
def writingPlace? (tree : FileTree) : Nat → Location → List Bytes → Option Location
  | links, here, segments => do
    let name ← segments.getLast?
    let directory ← (tree.unrestricted.follow .byName maxLinks here segments.dropLast).toOption
    if name ∈ [[], [Path.dot], [Path.dot, Path.dot]] ∨ maxName < name.length ∨
        tree.entryAt directory ≠ some .directory then none
    else match tree.entryAt (directory ++ [name]) with
      | none | some (.file _) => some (directory ++ [name])
      | some .directory => none
      | some (.symlink target) =>
        match links with
        | 0 => none
        | links + 1 => tree.writingPlace? links (linkBase target directory) target.segments

/-- A change of a tree at a path. -/
inductive Change where
  | write (path : Path) (body : Bytes)
  | makeDirectory (path : Path)
  | link (path target : Path)
  | remove (path : Path)
  /-- Grants or denies a right at what a path leads to. -/
  | setRight (path : Path) (right : AccessRight) (granted : Bool)
  deriving DecidableEq, Repr

/-- Carries a change out; one that something is in the way of does nothing.
Writing goes through links, to where there may be no file yet; removing takes the
link itself. -/
def apply (tree : FileTree) : Change → FileTree
  | .write path body =>
    match tree.parentOf? path with
    | none => tree
    | some (tree, there) =>
      match tree.writingPlace? maxLinks [] there with
      | some place => tree.put place (.file body)
      | none => tree
  | .makeDirectory path => ((tree.makeDirectories [] path.segments).map (·.1)).getD tree
  | .link path target =>
    match tree.parentOf? path with
    | none => tree
    | some (tree, there) =>
      match tree.entryAt there with
      | some .directory => tree
      | _ => tree.put there (.symlink target)
  | .remove path =>
    match tree.parentOf? path with
    | none => tree
    | some (_, there) => tree.removeAt there
  | .setRight path right granted =>
    match tree.unrestricted.lookUp .byName path with
    | .error _ => tree
    | .ok location => tree.setRight location right granted

/-- Carries changes out in order. -/
def applyAll (tree : FileTree) (changes : List Change) : FileTree :=
  changes.foldl apply tree

end FileTree
end ComponentHost
