/-
# Loading assets

A request is answered from the bundle of the component it names.  Two guards keep
it inside:

| Guard | Refuses |
|-------|---------|
| `resolveWithin` | paths that begin with a slash or hold a `..` anywhere |
| `readWithin` | files whose location, links followed, is not below the bundle's |

The first cause that applies, in this order, refuses a request: the component is
not registered or is remote; the path is rejected; the bundle's directory, then
the file cannot be located; the file lies outside; it cannot be read.
-/

import ComponentHost.Asset.Request
import ComponentHost.MediaType
import ComponentHost.Registry

namespace ComponentHost

/-- A file of a bundle, ready to be served. -/
structure Asset where
  /-- The file's path, links not followed. -/
  path : Path
  body : Bytes
  contentType : String
  cacheControl : String
  deriving DecidableEq, Repr

/-- Why a file cannot be read. -/
inductive ReadError where
  | system (fault : FileTree.Fault)
  | outsideBundle
  deriving DecidableEq, Repr

/-- Why a request gets no asset. -/
inductive Refusal where
  | unknownComponent
  | rejectedPath
  /-- The file at `path` cannot be read. -/
  | unreadable (path : Path) (cause : ReadError)
  deriving DecidableEq, Repr

/-- What is said of a path that leaves its bundle. -/
def escapes : String := "path escapes the component directory"

/-- The text of a read error. -/
def ReadError.message : ReadError → String
  | .system fault => fault.message
  | .outsideBundle => escapes

/-- The reason given for a refusal. -/
def Refusal.reason : Refusal → String
  | .unknownComponent => "not found"
  | .rejectedPath => "read error: " ++ escapes
  | .unreadable _ cause => "read error: " ++ cause.message

namespace Asset

/-- Goes from a directory's path through components that do not leave it. -/
def descend (path : Path) : List Path.Component → Option Path
  | [] => some path
  | .normal name :: rest => descend (path.child name) rest
  | .current :: rest => descend path rest
  | .parent :: _ | .root :: _ => none

/-- The path of a file below a directory, unless its relative path could leave it. -/
def resolveWithin (root : Path) (relativePath : String) : Option Path :=
  descend root (Path.ofString relativePath).components

/-- The octets of a file, if its location is below that of a directory. -/
def readWithin (tree : FileTree) (root path : Path) : Except ReadError Bytes :=
  match tree.canonicalize root with
  | .error fault => .error (.system fault)
  | .ok bundle =>
    match tree.canonicalize path with
    | .error fault => .error (.system fault)
    | .ok location =>
      if bundle.isPrefixOf location then
        match tree.read location with
        | .error fault => .error (.system fault)
        | .ok body => .ok body
      else .error .outsideBundle

/-- The asset that a request asks for. -/
def find [Platform] (tree : FileTree) (r : Registry) (request : AssetRequest) :
    Except Refusal Asset :=
  match r.directory? request.componentName with
  | none => .error .unknownComponent
  | some root =>
    match resolveWithin root request.documentPath with
    | none => .error .rejectedPath
    | some path =>
      match readWithin tree root path with
      | .error cause => .error (.unreadable path cause)
      | .ok body =>
        .ok ⟨path, body, MediaType.ofPath path, ComponentHost.cacheControl request.relativePath⟩

/-- What is logged about a request and its outcome. -/
def report (text : String) : Except Refusal Asset → List LogLine
  | .ok asset => [⟨.debug, "Component asset GET: " ++ text ++ " -> " ++ asset.path.toText⟩]
  | .error .unknownComponent => [⟨.debug, "Asset request for unknown component: " ++ text⟩]
  | .error .rejectedPath => [⟨.debug, "Rejected asset path outside component root: " ++ text⟩]
  | .error (.unreadable path cause) =>
    [⟨.debug, "Component asset GET: " ++ text ++ " -> " ++ path.toText⟩,
      ⟨.debug, "Asset read failed for " ++ text ++ ": " ++ cause.message⟩]

/-- Answers the text of a request with an asset, or with the error that there is
none. -/
def load [Platform] (tree : FileTree) (r : Registry) (text : String) :
    Logged (Except Error Asset) :=
  let found := find tree r (.parse text)
  ⟨found.mapError fun refusal => .assetNotFound text refusal.reason, report text found⟩

end Asset
end ComponentHost
