/-
# Asset requests

The text of a request names a component up to the first slash; what follows that
slash, taken as it is, is the path of a file within the component's bundle.  No
such path, or an empty one, means the bundle's default document.

How long an answer may be cached is read off the request: documents must be
asked for again, all else is kept.
-/

import ComponentHost.Settings

namespace ComponentHost

/-- A request for a file of a component's bundle. -/
structure AssetRequest where
  componentName : String
  relativePath : String
  deriving DecidableEq, Repr

namespace AssetRequest

/-- Splits the text of a request at its first slash. -/
def parse (text : String) : AssetRequest :=
  let cs := text.toList
  ⟨String.ofList (cs.takeWhile (· ≠ '/')), String.ofList ((cs.dropWhile (· ≠ '/')).drop 1)⟩

/-- Whether a request asks for the default document. -/
def isIndex (request : AssetRequest) : Bool := request.relativePath = ""

/-- The path within the bundle that a request asks for. -/
def documentPath (request : AssetRequest) : String :=
  if request.isIndex then Settings.defaultDocument else request.relativePath

end AssetRequest

/-- The cache policy of the file at a path within a bundle. -/
def cacheControl (relativePath : String) : String :=
  if relativePath = "" ∨ ".html".toList.isSuffixOf relativePath.toList then Settings.mutableCacheControl
  else Settings.immutableCacheControl

/-- The address of a file of a bundle, relative to the server's root. -/
def componentUrl (fileId : String) : String := Settings.routePrefix ++ "/" ++ fileId

example : AssetRequest.parse "slider//a/" = ⟨"slider", "/a/"⟩ := by decide

end ComponentHost
