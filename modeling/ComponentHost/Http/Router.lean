/-
# Answering requests

| Path | `GET` | `HEAD` | `OPTIONS` | any other method |
|------|-------|--------|-----------|------------------|
| `/health` | 200 | the same, no body | 405 | 405 |
| `/components`, `/components/` | the asset of the empty request | the same, no body | 204 | 405 |
| `/components/` and a tail | the asset of the tail, escapes undone once | the same, no body | 204 | 405 |
| any other | 404 | 404 | 404 | 404 |

Paths match as they were sent, escapes and all, and methods by letter.  An asset
is answered by 200 with its media type and cache policy; a request without one by
404 and the error's text.  A tail that does not stand for a UTF-8 text is
reported as it was sent.

A host that allows cross-origin use adds one header to every response.
-/

import ComponentHost.Asset.Load
import ComponentHost.Http.Message
import ComponentHost.Http.Target

namespace ComponentHost
namespace Http

/-- What a path leads to. -/
inductive Route where
  | health
  /-- The asset route without a request. -/
  | assets
  /-- The asset route with the request's text, still escaped. -/
  | asset (tail : String)
  | unknown
  deriving DecidableEq, Repr

/-- The methods that are told apart. -/
inductive Method where
  | get
  | head
  | options
  | other
  deriving DecidableEq, Repr

/-- Reads a method, which is spelled in upper case. -/
def Method.ofString (text : String) : Method :=
  if text = "GET" then .get
  else if text = "HEAD" then .head
  else if text = "OPTIONS" then .options
  else .other

/-- What a path leads to. -/
def route (path : String) : Route :=
  if path = "/health" then .health
  else match stripFront? ('/' :: Settings.routePrefix.toList) path.toList with
    | none => .unknown
    | some [] => .assets
    | some ['/'] => .assets
    | some ('/' :: tail) => .asset (String.ofList tail)
    | some _ => .unknown

/-- The header that tells a body's media type. -/
def contentType (mediaType : String) : String × String := ("content-type", mediaType)

/-- The response to a failed asset request: the error's text. -/
def notFound (e : Error) : Response :=
  .of 404 [contentType "text/plain; charset=utf-8"] (Utf8.encode e.message)

/-- The response that serves an asset. -/
def served (asset : Asset) : Response :=
  .of 200 [contentType asset.contentType, ("cache-control", asset.cacheControl)] asset.body

/-- The response to a health check. -/
def healthy : Response :=
  .of 200 [contentType "application/json"]
    (Utf8.encode (Json.Value.object [("status", .string "ok")]).text)

/-- The response to a method that a path does not allow. -/
def notAllowed (methods : String) : Response := .of 405 [("allow", methods)] []

section

variable [Platform]

/-- Answers the text of an asset request. -/
def serve (tree : FileTree) (r : Registry) (text : String) : Logged Response := do
  match ← Asset.load tree r text with
  | .ok asset => return served asset
  | .error e =>
    Logged.say .debug ("Component asset not served: " ++ e.message)
    return notFound e

/-- Answers an asset request whose text is still escaped, sent under a path. -/
def serveEscaped (tree : FileTree) (r : Registry) (path tail : String) : Logged Response :=
  match unescape? tail with
  | some text => serve tree r text
  | none => do
    let raw := rawRequestPath path
    Logged.say .debug ("Undecodable component path " ++ raw ++ ": Invalid UTF-8 in \x60path\x60")
    return notFound (.assetNotFound raw "not found")

/-- Answers a method on an asset route, given the answer to `GET`. -/
def onAssets (method : Method) (get : Logged Response) : Logged Response :=
  match method with
  | .get => get
  | .head => Response.withoutBody <$> get
  | .options => return .bare 204
  | .other => return notAllowed "GET,HEAD,OPTIONS"

/-- Answers a request by its path and method. -/
def answer (tree : FileTree) (r : Registry) (request : Request) : Logged Response :=
  let path := targetPath request.target
  let method := Method.ofString request.method
  match route path with
  | .health =>
    match method with
    | .get => return healthy
    | .head => return healthy.withoutBody
    | _ => return notAllowed "GET,HEAD"
  | .assets => onAssets method (serve tree r "")
  | .asset tail => onAssets method (serveEscaped tree r path tail)
  | .unknown => return .bare 404

/-- What a server is told about every response. -/
structure ServerOptions where
  allowCrossOrigin : Bool
  deriving DecidableEq, Repr

/-- Answers a request to a server with options. -/
def respond (tree : FileTree) (r : Registry) (options : ServerOptions) (request : Request) :
    Logged Response :=
  if options.allowCrossOrigin then
    (·.withHeader "access-control-allow-origin" "*") <$> answer tree r request
  else answer tree r request

end

end Http
end ComponentHost
