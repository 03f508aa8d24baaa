/-
# HTTP messages

A request is a method and a target; nothing else of it matters here.  A response
is a status, headers by name, and a body.  The length of the body is always among
the headers, also where the body itself is left out.
-/

import ComponentHost.ByName
import ComponentHost.Bytes

namespace ComponentHost
namespace Http

/-- A request. -/
structure Request where
  method : String
  target : String
  deriving DecidableEq, Repr

/-- A response; the names of headers are in lower case. -/
structure Response where
  status : Nat
  headers : ByName String
  body : Bytes

namespace Response

/-- The response with a status, headers and a body, and the header of the body's
length. -/
def of (status : Nat) (headers : List (String × String)) (body : Bytes) : Response :=
  ⟨status,
    (headers.foldl (fun m e => m.insert e.1 e.2) ByName.empty).insert "content-length"
      (toString body.length), body⟩

/-- The response with a status and nothing to say. -/
def bare (status : Nat) : Response := of status [] []

/-- The same response without its body; its headers stay. -/
def withoutBody (r : Response) : Response := { r with body := [] }

/-- The same response with one more header. -/
def withHeader (r : Response) (name value : String) : Response :=
  { r with headers := r.headers.insert name value }

/-- The response as it goes over a connection: one without content does not tell
its length. -/
def onWire (r : Response) : Response :=
  if r.status = 204 then { r with headers := r.headers.erase "content-length" } else r

/-- The headers, each as its name, a colon, a blank and its value. -/
def headerLines (r : Response) : List String :=
  r.headers.entries.map fun e => e.1 ++ ": " ++ e.2

end Response

end Http
end ComponentHost
