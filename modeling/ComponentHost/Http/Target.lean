/-
# Request targets

The target of a request is a path with an optional query, a whole address, or
`*`.  Only the path counts:

| Target | Path |
|--------|------|
| begins with a slash | up to the first `?` or `#` |
| `scheme://authority…` | the same of what follows the authority, or `/` if that is nothing |
| `*` | `*` |
| an authority alone | nothing |

An escape is `%` and two hexadecimal digits and stands for one octet.  A `%`
without two such digits stands for itself.
-/

import ComponentHost.Settings
import ComponentHost.Text.Utf8

namespace ComponentHost
namespace Http

/-- What stands before the query and the fragment. -/
def beforeQuery (cs : List Char) : List Char := cs.takeWhile fun c => c ≠ '?' ∧ c ≠ '#'

/-- What follows the first `://`. -/
def afterScheme? : List Char → Option (List Char)
  | ':' :: '/' :: '/' :: rest => some rest
  | _ :: rest => afterScheme? rest
  | [] => none

/-- The path of a target. -/
def targetPath (target : String) : String :=
  let cs := target.toList
  if cs = ['*'] then target
  else if cs.head? = some '/' then String.ofList (beforeQuery cs)
  else match afterScheme? (beforeQuery cs) with
    | none => ""
    | some rest =>
      let path := rest.dropWhile (· ≠ '/')
      if path.isEmpty then "/" else String.ofList path

/-- The value of an octet that is a hexadecimal digit. -/
def hexOctet? (b : UInt8) : Option Nat := Bytes.hexValue? (Char.ofNat b.toNat)

/-- The octet that opens an escape. -/
def percent : UInt8 := 0x25

/-- The octets that escaped octets stand for. -/
def unescapeOctets : Bytes → Bytes
  | [] => []
  | [b] => [b]
  | [b, c] => [b, c]
  | b :: high :: low :: rest =>
    if b = percent then
      match hexOctet? high, hexOctet? low with
      | some h, some l => UInt8.ofNat (16 * h + l) :: unescapeOctets rest
      | _, _ => b :: unescapeOctets (high :: low :: rest)
    else b :: unescapeOctets (high :: low :: rest)

/-- The text that an escaped text stands for, if it is UTF-8. -/
def unescape? (text : String) : Option String := Utf8.decode? (unescapeOctets (Utf8.encode text))

/-- What follows a text that a list of characters begins with. -/
def stripFront? (front cs : List Char) : Option (List Char) :=
  if front.isPrefixOf cs then some (cs.drop front.length) else none

/-- The path of a request below the asset route, still escaped: without slashes
at its front, the route's segment and the slashes after that. -/
def rawRequestPath (path : String) : String :=
  let cs := path.toList.dropWhile (· = '/')
  match stripFront? Settings.routePrefix.toList cs with
  | some rest => String.ofList (rest.dropWhile (· = '/'))
  | none => String.ofList cs

example : targetPath "http://h/x?q" = "/x" := by decide +kernel
example : unescape? "a%2Fb%zz+%" = some "a/b%zz+%" := by decide +kernel

end Http
end ComponentHost
