/-
# Instance identities

An instance keeps its state in the browser for as long as its identity stays the
same.  The identity is the SHA-256 digest of a list of fields, each with its
length in eight octets before it:

| Field | Octets |
|-------|--------|
| mode | `key` or `args` |
| element kind | as given |
| component name | as declared |
| source kind | `url` or `path` |
| source | the address, or the text of the absolute directory |
| with a key | the key |
| without one | the JSON arguments, then each table's name and data |

With a key the arguments do not enter, so they can change while the state is
kept; without one every argument does.
-/

import ComponentHost.Declaration
import ComponentHost.Digest.Sha256
import ComponentHost.Instance.Call

namespace ComponentHost
namespace Identity

/-- What an identity rests on beside the component: a key, or all arguments. -/
inductive Basis where
  | key (key : String)
  | arguments (args : MarshalledArguments)
  deriving DecidableEq, Repr

/-- The name of a basis. -/
def Basis.mode : Basis → String
  | .key _ => "key"
  | .arguments _ => "args"

/-- The fields of a basis. -/
def Basis.fields : Basis → List Bytes
  | .key k => [Utf8.encode k]
  | .arguments args =>
    Utf8.encode args.json :: args.tables.flatMap fun table => [Utf8.encode table.key, table.data]

variable [Platform]

/-- The fields of a source: its kind and its text. -/
def sourceFields : Source → List Bytes
  | .url address => [Utf8.encode "url", Utf8.encode address]
  | .path p => [Utf8.encode "path", Utf8.encode p.absolute.toText]

/-- The fields of an identity. -/
def fields (elementKind : String) (c : Declaration) (basis : Basis) : List Bytes :=
  [Utf8.encode basis.mode, Utf8.encode elementKind, Utf8.encode c.name] ++
    sourceFields c.source ++ basis.fields

/-- A field after its length in eight octets, the least significant first. -/
def writeField (field : Bytes) : Bytes := Bytes.littleEndian 8 field.length ++ field

/-- The octets that an identity is the digest of. -/
def input (elementKind : String) (c : Declaration) (basis : Basis) : Bytes :=
  (fields elementKind c basis).flatMap writeField

/-- The identity with an input: its digest in hexadecimal digits. -/
def ofInput (octets : Bytes) : String := Sha256.hexDigest octets

/-- The basis of a call's identity: its key if it has one. -/
def Basis.ofCall (key : Option String) (args : MarshalledArguments) : Basis :=
  match key with
  | some k => .key k
  | none => .arguments args

end Identity
end ComponentHost
