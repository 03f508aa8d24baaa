/-
# Errors

What can go wrong where a caller sees it, and the text that is shown.

| Error | Text |
|-------|------|
| `configuration` | `Configuration error: ` and the message |
| `usage` | the message |
| `marshalling` | `Could not convert component args to JSON: ` and the message |
| `tableEncoding` | `Could not encode table argument '…': ` and the message |
| `assetNotFound` | the request path, a blank, and the reason |
-/

import ComponentHost.Json.Datum

namespace ComponentHost

/-- A failure that a caller sees. -/
inductive Error where
  | configuration (message : String)
  | usage (message : String)
  /-- An argument has no JSON value; `source` is the encoding error behind it. -/
  | marshalling (message : String) (source : Option Json.EncodingError)
  | tableEncoding (argument message : String)
  | assetNotFound (path reason : String)
  deriving DecidableEq, Repr

namespace Error

/-- The text of an error. -/
def message : Error → String
  | .configuration message => "Configuration error: " ++ message
  | .usage message => message
  | .marshalling message _ => "Could not convert component args to JSON: " ++ message
  | .tableEncoding argument message =>
    "Could not encode table argument '" ++ argument ++ "': " ++ message
  | .assetNotFound path reason => path ++ " " ++ reason

/-- The encoding error behind an error. -/
def source? : Error → Option Json.EncodingError
  | .marshalling _ source => source
  | _ => none

/-- Whether an error says that there is no such asset. -/
def isAssetNotFound : Error → Bool
  | .assetNotFound .. => true
  | _ => false

/-- An argument has no JSON value. -/
def unencodable (e : Json.EncodingError) : Error := .marshalling e.message (some e)

/-- A component has both a directory and an address, or neither. -/
def sourceChoice : Error :=
  .configuration "Either 'path' or 'url' must be set, but not both."

/-- A component's directory is not there. -/
def missingDirectory (directory : String) : Error :=
  .configuration ("No such component directory: '" ++ directory ++ "'")

/-- An argument was given without a name. -/
def unlabelled (value : String) : Error := .usage ("Argument '" ++ value ++ "' needs a label")

end Error
end ComponentHost
