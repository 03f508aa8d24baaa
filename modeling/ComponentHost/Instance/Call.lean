/-
# Instance calls

A call collects the arguments of one component instance.  A named argument is a
JSON value or a table; the last successful write of a name counts, whichever kind
it is.  What goes wrong on the way is kept, not raised: the positional arguments,
and the first value that could not be encoded.

Marshalling turns the arguments into what a node carries: one JSON object of all
values and the encoded tables in the order of their names.  Its failures, the
first that applies:

| Cause | Error |
|-------|-------|
| a positional argument | a usage error with the first one |
| a value that could not be encoded | a marshalling error for the first one |
| a table that cannot be encoded | the encoder's error for the least name |
-/

import ComponentHost.Error
import ComponentHost.Log

namespace ComponentHost

/-- A named argument: a JSON value or a table of the host's. -/
inductive Argument (T : Type) where
  | json (value : Json.Value)
  | table (rows : T)

/-- An encoded table, under the name of its argument. -/
structure TableArgument where
  key : String
  data : Bytes
  deriving DecidableEq, Repr

/-- Arguments as a node carries them. -/
structure MarshalledArguments where
  json : String
  tables : List TableArgument
  deriving DecidableEq, Repr

/-- The arguments and options of one instance. -/
structure Call (T : Type) where
  positional : List String
  arguments : ByName (Argument T)
  key : Option String
  default : Option Json.Value
  /-- The first value that could not be encoded: its name and why. -/
  unencodable : Option (String × Json.EncodingError)

namespace Call

variable {T : Type}

/-- The call without arguments. -/
def empty : Call T := ⟨[], .empty, none, none, none⟩

/-- Notes an encoding failure, unless there was one before. -/
def noteFailure (call : Call T) (name : String) (e : Json.EncodingError) : Call T :=
  { call with unencodable := call.unencodable.or (some (name, e)) }

/-- One step of putting a call together. -/
inductive Step (T : Type) where
  | positional (value : String)
  | argument (name : String) (value : Json.Datum)
  | table (name : String) (rows : T)
  | key (key : String)
  | default (value : Json.Datum)

/-- Takes a step.  A value that cannot be encoded is noted and changes nothing
else; an encoded one replaces what was there. -/
def add (call : Call T) : Step T → Call T
  | .positional value => { call with positional := call.positional ++ [value] }
  | .argument name value =>
    match value.encode with
    | .ok v => { call with arguments := call.arguments.insert name (.json v) }
    | .error e => call.noteFailure name e
  | .table name rows => { call with arguments := call.arguments.insert name (.table rows) }
  | .key key => { call with key := some key }
  | .default value =>
    match value.encode with
    | .ok v => { call with default := some v }
    | .error e => call.noteFailure "default" e

/-- The call put together by steps, in order. -/
def ofSteps (steps : List (Step T)) : Call T := steps.foldl add empty

/-- The JSON arguments among entries, in their order. -/
def jsonMembers : List (String × Argument T) → List (String × Json.Value)
  | [] => []
  | (name, .json v) :: rest => (name, v) :: jsonMembers rest
  | (_, .table _) :: rest => jsonMembers rest

/-- The tables among entries, encoded in their order, or the first failure. -/
def encodeTables (encoder : T → Except Error Bytes) :
    List (String × Argument T) → Except Error (List TableArgument)
  | [] => .ok []
  | (_, .json _) :: rest => encodeTables encoder rest
  | (name, .table rows) :: rest => do
    let data ← encoder rows
    let tables ← encodeTables encoder rest
    return ⟨name, data⟩ :: tables

/-- The encoded arguments of a call, or the first cause why there are none. -/
def marshal (encoder : T → Except Error Bytes) (call : Call T) :
    Except Error MarshalledArguments :=
  match call.positional with
  | value :: _ => .error (.unlabelled value)
  | [] =>
    match call.unencodable with
    | some (_, e) => .error (.unencodable e)
    | none => do
      let tables ← encodeTables encoder call.arguments.entries
      return ⟨(Json.Value.object (jsonMembers call.arguments.entries)).text, tables⟩

/-- What marshalling logs: the name of the value that could not be encoded. -/
def marshalLog (call : Call T) : List LogLine :=
  match call.positional, call.unencodable with
  | [], some (name, _) => [⟨.debug, "Argument '" ++ name ++ "' is not JSON-encodable"⟩]
  | _, _ => []

end Call
end ComponentHost
