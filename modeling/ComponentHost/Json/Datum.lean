/-
# Typed data and their JSON values

A `Datum` is a value as a program holds it, with its type: floating point and
wide integers, characters, octets, options, variants, sequences and maps.  Not
every datum has a JSON value; `encode` gives the first reason why not, reading
from left to right and in a map each key before its value.

| Datum | JSON value |
|-------|-----------|
| NaN, infinities | `null` |
| integers that fit 64 bits | the number; others fail |
| octets | an array of numbers |
| an absent value, unit | `null` |
| a present value | the value's |
| a variant with a value | an object of one member |
| a map | an object; the last value of a key counts |
-/

import ComponentHost.Json.Position
import ComponentHost.Json.Value

namespace ComponentHost
namespace Json

/-- Why a datum has no JSON value. -/
inductive EncodingError where
  | numberOutOfRange
  | keyNotFinite
  | keyNotText
  /-- What the datum's own encoding reports, and the position that it names. -/
  | custom (message : String) (position : Option Position)
  deriving DecidableEq, Repr

/-- The encoding error that a datum reports in its own words. -/
def EncodingError.reported (message : String) : EncodingError :=
  match readPosition? message.toList with
  | some (before, position) => .custom (String.ofList before) (some position)
  | none => .custom message none

/-- The text of an encoding error. -/
def EncodingError.message : EncodingError → String
  | .numberOutOfRange => "number out of range"
  | .keyNotFinite => "float key must be finite (got NaN or +/-inf)"
  | .keyNotText => "key must be a string"
  | .custom message none => message
  | .custom message (some position) => message ++ position.text

/-- A key of a map. -/
inductive Key where
  | text (s : String)
  | integer (n : Int)
  | bool (b : Bool)
  | char (c : Char)
  /-- A floating point number; `none` stands for NaN and the infinities. -/
  | float (x : Option Binary64)
  | unit
  | absent
  | tuple
  deriving DecidableEq

/-- A typed value. -/
inductive Datum where
  | json (v : Value)
  /-- A floating point number; `none` stands for NaN and the infinities. -/
  | float (x : Option Binary64)
  | integer (n : Int)
  | char (c : Char)
  | bytes (bs : Bytes)
  | absent
  | unit
  | present (d : Datum)
  | unitVariant (name : String)
  | variant (name : String) (d : Datum)
  | seq (items : List Datum)
  | map (entries : List (Key × Datum))
  | failing (message : String)

/-- The member name that a key becomes. -/
def Key.encode : Key → Except EncodingError String
  | .text s => .ok s
  | .integer n => .ok (String.ofList (Number.whole n).write)
  | .bool b => .ok (if b then "true" else "false")
  | .char c => .ok (String.singleton c)
  | .float (some x) => .ok (String.ofList (Number.binary x).write)
  | .float none => .error .keyNotFinite
  | .unit | .absent | .tuple => .error .keyNotText

mutual

/-- The JSON value of a datum, or the first failure. -/
def Datum.encode : Datum → Except EncodingError Value
  | .json v => .ok v
  | .float (some x) => .ok (.number (.binary x))
  | .float none => .ok .null
  | .integer n => if Number.Fits n then .ok (.number (.whole n)) else .error .numberOutOfRange
  | .char c => .ok (.string (String.singleton c))
  | .bytes bs => .ok (.array (bs.map fun b => .number (.whole b.toNat)))
  | .absent | .unit => .ok .null
  | .present d => d.encode
  | .unitVariant name => .ok (.string name)
  | .variant name d => do return .object [(name, ← d.encode)]
  | .seq items => do return .array (← Datum.encodeItems items)
  | .map entries => do return .ofMembers (← Datum.encodeEntries entries)
  | .failing message => .error (.reported message)

/-- The JSON values of a sequence, or the first failure. -/
def Datum.encodeItems : List Datum → Except EncodingError (List Value)
  | [] => .ok []
  | d :: rest => do
    let v ← d.encode
    let vs ← Datum.encodeItems rest
    return v :: vs

/-- The members of a map, or the first failure. -/
def Datum.encodeEntries : List (Key × Datum) → Except EncodingError (List (String × Value))
  | [] => .ok []
  | (key, d) :: rest => do
    let name ← key.encode
    let v ← d.encode
    let members ← Datum.encodeEntries rest
    return (name, v) :: members

end

example : (Datum.map [(.tuple, .failing "never")]).encode.isOk = false := by decide

end Json
end ComponentHost
