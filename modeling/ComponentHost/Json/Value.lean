/-
# JSON values and their text

Values are compared by structure; the members of an object stand in increasing
order of their names, one per name (`Value.ofMembers` makes them so).

The text has no spaces.  In a string only these are written by an escape:

| Character | Written |
|-----------|---------|
| quote, backslash | after a backslash |
| U+0008, U+0009, U+000A, U+000C, U+000D | `\b`, `\t`, `\n`, `\f`, `\r` |
| others below U+0020 | `\u00xx`, in lower case |
-/

import ComponentHost.ByName
import ComponentHost.Bytes
import ComponentHost.Json.Number

namespace ComponentHost
namespace Json

/-- A JSON value. -/
inductive Value where
  | null
  | bool (b : Bool)
  | number (n : Number)
  | string (text : String)
  | array (items : List Value)
  | object (members : List (String × Value))

namespace Value

instance : Inhabited Value := ⟨.null⟩

/-- The object of members in the order in which they were given: the last of a
name counts. -/
def ofMembers (members : List (String × Value)) : Value :=
  .object (members.foldl (fun m e => ByName.insertEntry e.1 e.2 m) [])

/-- The object of a map. -/
def ofByName (m : ByName Value) : Value := .object m.entries

end Value

/-- A character of a string as it is written between the quotes. -/
def escape (c : Char) : List Char :=
  if c = '"' then ['\\', '"']
  else if c = '\\' then ['\\', '\\']
  else if c = '\x08' then ['\\', 'b']
  else if c = '\t' then ['\\', 't']
  else if c = '\n' then ['\\', 'n']
  else if c = '\x0c' then ['\\', 'f']
  else if c = '\r' then ['\\', 'r']
  else if c.toNat < 0x20 then
    ['\\', 'u', '0', '0', Bytes.hexDigit (c.toNat / 16), Bytes.hexDigit (c.toNat % 16)]
  else [c]

/-- A string between quotes. -/
def writeString (text : String) : List Char := '"' :: text.toList.flatMap escape ++ ['"']

mutual

/-- The text of a value. -/
def Value.write : Value → List Char
  | .null => ['n', 'u', 'l', 'l']
  | .bool true => ['t', 'r', 'u', 'e']
  | .bool false => ['f', 'a', 'l', 's', 'e']
  | .number n => n.write
  | .string text => writeString text
  | .array items => '[' :: (Value.writeItems items ++ [']'])
  | .object members => '\x7b' :: (Value.writeMembers members ++ ['\x7d'])

/-- The texts of values with commas between them. -/
def Value.writeItems : List Value → List Char
  | [] => []
  | [v] => v.write
  | v :: rest => v.write ++ ',' :: Value.writeItems rest

/-- The texts of members with commas between them. -/
def Value.writeMembers : List (String × Value) → List Char
  | [] => []
  | [(name, v)] => writeString name ++ ':' :: v.write
  | (name, v) :: rest => writeString name ++ ':' :: (v.write ++ ',' :: Value.writeMembers rest)

end

/-- The text of a value. -/
def Value.text (v : Value) : String := String.ofList v.write

example : (Value.ofMembers [("b", .bool true), ("a", .null), ("b", .array [])]).text =
    "\x7b\"a\":null,\"b\":[]\x7d" := by decide

end Json
end ComponentHost
