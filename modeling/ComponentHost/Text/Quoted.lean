/-
# Quoted text

Texts in quotes, for log lines.  A quote, a backslash and the controls with a
name of their own are written after a backslash, all else that cannot be seen by
its number: `\u{1b}`.
-/

import ComponentHost.Text.Unseen

namespace ComponentHost
namespace Text

/-- The least number of lower-case hexadecimal digits of a number. -/
def hexDigits (n : Nat) : List Char := Nat.toDigits 16 n

/-- A character as it is written between quotes. -/
def quoteChar (c : Char) : List Char :=
  if c = '\x00' then ['\\', '0']
  else if c = '\t' then ['\\', 't']
  else if c = '\n' then ['\\', 'n']
  else if c = '\r' then ['\\', 'r']
  else if c = '"' then ['\\', '"']
  else if c = '\\' then ['\\', '\\']
  else if isUnseen c then ['\\', 'u', '\x7b'] ++ hexDigits c.toNat ++ ['\x7d']
  else [c]

/-- A text between quotes. -/
def quote (text : String) : String :=
  String.ofList ('"' :: text.toList.flatMap quoteChar ++ ['"'])

/-- Texts between quotes, with commas between them and brackets around them. -/
def quoteAll (texts : List String) : String :=
  "[" ++ String.intercalate ", " (texts.map quote) ++ "]"

example : quoteAll ["a", "b\"\x1b"] = "[\"a\", \"b\\\"\\u\x7b1b\x7d\"]" := by decide +kernel

end Text
end ComponentHost
