/-
# Positions in messages

A message about a text may end with the position it is about:
` at line 7 column 3`.  `readPosition?` takes a position off the end of a message;
numbers beyond 64 bits are none, and only the last ` at line ` counts.  Line 0
stands for no position, so it is not written back.
-/

import ComponentHost.Decimal

namespace ComponentHost
namespace Json

/-- A line and a column of a text. -/
structure Position where
  line : Nat
  column : Nat
  deriving DecidableEq, Repr

/-- What stands before the last occurrence of a word, and what after it. -/
def splitAtLast? (word : List Char) : List Char → Option (List Char × List Char)
  | [] => none
  | c :: cs =>
    match splitAtLast? word cs with
    | some (before, after) => some (c :: before, after)
    | none => if word.isPrefixOf (c :: cs) then some ([], (c :: cs).drop word.length) else none

/-- The number that all of some digits spell, within 64 bits. -/
def readNumber? (digits : List Char) : Option Nat :=
  let n := Decimal.valueOfDigits digits
  if digits ≠ [] ∧ digits.all Char.isDigit ∧ n < 0x10000000000000000 then some n else none

/-- A message without the position at its end, and the position. -/
def readPosition? (message : List Char) : Option (List Char × Position) := do
  let (before, after) ← splitAtLast? " at line ".toList message
  let rest := after.dropWhile Char.isDigit
  if " column ".toList.isPrefixOf rest then
    let line ← readNumber? (after.takeWhile Char.isDigit)
    let column ← readNumber? (rest.drop " column ".length)
    return (before, ⟨line, column⟩)
  else none

/-- A position as a message ends with it. -/
def Position.text (p : Position) : String :=
  if p.line = 0 then "" else " at line " ++ toString p.line ++ " column " ++ toString p.column

example : readPosition? "e at line 1 column 2 at line 07 column 3".toList =
    some ("e at line 1 column 2".toList, ⟨7, 3⟩) := by decide +kernel
example : readPosition? "e at line 1 column 2.".toList = none := by decide +kernel

end Json
end ComponentHost
