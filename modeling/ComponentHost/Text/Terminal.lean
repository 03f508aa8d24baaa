/-
# Text and terminals

A terminal takes some octets as orders.  What is not shown on a terminal is freed
of them (`plain`), and what may be shown on one has them written out (`guarded`).

An order begins with an escape and goes on as its next octet says:

| After the escape | Reader | Ends with |
|------------------|--------|-----------|
| `20`–`2F` | `intermediate` | `30`–`7E` |
| `[` | `control` | `40`–`7E` |
| `]` | `command` | `07` |
| `P` | `device…`, then `body` | `9C` |
| `X`, `^`, `_` | `body` | `9C` |
| another of `30`–`7E` | | at once |

An escape ends every order and begins the next one; `18` and `1A` end every order.
A tab, line feed, form feed or carriage return is shown in an order of the first
two kinds, and before the kind is known, and suspends the order: what follows is
shown as well, up to a control, where the order goes on.  Any scalar value beyond
`7F` that is shown meanwhile ends it.
-/

import ComponentHost.Text.Utf8

namespace ComponentHost
namespace Terminal

/-! ### Leaving orders out -/

/-- The part of an order that is being read; `ground` is none. -/
inductive Reader where
  | ground
  | escape
  | intermediate
  | control
  | deviceEntry
  | deviceParameters
  | deviceIntermediates
  | body
  | command
  deriving DecidableEq, Repr

/-- Whether white space is carried out in the middle of an order. -/
def Reader.carriesOut : Reader → Bool
  | .ground | .escape | .intermediate | .control => true
  | .deviceEntry | .deviceParameters | .deviceIntermediates | .body | .command => false

/-- The part of an order that comes after an octet. -/
def Reader.next (reader : Reader) (b : UInt8) : Reader :=
  if b = 0x18 ∨ b = 0x1A then .ground
  else if b = 0x1B then .escape
  else match reader with
    | .ground => .ground
    | .escape =>
      if b = 0x50 then .deviceEntry
      else if b = 0x5B then .control
      else if b = 0x5D then .command
      else if b = 0x58 ∨ b = 0x5E ∨ b = 0x5F then .body
      else if 0x20 ≤ b ∧ b < 0x30 then .intermediate
      else if 0x30 ≤ b ∧ b < 0x7F then .ground
      else .escape
    | .intermediate => if 0x30 ≤ b ∧ b < 0x7F then .ground else .intermediate
    | .control => if 0x40 ≤ b ∧ b < 0x7F then .ground else .control
    | .deviceEntry =>
      if 0x20 ≤ b ∧ b < 0x30 then .deviceIntermediates
      else if 0x30 ≤ b ∧ b < 0x40 then .deviceParameters
      else if 0x40 ≤ b ∧ b < 0x7F then .body
      else .deviceEntry
    | .deviceParameters =>
      if 0x20 ≤ b ∧ b < 0x30 then .deviceIntermediates
      else if 0x3C ≤ b ∧ b < 0x7F then .body
      else .deviceParameters
    | .deviceIntermediates => if 0x30 ≤ b ∧ b < 0x7F then .body else .deviceIntermediates
    | .body => if b = 0x9C then .ground else .body
    | .command => if b = 0x07 then .ground else .command

/-- Whether an octet is one of the white space that terminals carry out. -/
def isSpacing (b : UInt8) : Bool := b = 0x09 ∨ b = 0x0A ∨ b = 0x0C ∨ b = 0x0D

/-- Whether an octet of its own is shown outside orders. -/
def isShown (b : UInt8) : Bool := (0x20 ≤ b ∧ b < 0x7F) ∨ isSpacing b

/-- How many octets follow the first one of a scalar value. -/
def following (b : UInt8) : Nat :=
  if b < 0xC2 then 0 else if b < 0xE0 then 1 else if b < 0xF0 then 2 else if b < 0xF5 then 3 else 0

/-- What has been read: the part of an order, whether the order is suspended, and
how many octets of the scalar value in hand are due. -/
structure State where
  reader : Reader
  suspended : Bool
  due : Nat
  deriving DecidableEq, Repr

/-- Nothing has been read. -/
def State.start : State := ⟨.ground, false, 0⟩

/-- Whether an octet is shown, and the state after it. -/
def State.step (s : State) (b : UInt8) : Bool × State :=
  if 1 < s.due then (true, { s with due := s.due - 1 })
  else if s.due = 1 then (true, .start)
  else if s.suspended ∨ s.reader = .ground then
    if 0 < following b then (true, { s with due := following b })
    else if isShown b then (true, s)
    else (false, ⟨s.reader.next b, false, 0⟩)
  else if s.reader.carriesOut ∧ isSpacing b then (true, { s with suspended := true })
  else (false, ⟨s.reader.next b, false, 0⟩)

/-- The octets that are shown, from a state on. -/
def shownFrom : State → Bytes → Bytes
  | _, [] => []
  | s, b :: bs =>
    if (s.step b).1 then b :: shownFrom (s.step b).2 bs else shownFrom (s.step b).2 bs

/-- A text without its orders and without controls that are not white space. -/
def plain (text : String) : String := Utf8.decodeLossy (shownFrom .start (Utf8.encode text))

/-! ### Writing orders out -/

/-- A control that a terminal may take for an order, by its number; any other
character as it is. -/
def guardedChar (c : Char) : List Char :=
  if c = '\x07' ∨ c = '\x08' ∨ c = '\x0c' ∨ c = '\x1b' ∨ c = '\x7f' then
    ['\\', 'x', Bytes.hexDigit (c.toNat / 16), Bytes.hexDigit (c.toNat % 16)]
  else if 0x80 ≤ c.toNat ∧ c.toNat ≤ 0x9F then
    ['\\', 'u', '\x7b', Bytes.hexDigit (c.toNat / 16), Bytes.hexDigit (c.toNat % 16), '\x7d']
  else [c]

/-- A text in which no control is an order to a terminal. -/
def guarded (text : String) : String := String.ofList (text.toList.flatMap guardedChar)

/-! ### Emphasis -/

/-- A text with an order before it that sets its look, and one after it that ends it. -/
def emphasised (look text : String) : String := "\x1b[" ++ look ++ "m" ++ text ++ "\x1b[0m"

/-- The look of words that have to be given as they are. -/
def bold : String := "1"

/-- The look of what is wrong. -/
def red : String := "1;31"

/-- The look of a word that was given and cannot be taken. -/
def yellow : String := "33"

/-- A text without orders of its own loses its emphasis only. -/
example : plain (emphasised yellow "--verböse") = "--verböse" := by decide +kernel
example : plain "x\x1b]0;title\x07y\x1bPq\x1b\\z" = "xyz" := by decide +kernel
example : plain "a\x1b'\n'b" = "a\n'b" := by decide +kernel
example : guarded "\x1b[1m\t" = "\\x1b[1m\t" := by decide +kernel

end Terminal
end ComponentHost
