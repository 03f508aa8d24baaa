/-
# UTF-8

Texts are `String`s, their wire form is octets.  Decoding reads octets one at a
time with a small machine: it is either between two scalar values or inside one,
and then knows the payload so far, how many octets are due and the range the next
one has to lie in.

| First octet | Octets due | Range of the next one |
|-------------|-----------|-----------------------|
| `00`–`7F` | 0 | |
| `C2`–`DF` | 1 | `80`–`BF` |
| `E0` | 2 | `A0`–`BF` |
| `E1`–`EC`, `EE`, `EF` | 2 | `80`–`BF` |
| `ED` | 2 | `80`–`9F` |
| `F0` | 3 | `90`–`BF` |
| `F1`–`F3` | 3 | `80`–`BF` |
| `F4` | 3 | `80`–`8F` |

An octet that cannot be continued ends a maximal ill-formed piece, and the octet
that broke it is read again as a first one.  `decode?` refuses a text with such a
piece, `decodeLossy` writes one U+FFFD for each.
-/

import ComponentHost.Bytes

namespace ComponentHost
namespace Utf8

/-- The octets of one scalar value. -/
def encodeChar (c : Char) : Bytes :=
  let n := c.toNat
  if n < 0x80 then [UInt8.ofNat n]
  else if n < 0x800 then [UInt8.ofNat (0xC0 + n / 64), UInt8.ofNat (0x80 + n % 64)]
  else if n < 0x10000 then
    [UInt8.ofNat (0xE0 + n / 4096), UInt8.ofNat (0x80 + n / 64 % 64), UInt8.ofNat (0x80 + n % 64)]
  else
    [UInt8.ofNat (0xF0 + n / 262144), UInt8.ofNat (0x80 + n / 4096 % 64),
      UInt8.ofNat (0x80 + n / 64 % 64), UInt8.ofNat (0x80 + n % 64)]

/-- The octets of a text. -/
def encode (text : String) : Bytes := text.toList.flatMap encodeChar

/-- What has been read of the scalar value in hand. -/
inductive State where
  | between
  | within (payload due : Nat) (low high : UInt8)
  deriving DecidableEq, Repr

/-- A finished piece of the input: a scalar value, or `none` for a maximal
ill-formed piece. -/
abbrev Piece := Option Char

/-- Reads an octet as the first of a scalar value. -/
def start (b : UInt8) : List Piece × State :=
  if b < 0x80 then ([some (Char.ofNat b.toNat)], .between)
  else if b < 0xC2 then ([none], .between)
  else if b < 0xE0 then ([], .within (b.toNat - 0xC0) 1 0x80 0xBF)
  else if b = 0xE0 then ([], .within 0 2 0xA0 0xBF)
  else if b = 0xED then ([], .within 0xD 2 0x80 0x9F)
  else if b < 0xF0 then ([], .within (b.toNat - 0xE0) 2 0x80 0xBF)
  else if b = 0xF0 then ([], .within 0 3 0x90 0xBF)
  else if b < 0xF4 then ([], .within (b.toNat - 0xF0) 3 0x80 0xBF)
  else if b = 0xF4 then ([], .within 4 3 0x80 0x8F)
  else ([none], .between)

/-- Reads one octet. -/
def step : State → UInt8 → List Piece × State
  | .between, b => start b
  | .within payload due low high, b =>
    if low ≤ b ∧ b ≤ high then
      let payload := payload * 64 + (b.toNat - 0x80)
      if due ≤ 1 then ([some (Char.ofNat payload)], .between)
      else ([], .within payload (due - 1) 0x80 0xBF)
    else
      (none :: (start b).1, (start b).2)

/-- The pieces of an input, from a state on. -/
def piecesFrom : State → Bytes → List Piece
  | .between, [] => []
  | .within .., [] => [none]
  | s, b :: bs => (step s b).1 ++ piecesFrom (step s b).2 bs

/-- The scalar values and maximal ill-formed pieces of an input, in order. -/
def pieces (bs : Bytes) : List Piece := piecesFrom .between bs

/-- The text of well-formed octets. -/
def decode? (bs : Bytes) : Option String :=
  ((pieces bs).mapM id).map String.ofList

/-- The text of any octets, with U+FFFD for each maximal ill-formed piece. -/
def decodeLossy (bs : Bytes) : String :=
  String.ofList ((pieces bs).map (·.getD (Char.ofNat 0xFFFD)))

/-- **Well-formed input loses nothing.**  Where decoding accepts, replacing
ill-formed pieces changes nothing. -/
theorem decodeLossy_of_decode? {bs : Bytes} {text : String} (h : decode? bs = some text) :
    decodeLossy bs = text := by
  obtain ⟨cs, hcs, rfl⟩ := Option.map_eq_some_iff.1 h
  clear h
  rw [decodeLossy]
  congr 1
  generalize pieces bs = ps at hcs
  induction ps generalizing cs with
  | nil => simp_all
  | cons p ps ih =>
    simp only [List.mapM_cons, id] at hcs
    cases p with
    | none => simp at hcs
    | some c =>
      obtain ⟨rest, hrest, heq⟩ : ∃ rest, ps.mapM id = some rest ∧ cs = c :: rest := by
        cases hr : ps.mapM id with
        | none => simp [hr] at hcs
        | some rest => exact ⟨rest, rfl, by simpa [hr] using hcs.symm⟩
      rw [heq, List.map_cons, ih rest hrest]
      rfl

example : decode? (encode "aé€😀") = some "aé€😀" := by decide
example : decodeLossy [0x61, 0xF0, 0x9F, 0x98, 0xFF, 0x62] = "a\uFFFD\uFFFDb" := by decide
example : decode? [0xED, 0xA0, 0x80] = none := by decide

end Utf8
end ComponentHost
