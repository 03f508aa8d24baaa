/-
# JSON numbers

A number is a whole number of at most 64 bits or a finite binary one.  The two
are never written alike: a binary number always has a point or an exponent.

| Size of the first digit | Written |
|-------------------------|---------|
| 10^-5 up to below 10^16 | in place, with a point: `100.0`, `0.00001` |
| otherwise | `d.ddde+NN` or `de-NN`, the sign always there |

Reading takes a binary number to the nearest, and a tie to the even one.  Of a
long spelling it looks at the first `keptDigits` digits only and takes the rest
for a little more than nothing (`Spelling.abridged`), so a tie that is spelled
with zeros beyond them goes away from zero.
-/

import ComponentHost.Decimal

namespace ComponentHost
namespace Json

/-- A number of a JSON text. -/
inductive Number where
  /-- A whole number from -2^63 up to below 2^64. -/
  | whole (value : Int)
  | binary (value : Binary64)
  deriving DecidableEq

namespace Number

/-- Whether a whole number fits 64 bits, with a sign or without. -/
def Fits (n : Int) : Prop := -0x8000000000000000 ≤ n ∧ n < 0x10000000000000000

instance (n : Int) : Decidable (Fits n) := inferInstanceAs (Decidable (_ ∧ _))

/-- Digits in place, with a point in any case. -/
def inPlace (digits : List Char) (point : Int) : List Char :=
  if 0 < point then
    let before := point.toNat
    if digits.length ≤ before then
      digits ++ List.replicate (before - digits.length) '0' ++ ['.', '0']
    else digits.take before ++ '.' :: digits.drop before
  else ['0', '.'] ++ List.replicate (-point).toNat '0' ++ digits

/-- Digits with one of them before the point, and the exponent. -/
def scientific (digits : List Char) (point : Int) : List Char :=
  let fraction := if digits.length ≤ 1 then [] else '.' :: digits.drop 1
  let exponent := point - 1
  let sign := if exponent < 0 then '-' else '+'
  digits.take 1 ++ fraction ++ 'e' :: sign :: Nat.toDigits 10 exponent.natAbs

/-- The text of a binary number without its sign. -/
def writeMagnitude (x : Binary64) : List Char :=
  if x.significand = 0 then ['0', '.', '0']
  else
    let d := x.digits
    if -5 < d.point ∧ d.point ≤ 16 then inPlace d.digits d.point
    else scientific d.digits d.point

/-- The text of a number. -/
def write : Number → List Char
  | .whole n => if n < 0 then '-' :: Nat.toDigits 10 n.natAbs else Nat.toDigits 10 n.natAbs
  | .binary x => if x.negative then '-' :: writeMagnitude x else writeMagnitude x

/-- A number as a JSON text spells it: the digits before the point, those after
it, and the exponent. -/
structure Spelling where
  negative : Bool
  whole : List Char
  fraction : Option (List Char)
  exponent : Option Int

/-- The decimal number that is spelled. -/
def Spelling.decimal (s : Spelling) : Decimal :=
  let fraction := s.fraction.getD []
  ⟨s.negative, Decimal.valueOfDigits (s.whole ++ fraction),
    s.exponent.getD 0 - fraction.length⟩

/-- How many digits of a spelling are looked at: as many as the middle between two
binary numbers can need, so that what comes after them only says on which side of
it a number lies. -/
def keptDigits : Nat := 768

/-- The decimal number that is spelled, with a single `1` in place of all digits
after the first `kept`.  Zeros at the front do not count, nor do those at the end
of the fraction; those at the end of a whole number do. -/
def Spelling.abridged (s : Spelling) (kept : Nat) : Decimal :=
  let fraction := Decimal.dropEndZeros (s.fraction.getD [])
  let digits := (s.whole ++ fraction).dropWhile (· = '0')
  let unit := s.exponent.getD 0 - fraction.length
  if digits.length ≤ kept then ⟨s.negative, Decimal.valueOfDigits digits, unit⟩
  else
    let left := digits.length - (kept + 1)
    ⟨s.negative, Decimal.valueOfDigits (digits.take kept ++ ['1']), unit + left⟩

example : (⟨false, ['1', '2'], some ['0', '0'], none⟩ : Spelling).abridged 2 = ⟨false, 12, 0⟩ := by
  decide

example : (⟨false, ['1', '2', '0', '0'], none, none⟩ : Spelling).abridged 2 = ⟨false, 121, 1⟩ := by
  decide

/-- The number that is spelled: whole if there is neither point nor exponent and
it fits, but `-0` is binary.  `none` if it is beyond the greatest binary number. -/
def ofSpelling? (s : Spelling) : Option Number :=
  let n : Int := Decimal.valueOfDigits s.whole
  let n := if s.negative then -n else n
  if s.fraction.isNone ∧ s.exponent.isNone ∧ Fits n ∧ ¬ (s.negative ∧ n = 0) then some (.whole n)
  else (s.abridged keptDigits).toBinary64?.map .binary

end Number
end Json
end ComponentHost
