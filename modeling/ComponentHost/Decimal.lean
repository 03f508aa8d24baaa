/-
# Decimal numbers and binary ones

A decimal number is a coefficient times ten to an exponent.  Reading takes it to
the nearest binary number.  Writing goes the other way: of all decimals that read
back as the number it takes the fewest digits, and of those the nearest.

For each count of digits only the two neighbours of the number on that decimal
grid can do, so `Binary64.digits` tries them on ever finer grids, the nearer one
first, and each time asks whether they read back.  Seventeen digits are always
enough; the whole expansion stands behind them.
-/

import ComponentHost.Binary64

namespace ComponentHost

/-- A coefficient times ten to an exponent, with a sign. -/
structure Decimal where
  negative : Bool
  coefficient : Nat
  exponent : Int
  deriving DecidableEq, Repr

namespace Decimal

/-- How many decimal digits a number has; zero has none. -/
def digitCount (n : Nat) : Nat := if n = 0 then 0 else (Nat.toDigits 10 n).length

/-- The value of a run of decimal digits. -/
def valueOfDigits (digits : List Char) : Nat :=
  digits.foldl (fun n c => 10 * n + (c.toNat - '0'.toNat)) 0

/-- Digits without the zeros at the end. -/
def dropEndZeros (digits : List Char) : List Char :=
  (digits.reverse.dropWhile (· = '0')).reverse

/-- A fraction of natural numbers divided by ten to an exponent. -/
def scaleTen (num den : Nat) (exponent : Int) : Nat × Nat :=
  if 0 ≤ exponent then (num, den * Nat.pow 10 exponent.toNat)
  else (num * Nat.pow 10 (-exponent).toNat, den)

/-- The size of a decimal number as a fraction. -/
def magnitude (d : Decimal) : Nat × Nat := scaleTen d.coefficient 1 (-d.exponent)

/-- Reads a decimal number by a rounding that knows zero and turns all beyond
`10 ^ 310` away; a size below `10 ^ (-330)` is zero in every format. -/
def readWith (rounding : Bool → Nat → Nat → Option Binary64) (d : Decimal) : Option Binary64 :=
  let top := digitCount d.coefficient + d.exponent
  if d.coefficient = 0 ∨ top < -330 then some (.zero d.negative)
  else if 310 < top then none
  else rounding d.negative d.magnitude.1 d.magnitude.2

/-- The nearest number of 64 bits, unless it is beyond the greatest. -/
def toBinary64? (d : Decimal) : Option Binary64 := d.readWith Binary64.ofFraction?

/-- The nearest number of 32 bits, unless it is beyond the greatest. -/
def toBinary32? (d : Decimal) : Option Binary64 := d.readWith Binary64.ofFraction32?

end Decimal

/-- Digits after a point, times ten to `point`: `⟨['1', '2'], 1⟩` is 1.2. -/
structure Digits where
  digits : List Char
  point : Int
  deriving DecidableEq, Repr

namespace Digits

/-- The digits of a multiple of ten to `unit`, without zeros at the end. -/
def ofMultiple (coefficient : Nat) (unit : Int) : Digits :=
  let all := Nat.toDigits 10 coefficient
  ⟨Decimal.dropEndZeros all, all.length + unit⟩

/-- The decimal number of digits and a sign. -/
def decimal (d : Digits) (negative : Bool) : Decimal :=
  ⟨negative, Decimal.valueOfDigits d.digits, d.point - d.digits.length⟩

/-- Whether digits read back as the size of a number. -/
def ReadsBack (d : Digits) (x : Binary64) : Prop := (d.decimal x.negative).toBinary64? = some x

instance (d : Digits) (x : Binary64) : Decidable (d.ReadsBack x) :=
  inferInstanceAs (Decidable (_ = _))

end Digits

namespace Binary64

/-- The power of ten just above a size that is not zero. -/
def top (x : Binary64) : Int :=
  let (num, den) := x.magnitude
  if den ≤ num then Decimal.digitCount (num / den)
  else 1 - Decimal.digitCount ((den - 1) / num)

/-- The multiple of ten to `unit` that is nearest to a number among those that
read back as it, a tie to the even one. -/
def onGrid? (x : Binary64) (unit : Int) : Option Digits :=
  let (num, den) := Decimal.scaleTen x.magnitude.1 x.magnitude.2 unit
  let nearest := Format.nearest num den
  let other := if nearest = num / den then nearest + 1 else num / den
  [nearest, other].findSome? fun c =>
    let d := Digits.ofMultiple c unit
    if d.ReadsBack x then some d else none

/-- The whole decimal expansion of a number. -/
def expansion (x : Binary64) : Digits :=
  if 0 ≤ x.exponent then .ofMultiple (x.significand * Nat.pow 2 x.exponent.toNat) 0
  else .ofMultiple (x.significand * Nat.pow 5 (-x.exponent).toNat) x.exponent

/-- The fewest digits that read back as a number that is not zero, of those the
nearest to it. -/
def digits (x : Binary64) : Digits :=
  ((List.range 17).findSome? fun (i : Nat) => x.onGrid? (x.top - 1 - i)).getD x.expansion

/-- What is found on a grid reads back. -/
theorem readsBack_of_onGrid? {x : Binary64} {unit : Int} {d : Digits}
    (h : x.onGrid? unit = some d) : d.ReadsBack x := by
  obtain ⟨c, -, hc⟩ := List.exists_of_findSome?_eq_some h
  dsimp only at hc
  split at hc
  · rename_i reads
    exact Option.some.inj hc ▸ reads
  · cases hc

example : (Decimal.toBinary64? ⟨false, 299792458, -3⟩).map digits =
    some ⟨['2', '9', '9', '7', '9', '2', '4', '5', '8'], 6⟩ := by decide +kernel

end Binary64
end ComponentHost
