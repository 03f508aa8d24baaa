/-
# Binary floating point, exactly

A finite binary number is a sign, a significand and an exponent of two; the pair
is canonical, so equal numbers are equal triples and `0.0` and `-0.0` differ.

| Format | Digits of the significand | Least exponent | Greatest exponent |
|--------|---------------------------|----------------|-------------------|
| `binary32` | 24 | -149 | 104 |
| `binary64` | 53 | -1074 | 971 |

`Format.round` takes a fraction of natural numbers to the nearest number of a
format, a tie to the even significand; `none` says that the result is beyond the
greatest one.
-/

namespace ComponentHost

/-- A binary floating point format: significands below `2 ^ precision` times two
to an exponent within the bounds. -/
structure Format where
  precision : Nat
  minExponent : Int
  maxExponent : Int

namespace Format

/-- The format of 32 bits. -/
def binary32 : Format := ⟨24, -149, 104⟩

/-- The format of 64 bits. -/
def binary64 : Format := ⟨53, -1074, 971⟩

/-- Whether a pair is the one written form of its number: the significand has
all its digits, or the exponent is the least one. -/
def Canonical (f : Format) (significand : Nat) (exponent : Int) : Prop :=
  significand < Nat.pow 2 f.precision ∧ f.minExponent ≤ exponent ∧ exponent ≤ f.maxExponent ∧
    (exponent = f.minExponent ∨ Nat.pow 2 (f.precision - 1) ≤ significand)

instance (f : Format) (m : Nat) (e : Int) : Decidable (f.Canonical m e) :=
  inferInstanceAs (Decidable (_ ∧ _))

/-- The whole number nearest to a fraction, a tie to the even one. -/
def nearest (num den : Nat) : Nat :=
  let q := num / den
  let r := num % den
  if 2 * r < den then q
  else if den < 2 * r then q + 1
  else if q % 2 = 0 then q else q + 1

/-- A fraction divided by two to an exponent, as a fraction. -/
def scale (num den : Nat) (exponent : Int) : Nat × Nat :=
  if 0 ≤ exponent then (num, den * Nat.pow 2 exponent.toNat)
  else (num * Nat.pow 2 (-exponent).toNat, den)

/-- The exponent at which a fraction has `precision` digits before the point, or
the least one. -/
def exponentFor (f : Format) (num den : Nat) : Int :=
  let guess : Int := Nat.log2 num - Nat.log2 den - f.precision
  let e := max guess f.minExponent
  let (n, d) := scale num den e
  if n / d < Nat.pow 2 f.precision then e else e + 1

/-- The number of a format nearest to a fraction, a tie to the even significand. -/
def round (f : Format) (num den : Nat) : Option (Nat × Int) :=
  if num = 0 then some (0, f.minExponent) else
  let e := f.exponentFor num den
  let (n, d) := scale num den e
  let m := nearest n d
  let (m, e) := if m < Nat.pow 2 f.precision then (m, e) else (m / 2, e + 1)
  if f.Canonical m e then some (m, e) else none

end Format

/-- A finite number of 64 bits. -/
structure Binary64 where
  negative : Bool
  significand : Nat
  exponent : Int
  canonical : Format.binary64.Canonical significand exponent
  deriving DecidableEq

namespace Binary64

/-- Zero with a sign. -/
def zero (negative : Bool) : Binary64 := ⟨negative, 0, -1074, by decide⟩

instance : Inhabited Binary64 := ⟨zero false⟩

/-- The size of a number as a fraction. -/
def magnitude (x : Binary64) : Nat × Nat := Format.scale x.significand 1 (-x.exponent)

/-- The number nearest to a fraction with a sign, a tie to the even significand. -/
def ofFraction? (negative : Bool) (num den : Nat) : Option Binary64 :=
  match Format.binary64.round num den with
  | none => none
  | some (m, e) => if h : Format.binary64.Canonical m e then some ⟨negative, m, e, h⟩ else none

/-- The number that a fraction becomes in 32 bits. -/
def ofFraction32? (negative : Bool) (num den : Nat) : Option Binary64 := do
  let (m, e) ← Format.binary32.round num den
  let (n, d) := Format.scale m 1 (-e)
  ofFraction? negative n d

example : (ofFraction? false 1 10).map (fun x => (x.significand, x.exponent)) =
    some (7205759403792794, -56) := by decide
example : ofFraction? false (Nat.pow 2 1024) 1 = none := by decide +kernel
example : (ofFraction? true 1 (Nat.pow 2 1080)).map (fun x => (x.negative, x.significand)) =
    some (true, 0) := by decide +kernel

end Binary64
end ComponentHost
