/-
# Numbers of a format are read exactly

Rounding takes a fraction to the nearest number of a format.  A fraction that is a
number of the format already comes out as that number (`Format.round_eq_some`): the
guess from the binary logarithms is the exponent of the number or one less
(`guess_le` and `le_guess`), the correction finds it in either case
(`exponentFor_eq`), and at that exponent nothing is left to round.

Fractions are compared as rational numbers, where scaling by a base, two here and ten
for decimal numbers, is a division (`scaleBy_ratio`).
-/

import ComponentHost.Binary64
import Mathlib.Algebra.Order.Field.Power
import Mathlib.Tactic.FieldSimp
import Mathlib.Tactic.Linarith
import Mathlib.Tactic.NormNum
import Mathlib.Tactic.Positivity

namespace ComponentHost

/-! ### Scaling -/

/-- A fraction of natural numbers divided by a power of a base. -/
def scaleBy (base num den : ℕ) (exponent : ℤ) : ℕ × ℕ :=
  if 0 ≤ exponent then (num, den * Nat.pow base exponent.toNat)
  else (num * Nat.pow base (-exponent).toNat, den)

section
variable {base num den : ℕ}

theorem scaleBy_den_pos (hbase : 0 < base) (hden : 0 < den) (e : ℤ) :
    0 < (scaleBy base num den e).2 := by
  rw [scaleBy]
  split
  · simp only [Nat.pow_eq]
    positivity
  · exact hden

/-- Scaling divides the fraction. -/
theorem scaleBy_ratio (hbase : 0 < base) (hden : 0 < den) (e : ℤ) :
    ((scaleBy base num den e).1 : ℚ) / (scaleBy base num den e).2 = num / den / (base : ℚ) ^ e := by
  have hb : (base : ℚ) ≠ 0 := by exact_mod_cast hbase.ne'
  have hd : (den : ℚ) ≠ 0 := by exact_mod_cast hden.ne'
  rw [scaleBy]
  split
  · rename_i h
    obtain ⟨k, rfl⟩ := Int.eq_ofNat_of_zero_le h
    simp only [Nat.pow_eq, Int.toNat_natCast, zpow_natCast]
    push_cast
    rw [div_div]
  · rename_i h
    obtain ⟨k, hk⟩ := Int.eq_ofNat_of_zero_le (show 0 ≤ -e by omega)
    obtain rfl : e = -(k : ℤ) := by omega
    simp only [Nat.pow_eq, neg_neg, Int.toNat_natCast, zpow_neg, zpow_natCast]
    push_cast
    field_simp

end

namespace Format

theorem scale_den_pos {num den : ℕ} (hden : 0 < den) (e : ℤ) : 0 < (scale num den e).2 :=
  scaleBy_den_pos two_pos hden e

theorem scale_ratio {num den : ℕ} (hden : 0 < den) (e : ℤ) :
    ((scale num den e).1 : ℚ) / (scale num den e).2 = num / den / 2 ^ e :=
  scaleBy_ratio two_pos hden e

/-! ### The exponent of a number of the format -/

variable {f : Format} {num den m : ℕ} {e : ℤ}

theorem lt_pow_of_value (value : (num : ℚ) / den = m * 2 ^ e) (hm : m < Nat.pow 2 f.precision) :
    (num : ℚ) / den < 2 ^ (f.precision + e) := by
  have hm : (m : ℚ) < 2 ^ f.precision := by exact_mod_cast hm
  rw [value, zpow_add₀ two_ne_zero, zpow_natCast]
  exact mul_lt_mul_of_pos_right hm (by positivity)

theorem pow_log_lt (hnum : num ≠ 0) (hden : 0 < den) :
    (2 : ℚ) ^ ((Nat.log2 num : ℤ) - Nat.log2 den - 1) < num / den := by
  have h₁ : (2 : ℚ) ^ Nat.log2 num ≤ num := by exact_mod_cast Nat.log2_self_le hnum
  have h₂ : (den : ℚ) < 2 ^ (Nat.log2 den + 1) := by exact_mod_cast Nat.lt_log2_self
  have hd : (0 : ℚ) < den := by exact_mod_cast hden
  rw [sub_sub, zpow_sub₀ two_ne_zero, ← Nat.cast_succ, zpow_natCast, zpow_natCast,
    div_lt_div_iff₀ (by positivity) hd]
  calc (2 : ℚ) ^ Nat.log2 num * den < 2 ^ Nat.log2 num * 2 ^ (Nat.log2 den + 1) := by gcongr
    _ ≤ num * 2 ^ (Nat.log2 den + 1) := by gcongr

theorem lt_pow_log (hden : 0 < den) :
    (num : ℚ) / den < 2 ^ ((Nat.log2 num : ℤ) + 1 - Nat.log2 den) := by
  have h₁ : (num : ℚ) < 2 ^ (Nat.log2 num + 1) := by exact_mod_cast Nat.lt_log2_self
  have h₂ : (2 : ℚ) ^ Nat.log2 den ≤ den := by exact_mod_cast Nat.log2_self_le hden.ne'
  have hd : (0 : ℚ) < den := by exact_mod_cast hden
  rw [zpow_sub₀ two_ne_zero, ← Nat.cast_succ, zpow_natCast, zpow_natCast,
    div_lt_div_iff₀ hd (by positivity)]
  calc (num : ℚ) * 2 ^ Nat.log2 den < 2 ^ (Nat.log2 num + 1) * 2 ^ Nat.log2 den := by gcongr
    _ ≤ 2 ^ (Nat.log2 num + 1) * den := by gcongr

/-- The guess is at most the exponent. -/
theorem guess_le (hnum : num ≠ 0) (hden : 0 < den) (value : (num : ℚ) / den = m * 2 ^ e)
    (hm : m < Nat.pow 2 f.precision) :
    (Nat.log2 num : ℤ) - Nat.log2 den - f.precision ≤ e := by
  have h := (pow_log_lt hnum hden).trans (lt_pow_of_value value hm)
  have := (zpow_lt_zpow_iff_right₀ one_lt_two).1 h
  omega

/-- If the significand has all its digits, the guess is at least one less. -/
theorem le_guess (hp : 0 < f.precision) (hden : 0 < den) (value : (num : ℚ) / den = m * 2 ^ e)
    (hm : Nat.pow 2 (f.precision - 1) ≤ m) :
    e ≤ (Nat.log2 num : ℤ) - Nat.log2 den - f.precision + 1 := by
  have hm : (2 : ℚ) ^ (f.precision - 1) ≤ m := by exact_mod_cast hm
  have h : (2 : ℚ) ^ (((f.precision - 1 : ℕ) : ℤ) + e) <
      2 ^ ((Nat.log2 num : ℤ) + 1 - Nat.log2 den) :=
    calc (2 : ℚ) ^ (((f.precision - 1 : ℕ) : ℤ) + e) = 2 ^ (f.precision - 1) * 2 ^ e := by
          rw [zpow_add₀ two_ne_zero, zpow_natCast]
      _ ≤ m * 2 ^ e := by gcongr
      _ = num / den := value.symm
      _ < _ := lt_pow_log hden
  have := (zpow_lt_zpow_iff_right₀ one_lt_two).1 h
  omega

/-- Scaled to an exponent no greater than its own, a number of the format is whole. -/
theorem scale_fst_of_value (hden : 0 < den) (k : ℕ) (value : (num : ℚ) / den = m * 2 ^ (e + k)) :
    (scale num den e).1 = m * 2 ^ k * (scale num den e).2 := by
  have hd : ((scale num den e).2 : ℚ) ≠ 0 := by exact_mod_cast (scale_den_pos hden e).ne'
  have h : ((scale num den e).1 : ℚ) / (scale num den e).2 = m * 2 ^ k := by
    rw [scale_ratio hden, value, zpow_add₀ two_ne_zero, zpow_natCast]
    field_simp
  rw [div_eq_iff hd] at h
  exact_mod_cast h

/-- **The exponent is found.** -/
theorem exponentFor_eq (hp : 0 < f.precision) (hnum : num ≠ 0) (hden : 0 < den)
    (value : (num : ℚ) / den = m * 2 ^ e) (canonical : f.Canonical m e) :
    f.exponentFor num den = e := by
  obtain ⟨below, least, -, full⟩ := canonical
  have upper := guess_le hnum hden value below
  have lower := fun h => le_guess hp hden value h
  rw [exponentFor]
  generalize (Nat.log2 num : ℤ) - Nat.log2 den - f.precision = guess at upper lower
  simp only
  by_cases exact : max guess f.minExponent = e
  · -- The guess is right: what is left is the significand.
    have whole := scale_fst_of_value (m := m) (e := e) hden 0 (by simpa using value)
    rw [pow_zero, mul_one] at whole
    rw [exact, whole, Nat.mul_div_cancel _ (scale_den_pos hden e), if_pos below]
  · -- It is one less: what is left is twice the significand, which has all its digits.
    have full := full.resolve_left (by omega)
    have less : max guess f.minExponent = e - 1 := by
      have := lower full
      omega
    have whole := scale_fst_of_value (m := m) (e := e - 1) hden 1
      (by rw [value]; congr 2; omega)
    have digits : ¬ m * 2 ^ 1 < Nat.pow 2 f.precision := by
      obtain ⟨p, hp⟩ := Nat.exists_eq_add_of_lt hp
      rw [hp, Nat.zero_add, Nat.add_sub_cancel, Nat.pow_eq] at full
      rw [hp, Nat.zero_add, Nat.pow_eq, pow_succ]
      omega
    rw [less, whole, Nat.mul_div_cancel _ (scale_den_pos hden _), if_neg digits]
    omega

/-! ### Rounding -/

theorem nearest_mul {d : ℕ} (hd : 0 < d) (m : ℕ) : nearest (m * d) d = m := by
  rw [nearest, Nat.mul_div_cancel _ hd, Nat.mul_mod_left, if_pos (by omega)]

/-- Zero is written at the least exponent. -/
theorem Canonical.exponent_eq_of_zero (h : f.Canonical 0 e) : e = f.minExponent := by
  refine h.2.2.2.resolve_right fun full => ?_
  have : 0 < Nat.pow 2 (f.precision - 1) := Nat.pow_pos (by omega)
  omega

/-- **A number of the format comes out as itself.** -/
theorem round_eq_some (hp : 0 < f.precision) (hden : 0 < den)
    (value : (num : ℚ) / den = m * 2 ^ e) (canonical : f.Canonical m e) :
    f.round num den = some (m, e) := by
  have hd : (den : ℚ) ≠ 0 := by exact_mod_cast hden.ne'
  by_cases hnum : num = 0
  · obtain rfl : m = 0 := by
      rw [hnum, Nat.cast_zero, zero_div, eq_comm, mul_eq_zero] at value
      exact_mod_cast value.resolve_right (by positivity)
    rw [round, if_pos hnum, canonical.exponent_eq_of_zero]
  · have whole := scale_fst_of_value (m := m) (e := e) hden 0 (by simpa using value)
    rw [pow_zero, mul_one] at whole
    rw [round, if_neg hnum, exponentFor_eq hp hnum hden value canonical]
    simp only [whole, nearest_mul (scale_den_pos hden e), if_pos canonical.1, if_pos canonical]

end Format

namespace Binary64

/-- The size of a number as a rational number. -/
def size (x : Binary64) : ℚ := x.significand * 2 ^ x.exponent

/-- There is one zero of each sign. -/
theorem eq_of_significand_eq_zero {x y : Binary64} (hx : x.significand = 0) (hy : y.significand = 0)
    (sign : x.negative = y.negative) : x = y := by
  obtain ⟨negative, m, e, canonical⟩ := x
  obtain ⟨negative', m', e', canonical'⟩ := y
  obtain rfl : m = 0 := hx
  obtain rfl : m' = 0 := hy
  obtain rfl : e = e' := canonical.exponent_eq_of_zero.trans canonical'.exponent_eq_of_zero.symm
  obtain rfl : negative = negative' := sign
  rfl

/-- A fraction of the size of a number is read as the number. -/
theorem ofFraction?_eq_some {x : Binary64} {num den : ℕ} (hden : 0 < den)
    (value : (num : ℚ) / den = x.size) : ofFraction? x.negative num den = some x := by
  rw [ofFraction?, Format.round_eq_some (by decide) hden value x.canonical]
  simp only [x.canonical, dif_pos]

end Binary64
end ComponentHost
