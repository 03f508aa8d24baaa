/-
# Digits read back

The digits of a binary number that is not zero are those of a multiple of a power of
ten, without zeros at either end (`Digits.Normal`), and they read back as the number
(`Binary64.readsBack_digits`): what is found on a grid was tried, and the whole
expansion has the size of the number, so no rounding changes it.
-/

import ComponentHost.Decimal
import ComponentHost.Proofs.Rounding
import Mathlib.Data.List.TakeWhile
import Mathlib.Tactic.Ring

namespace ComponentHost
namespace Decimal

/-! ### Runs of digits -/

theorem valueOfDigits_append (ds es : List Char) :
    valueOfDigits (ds ++ es) = Nat.ofDigitChars 10 es (valueOfDigits ds) := by
  rw [valueOfDigits, List.foldl_append]
  rfl

theorem valueOfDigits_toDigits (n : ℕ) : valueOfDigits (Nat.toDigits 10 n) = n :=
  Nat.ofDigitChars_ten_toDigits

theorem exists_eq_dropEndZeros_append (ds : List Char) :
    ∃ k, ds = dropEndZeros ds ++ List.replicate k '0' := by
  refine ⟨(ds.reverse.takeWhile (· = '0')).length, ?_⟩
  have zeros : ds.reverse.takeWhile (· = '0') =
      List.replicate (ds.reverse.takeWhile (· = '0')).length '0' :=
    List.eq_replicate_iff.2 ⟨rfl, fun c hc => by simpa using List.mem_takeWhile_imp hc⟩
  rw [dropEndZeros, ← List.reverse_replicate, ← zeros, ← List.reverse_append,
    List.takeWhile_append_dropWhile, List.reverse_reverse]

theorem getLast?_dropEndZeros (ds : List Char) : (dropEndZeros ds).getLast? ≠ some '0' := by
  rw [dropEndZeros, List.getLast?_reverse]
  intro h
  have := List.head?_dropWhile_not (fun c => decide (c = '0')) ds.reverse
  rw [h] at this
  simp at this

theorem head?_toDigits {n : ℕ} (hn : n ≠ 0) : (Nat.toDigits 10 n).head? ≠ some '0' := by
  induction n using Nat.strong_induction_on with
  | _ n ih =>
    by_cases small : n < 10
    · rw [Nat.toDigits_of_lt_base small]
      simpa using hn
    · rw [Nat.toDigits_of_base_le (by decide) (by omega),
        List.head?_append_of_ne_nil _ Nat.toDigits_ne_nil]
      exact ih (n / 10) (by omega) (by omega)

/-- A number that is not zero lies between the powers of ten of its digits. -/
theorem digitCount_bounds {n : ℕ} (hn : n ≠ 0) :
    10 ^ (digitCount n - 1) ≤ n ∧ n < 10 ^ digitCount n := by
  have positive : 0 < (Nat.toDigits 10 n).length := Nat.length_toDigits_pos
  rw [digitCount, if_neg hn]
  constructor
  · by_contra below
    rcases Nat.eq_zero_or_pos ((Nat.toDigits 10 n).length - 1) with one | more
    · rw [one] at below
      omega
    · have := (Nat.length_toDigits_le_iff (b := 10) (n := n) (by decide) more).2 (by omega)
      omega
  · exact (Nat.length_toDigits_le_iff (by decide) positive).1 le_rfl

end Decimal

/-! ### Size -/

namespace Decimal

/-- The size of a decimal number as a rational number. -/
def size (d : Decimal) : ℚ := d.coefficient * 10 ^ d.exponent

/-- The fraction of a decimal number is its size. -/
theorem magnitude_ratio (d : Decimal) : (d.magnitude.1 : ℚ) / d.magnitude.2 = d.size := by
  have ratio : (d.magnitude.1 : ℚ) / d.magnitude.2 =
      (d.coefficient : ℚ) / (1 : ℕ) / 10 ^ (-d.exponent) :=
    scaleBy_ratio (by decide) Nat.one_pos _
  rw [ratio, size, Nat.cast_one, div_one, zpow_neg, div_inv_eq_mul]

/-- The decimal point stands where the size says. -/
theorem size_bounds {d : Decimal} (hd : d.coefficient ≠ 0) :
    (10 : ℚ) ^ (digitCount d.coefficient + d.exponent - 1) ≤ d.size ∧
      d.size < 10 ^ (digitCount d.coefficient + d.exponent) := by
  obtain ⟨lower, upper⟩ := digitCount_bounds hd
  have lower : (10 : ℚ) ^ (digitCount d.coefficient - 1) ≤ d.coefficient := by exact_mod_cast lower
  have upper : (d.coefficient : ℚ) < 10 ^ digitCount d.coefficient := by exact_mod_cast upper
  have positive : 0 < digitCount d.coefficient := by
    rw [digitCount, if_neg hd]
    exact Nat.length_toDigits_pos
  rw [size]
  constructor
  · have split : (digitCount d.coefficient : ℤ) + d.exponent - 1 =
        ((digitCount d.coefficient - 1 : ℕ) : ℤ) + d.exponent := by omega
    rw [split, zpow_add₀ (by norm_num), zpow_natCast]
    gcongr
  · rw [zpow_add₀ (by norm_num), zpow_natCast]
    exact mul_lt_mul_of_pos_right upper (by positivity)

end Decimal

namespace Binary64

/-- The sizes of the finite numbers that are not zero. -/
theorem size_range {x : Binary64} (hx : x.significand ≠ 0) :
    (2 : ℚ) ^ (-1074 : ℤ) ≤ x.size ∧ x.size < 2 ^ (1024 : ℤ) := by
  obtain ⟨below, least, greatest, -⟩ := x.canonical
  have one : (1 : ℚ) ≤ x.significand := by exact_mod_cast Nat.one_le_iff_ne_zero.2 hx
  have below : (x.significand : ℚ) < 2 ^ (53 : ℤ) := by exact_mod_cast below
  rw [size]
  constructor
  · calc (2 : ℚ) ^ (-1074 : ℤ) ≤ 2 ^ x.exponent := zpow_le_zpow_right₀ one_le_two least
      _ ≤ x.significand * 2 ^ x.exponent := le_mul_of_one_le_left (by positivity) one
  · calc x.significand * (2 : ℚ) ^ x.exponent < 2 ^ (53 : ℤ) * 2 ^ x.exponent :=
          mul_lt_mul_of_pos_right below (by positivity)
      _ ≤ 2 ^ (53 : ℤ) * 2 ^ (971 : ℤ) := by
          gcongr
          · exact one_le_two
          · exact greatest
      _ = 2 ^ (1024 : ℤ) := by rw [← zpow_add₀ two_ne_zero]; norm_num

end Binary64

/-! ### Reading -/

theorem ten_zpow_lt_least : (10 : ℚ) ^ (-330 : ℤ) < 2 ^ (-1074 : ℤ) := by
  have powers : (2 : ℚ) ^ 1074 < 10 ^ 330 := by
    exact_mod_cast show 2 ^ 1074 < 10 ^ 330 by decide +kernel
  rw [zpow_neg, zpow_neg]
  exact inv_strictAnti₀ (by positivity) (by exact_mod_cast powers)

theorem greatest_lt_ten_zpow : (2 : ℚ) ^ (1024 : ℤ) < 10 ^ (310 : ℤ) := by
  have powers : (2 : ℚ) ^ 1024 < 10 ^ 310 := by
    exact_mod_cast show 2 ^ 1024 < 10 ^ 310 by decide +kernel
  exact_mod_cast powers

/-- **A decimal number of the size of a binary one is read as it.** -/
theorem Decimal.toBinary64?_eq_some {d : Decimal} {x : Binary64} (sign : d.negative = x.negative)
    (hx : x.significand ≠ 0) (same : d.size = x.size) : d.toBinary64? = some x := by
  obtain ⟨least, greatest⟩ := Binary64.size_range hx
  have hd : d.coefficient ≠ 0 := by
    intro zero
    rw [← same, size, zero, Nat.cast_zero, zero_mul] at least
    exact absurd least (not_le_of_gt (by positivity))
  obtain ⟨lower, upper⟩ := size_bounds hd
  rw [same] at lower upper
  have notBelow : ¬ (digitCount d.coefficient : ℤ) + d.exponent < -330 := by
    have : (10 : ℚ) ^ (-330 : ℤ) < 10 ^ ((digitCount d.coefficient : ℤ) + d.exponent) :=
      (ten_zpow_lt_least.trans_le least).trans upper
    have := (zpow_lt_zpow_iff_right₀ (by norm_num)).1 this
    omega
  have notAbove : ¬ 310 < (digitCount d.coefficient : ℤ) + d.exponent := by
    have : (10 : ℚ) ^ ((digitCount d.coefficient : ℤ) + d.exponent - 1) < 10 ^ (310 : ℤ) :=
      (lower.trans_lt greatest).trans greatest_lt_ten_zpow
    have := (zpow_lt_zpow_iff_right₀ (by norm_num)).1 this
    omega
  have positive : 0 < d.magnitude.2 := scaleBy_den_pos (by decide) Nat.one_pos _
  rw [toBinary64?, readWith]
  simp only [hd, notBelow, notAbove, or_self, if_false]
  rw [sign]
  exact Binary64.ofFraction?_eq_some positive (d.magnitude_ratio.trans same)

/-! ### The normal form -/

namespace Digits

/-- Digits that no shorter run writes: there is one, and neither the first nor the last
is zero. -/
structure Normal (d : Digits) : Prop where
  isDigit : ∀ c ∈ d.digits, c.isDigit
  ne_nil : d.digits ≠ []
  first : d.digits.head? ≠ some '0'
  last : d.digits.getLast? ≠ some '0'

variable {d : Digits}

theorem Normal.head?_append (h : d.Normal) (es : List Char) :
    (d.digits ++ es).head? ≠ some '0' := by
  rw [List.head?_append_of_ne_nil _ h.ne_nil]
  exact h.first

theorem Normal.head?_reverse (h : d.Normal) : d.digits.reverse.head? ≠ some '0' := by
  rw [List.head?_reverse]
  exact h.last

theorem normal_ofMultiple {c : ℕ} (hc : c ≠ 0) (unit : ℤ) : (ofMultiple c unit).Normal := by
  obtain ⟨k, zeros⟩ := Decimal.exists_eq_dropEndZeros_append (Nat.toDigits 10 c)
  have first := Decimal.head?_toDigits hc
  have ne_nil : Decimal.dropEndZeros (Nat.toDigits 10 c) ≠ [] := by
    intro h
    rw [h, List.nil_append] at zeros
    rw [zeros] at first
    cases k with
    | zero => exact Nat.toDigits_ne_nil zeros
    | succ k => exact first rfl
  refine ⟨fun d hd => ?_, ne_nil, ?_, Decimal.getLast?_dropEndZeros _⟩
  · refine Nat.isDigit_of_mem_toDigits (b := 10) (n := c) (by decide) le_rfl ?_
    rw [zeros]
    exact List.mem_append_left _ hd
  · rwa [zeros, List.head?_append_of_ne_nil _ ne_nil] at first

/-- What the zeros at the end stood for is in the exponent. -/
theorem size_ofMultiple (c : ℕ) (unit : ℤ) (negative : Bool) :
    ((ofMultiple c unit).decimal negative).size = c * 10 ^ unit := by
  obtain ⟨k, zeros⟩ := Decimal.exists_eq_dropEndZeros_append (Nat.toDigits 10 c)
  have coefficient :
      c = 10 ^ k * Decimal.valueOfDigits (Decimal.dropEndZeros (Nat.toDigits 10 c)) := by
    rw [← Nat.ofDigitChars_replicate_zero, ← Decimal.valueOfDigits_append, ← zeros,
      Decimal.valueOfDigits_toDigits]
  have exponent : ((Nat.toDigits 10 c).length : ℤ) + unit -
      (Decimal.dropEndZeros (Nat.toDigits 10 c)).length = k + unit := by
    have := congrArg List.length zeros
    rw [List.length_append, List.length_replicate] at this
    omega
  simp only [Decimal.size, decimal, ofMultiple, exponent]
  rw [zpow_add₀ (by norm_num), zpow_natCast]
  nth_rewrite 2 [coefficient]
  push_cast
  ring

end Digits

namespace Binary64

/-- The whole expansion loses nothing. -/
theorem size_expansion (x : Binary64) : (x.expansion.decimal x.negative).size = x.size := by
  rw [expansion, size]
  split
  · rename_i h
    obtain ⟨k, hk⟩ := Int.eq_ofNat_of_zero_le h
    simp only [Digits.size_ofMultiple, hk, Int.toNat_natCast, Nat.pow_eq, zpow_natCast, zpow_zero]
    push_cast
    ring
  · rename_i h
    obtain ⟨k, hk⟩ := Int.eq_ofNat_of_zero_le (show 0 ≤ -x.exponent by omega)
    obtain hk : x.exponent = -(k : ℤ) := by omega
    simp only [Digits.size_ofMultiple, hk, neg_neg, Int.toNat_natCast, Nat.pow_eq, zpow_neg,
      zpow_natCast]
    push_cast
    rw [show (10 : ℚ) = 2 * 5 by norm_num, mul_pow]
    field_simp

/-- **The digits of a number that is not zero read back as it.** -/
theorem readsBack_digits {x : Binary64} (hx : x.significand ≠ 0) : x.digits.ReadsBack x := by
  rw [digits]
  cases found : (List.range 17).findSome? fun (i : Nat) => x.onGrid? (x.top - 1 - i) with
  | some d =>
    obtain ⟨i, -, hi⟩ := List.exists_of_findSome?_eq_some found
    exact readsBack_of_onGrid? hi
  | none => exact Decimal.toBinary64?_eq_some rfl hx x.size_expansion

theorem exists_digits_eq_ofMultiple (x : Binary64) : ∃ c unit, x.digits = .ofMultiple c unit := by
  rw [digits]
  cases found : (List.range 17).findSome? fun (i : Nat) => x.onGrid? (x.top - 1 - i) with
  | some d =>
    obtain ⟨i, -, hi⟩ := List.exists_of_findSome?_eq_some found
    obtain ⟨c, -, hc⟩ := List.exists_of_findSome?_eq_some hi
    dsimp only at hc
    split at hc
    · exact ⟨c, _, (Option.some.inj hc).symm⟩
    · cases hc
  | none =>
    rw [Option.getD_none, expansion]
    split
    · exact ⟨_, _, rfl⟩
    · exact ⟨_, _, rfl⟩

/-- The digits of a number that is not zero have none to spare. -/
theorem normal_digits {x : Binary64} (hx : x.significand ≠ 0) : x.digits.Normal := by
  obtain ⟨c, unit, h⟩ := x.exists_digits_eq_ofMultiple
  have reads := readsBack_digits hx
  rw [h] at reads ⊢
  refine Digits.normal_ofMultiple (fun zero => hx ?_) unit
  -- No digits at all would read back as zero.
  rw [zero, Digits.ReadsBack, Decimal.toBinary64?, Decimal.readWith, if_pos (.inl rfl)] at reads
  rw [← Option.some.inj reads]
  rfl

/-- **Numbers of one sign with the same digits are the same.** -/
theorem eq_of_digits_eq {x y : Binary64} (hx : x.significand ≠ 0) (hy : y.significand ≠ 0)
    (sign : x.negative = y.negative) (same : x.digits = y.digits) : x = y := by
  have reads : (x.digits.decimal x.negative).toBinary64? = some x := readsBack_digits hx
  have reads' : (y.digits.decimal y.negative).toBinary64? = some y := readsBack_digits hy
  rw [sign, same, reads'] at reads
  exact (Option.some.inj reads).symm

end Binary64
end ComponentHost
