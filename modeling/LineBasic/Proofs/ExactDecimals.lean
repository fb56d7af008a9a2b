/-
# Decimals that are doubles

A decimal is read as the double nearest to it.  **A decimal that is a double is read as that
double** (`Decimal.toFloat_of_exactly`), and so is every way to write it
(`Literal.literal?_of_exactly`).

Rounding leaves such a decimal alone (`ofFloat_ofRatio`), but there is a test before it: decimals of
10^400 and more, and those below 10^-400, are not computed with.  No double but zero is that far out
(`Decimal.leading_of_exact`), because the largest is less than 10^358 and so is the number of steps
in one.
-/
import LineBasic.Proofs.Doubles
import LineBasic.Proofs.LiteralText

namespace LineBasic.Number

/-! ## 1. The number of digits -/

theorem lt_ten_pow_length (n : Nat) : n < 10 ^ (Nat.toDigits 10 n).length :=
  (Nat.length_toDigits_le_iff (by decide) Nat.length_toDigits_pos).mp le_rfl

theorem ten_pow_le {n k : Nat} (pos : 0 < n) (longer : k < (Nat.toDigits 10 n).length) :
    10 ^ k ≤ n := by
  rcases Nat.eq_zero_or_pos k with rfl | kpos
  · exact pos
  · by_contra small
    have short := (Nat.length_toDigits_le_iff (by decide) kpos).mpr (Nat.lt_of_not_le small)
    omega

/-! ## 2. The range of the doubles -/

section Range

variable {n : Nat} (far : 358 ≤ n)

theorem two_pow_le_ten_pow {k : Nat} (le : k ≤ 3 * n) : 2 ^ k ≤ 10 ^ n :=
  calc 2 ^ k ≤ 2 ^ (3 * n) := Nat.pow_le_pow_right two_pos le
    _ = 8 ^ n := Nat.pow_mul 2 3 n
    _ ≤ 10 ^ n := Nat.pow_le_pow_left (by decide) n

include far

theorem one_le_ten_pow : one ≤ 10 ^ n := by
  obtain ⟨k, least, unit⟩ := exists_one_eq
  rw [unit]
  exact two_pow_le_ten_pow (by omega)

theorem steps_lt {x : Float} {minus : Bool} {steps : Nat}
    (hx : Binary64.ofFloat x = .finite minus steps) : steps < 10 ^ n * one := by
  have h := reads x
  rw [hx] at h
  generalize x.toModel.unpack = u at h
  cases h with
  | zero s => exact Nat.mul_pos (Nat.pow_pos (by decide)) one_pos
  | @finite s m p canonical small =>
    obtain ⟨k, least, unit⟩ := exists_one_eq
    rw [unit]
    calc m * 2 ^ p < 2 ^ 53 * 2 ^ p :=
          Nat.mul_lt_mul_of_pos_right canonical.fits (Nat.two_pow_pos p)
      _ = 2 ^ (53 + p) := (Nat.pow_add 2 53 p).symm
      _ ≤ 2 ^ (3 * n + k) := Nat.pow_le_pow_right two_pos (by omega)
      _ = 2 ^ (3 * n) * 2 ^ k := Nat.pow_add 2 (3 * n) k
      _ ≤ 10 ^ n * 2 ^ k := Nat.mul_le_mul_right _ (two_pow_le_ten_pow le_rfl)

/-- **A decimal that is a double other than zero is not far out**, by the power of ten that its
first digit stands for. -/
theorem Decimal.leading_of_exact {d : Decimal} {x : Float} {minus : Bool} {steps : Nat}
    (nonzero : d.coefficient ≠ 0) (hx : Binary64.ofFloat x = .finite minus steps)
    (exact : d.coefficient * 10 ^ d.exponent.toNat * one = steps * 10 ^ (-d.exponent).toNat) :
    -n ≤ d.exponent + (Nat.toDigits 10 d.coefficient).length
      ∧ d.exponent + (Nat.toDigits 10 d.coefficient).length ≤ n := by
  have pos := Nat.pos_of_ne_zero nonzero
  have nonempty := Nat.length_toDigits_pos (b := 10) (n := d.coefficient)
  have upper := lt_ten_pow_length d.coefficient
  have lower := @ten_pow_le d.coefficient
  generalize (Nat.toDigits 10 d.coefficient).length = digits at nonempty upper lower ⊢
  constructor
  · by_contra below
    have whole : d.exponent.toNat = 0 := by omega
    have first : 0 < steps := by
      refine Nat.pos_of_ne_zero fun none => ?_
      rw [none, whole, Nat.zero_mul, Nat.pow_zero, Nat.mul_one] at exact
      exact (Nat.mul_pos pos one_pos).ne' exact
    refine exact.not_lt ?_
    calc d.coefficient * 10 ^ d.exponent.toNat * one
        = d.coefficient * one := by rw [whole, Nat.pow_zero, Nat.mul_one]
      _ < 10 ^ digits * one := Nat.mul_lt_mul_of_pos_right upper one_pos
      _ ≤ 10 ^ digits * 10 ^ n := Nat.mul_le_mul_left _ (one_le_ten_pow far)
      _ = 10 ^ (digits + n) := (Nat.pow_add 10 digits n).symm
      _ ≤ 10 ^ (-d.exponent).toNat := Nat.pow_le_pow_right (by decide) (by omega)
      _ ≤ steps * 10 ^ (-d.exponent).toNat := Nat.le_mul_of_pos_left _ first
  · by_contra above
    refine exact.not_gt ?_
    calc steps * 10 ^ (-d.exponent).toNat
        < 10 ^ n * one * 10 ^ (-d.exponent).toNat :=
          Nat.mul_lt_mul_of_pos_right (steps_lt far hx) (Nat.pow_pos (by decide))
      _ = 10 ^ (n + (-d.exponent).toNat) * one := by rw [Nat.pow_add]; ring
      _ ≤ 10 ^ (digits - 1 + d.exponent.toNat) * one :=
          Nat.mul_le_mul_right _ (Nat.pow_le_pow_right (by decide) (by omega))
      _ = 10 ^ (digits - 1) * 10 ^ d.exponent.toNat * one := by rw [Nat.pow_add]
      _ ≤ d.coefficient * 10 ^ d.exponent.toNat * one :=
          Nat.mul_le_mul_right _ (Nat.mul_le_mul_right _ (lower pos (by omega)))

end Range

/-! ## 3. Reading a decimal -/

namespace Decimal

variable {d : Decimal} {x : Float}

/-- The number that a decimal is. -/
def exactly (d : Decimal) : ℚ := (if d.negative then -1 else 1) * d.coefficient * 10 ^ d.exponent

theorem ofFloat_toFloat {minus : Bool} {steps : Nat}
    (hx : Binary64.ofFloat x = .finite minus steps)
    (exact : d.coefficient * 10 ^ d.exponent.toNat * one = steps * 10 ^ (-d.exponent).toNat) :
    Binary64.ofFloat d.toFloat = .finite d.negative steps := by
  have pos : 0 < 10 ^ (-d.exponent).toNat := Nat.pow_pos (by decide)
  by_cases zero : d.coefficient = 0
  · have none : steps = 0 := by
      rw [zero, Nat.zero_mul, Nat.zero_mul] at exact
      exact (Nat.mul_eq_zero.mp exact.symm).resolve_right pos.ne'
    simp only [toFloat, zero, decide_true, Bool.true_or, if_true]
    rw [none, ofFloat_ofPattern d.negative (by decide)]
    rfl
  · obtain ⟨near, small⟩ := leading_of_exact (n := 400) (by decide) zero hx exact
    have least : ¬ (decide (d.coefficient = 0)
        || decide (d.exponent + (Nat.toDigits 10 d.coefficient).length < -400)) = true := by
      simp only [zero, decide_false, Bool.false_or, decide_eq_true_eq]
      omega
    have largest : ¬ 400 < d.exponent + (Nat.toDigits 10 d.coefficient).length := by omega
    simp only [toFloat]
    rw [if_neg least, if_neg largest]
    exact ofFloat_ofRatio hx pos exact

/-- **A decimal that is a double is read as that double.**  The sign matters for zero only. -/
theorem toFloat_of_exactly (sign : isNegative x = d.negative)
    (h : exactly? x = some d.exactly) : d.toFloat = x := by
  rw [exactly?_eq, Option.map_eq_some_iff] at h
  obtain ⟨signed, hsigned, value⟩ := h
  cases hx : Binary64.ofFloat x with
  | nan | infinite minus =>
    rw [hx] at hsigned
    cases hsigned
  | finite minus steps =>
    obtain rfl : minus = d.negative := (bits_of_finite hx).2.symm.trans sign
    rw [hx, Binary64.steps?, Option.some.injEq] at hsigned
    refine eq_of_ofFloat (ofFloat_toFloat hx ?_) hx
    have pos : (0 : ℚ) < one := Nat.cast_pos.mpr one_pos
    have magnitude : (steps : ℚ) / one = d.coefficient * 10 ^ d.exponent := by
      subst hsigned
      rw [exactly] at value
      generalize (one : ℚ) = unit at value pos ⊢
      by_cases negative : d.negative
      · simpa [negative, neg_div] using value
      · simpa [negative] using value
    rw [zpow_eq_div, ← mul_div_assoc, div_eq_div_iff pos.ne' (by positivity)] at magnitude
    exact_mod_cast magnitude.symm

example : (⟨false, 5, -1⟩ : Decimal).toFloat = 0.5 := by decide +kernel

end Decimal

/-- **A literal whose decimal is a double stands for that double.** -/
theorem Literal.literal?_of_exactly {l : Literal} {x : Float} (sign : isNegative x = false)
    (h : exactly? x = some l.decimal.exactly) : literal? l.text = some x := by
  rw [l.literal?_text, value, Decimal.toFloat_of_exactly sign h]

end LineBasic.Number
