import Mathlib
import Assay.Number.Shortest
import Assay.Proofs.Number.Rounding

/-! # Shortest decimals round to their number

Whatever decimal is chosen for a number, the number is what its value rounds to: either this was
tested, or the decimal is the exact value.
-/

namespace Assay.Number

def Decimal.value (decimal : Decimal) : ℚ := decimal.digits * (10 : ℚ) ^ decimal.exponent

/-- A number of the format is what its own size rounds to. -/
theorem InFormat.isRounding {significand : Nat} {exponent : Int}
    (hformat : InFormat significand exponent) (negative : Bool) :
    (Double.finite negative significand exponent hformat).IsRounding negative
      (magnitude significand exponent) := by
  have hround : IsRoundedTo (magnitude significand exponent) exponent significand := by
    have hunit : (0 : ℚ) < 2 ^ exponent := by positivity
    refine ⟨?_, fun hhalf => ?_⟩
    · rw [sub_self, abs_zero]
      positivity
    · rw [sub_self, abs_zero] at hhalf
      exact absurd hhalf (by positivity)
  obtain ⟨-, -, -, hfull⟩ := inFormat_iff.mp hformat
  refine .finite hformat (hround.isNearest (hfull.symm.imp id fun hbits => ?_) hformat)
  exact magnitude_le_magnitude exponent hbits

/-- The sign does not take part in rounding. -/
theorem Double.IsRounding.withSign {size : ℚ} {significand : Nat} {exponent : Int}
    {hformat : InFormat significand exponent} {negative : Bool}
    (hrounding : (Double.finite negative significand exponent hformat).IsRounding negative size)
    (other : Bool) :
    (Double.finite other significand exponent hformat).IsRounding other size := by
  cases hrounding with
  | finite _ hnearest => exact .finite hformat hnearest

theorem Decimal.value_exact (significand : Nat) (exponent : Int) :
    (Decimal.exact significand exponent).value = magnitude significand exponent := by
  unfold Decimal.value Decimal.exact magnitude
  dsimp only
  rw [Nat.pow_eq, Nat.pow_eq]
  push_cast
  rcases Int.le_total 0 exponent with hnonneg | hneg
  · obtain ⟨shift, rfl⟩ := Int.eq_ofNat_of_zero_le hnonneg
    simp
  · obtain ⟨shift, hshift⟩ := Int.eq_ofNat_of_zero_le (Int.neg_nonneg_of_nonpos hneg)
    obtain rfl : exponent = -(shift : Int) := by omega
    -- a power of five over a power of ten is a negative power of two
    rw [min_eq_left hneg, neg_neg, Int.toNat_natCast, Int.toNat_of_nonpos hneg, zpow_neg,
      zpow_neg, zpow_natCast, zpow_natCast, show (10 : ℚ) = 2 * 5 by norm_num, mul_pow]
    have hfive : (5 : ℚ) ^ shift ≠ 0 := by positivity
    field_simp

/-- A decimal that passes the test of rounding back rounds to the number. -/
theorem Decimal.isRounding_of_roundsTo {decimal : Decimal} {significand : Nat} {exponent : Int}
    (hformat : InFormat significand exponent)
    (htest : decimal.roundsTo significand exponent = true) :
    (Double.finite false significand exponent hformat).IsRounding false decimal.value := by
  have hrounding := Double.ofDecimal_isRounding false decimal.digits decimal.exponent
  unfold Decimal.roundsTo at htest
  split at htest
  next sign s e hother hnumber =>
    obtain ⟨rfl, rfl⟩ : s = significand ∧ e = exponent := by simpa using htest
    rw [hnumber] at hrounding
    cases hrounding with
    | finite _ hnearest => exact .finite hformat hnearest
  next => simp at htest

/-- The shortest decimal of a number rounds to the number. -/
theorem Decimal.shortest_isRounding {significand : Nat} {exponent : Int}
    (hformat : InFormat significand exponent) :
    (Double.finite false significand exponent hformat).IsRounding false
      (Decimal.shortest significand exponent).value := by
  unfold Decimal.shortest
  dsimp only
  generalize hcandidates : List.flatMap _ _ = candidates
  cases hfind : candidates.find? fun decimal => decimal.roundsTo significand exponent with
  | none =>
      rw [Option.getD_none, Decimal.value_exact]
      exact hformat.isRounding false
  | some decimal =>
      have htest := List.find?_some hfind
      exact Decimal.isRounding_of_roundsTo hformat htest

/-- The shortest decimal of a number other than zero is not zero. -/
theorem Decimal.shortest_digits_pos {significand : Nat} {exponent : Int}
    (hformat : InFormat significand exponent) (hpos : significand ≠ 0) :
    0 < (Decimal.shortest significand exponent).digits := by
  rw [Nat.pos_iff_ne_zero]
  intro hdigits
  have hrounding := Decimal.shortest_isRounding hformat
  have hzero : (Decimal.shortest significand exponent).value = 0 := by
    rw [Decimal.value, hdigits, Nat.cast_zero, zero_mul]
  rw [hzero] at hrounding
  have hother := hrounding.unique (Double.zero_isRounding false le_rfl (by positivity))
  simp only [Double.zero, Double.finite.injEq] at hother
  exact hpos hother.2.1

theorem Decimal.value_dropZeros (steps : Nat) (decimal : Decimal) :
    (Decimal.dropZeros steps decimal).value = decimal.value := by
  induction steps generalizing decimal with
  | zero => rfl
  | succ steps ih =>
      rw [Decimal.dropZeros]
      split
      next hzero =>
        obtain ⟨quotient, hquotient⟩ := Nat.dvd_of_mod_eq_zero hzero
        rw [ih, Decimal.value, Decimal.value, hquotient, Nat.mul_div_cancel_left _ (by decide),
          zpow_add_one₀ (by norm_num)]
        push_cast
        ring
      next => rfl

theorem Decimal.digits_pos_iff (decimal : Decimal) : 0 < decimal.digits ↔ 0 < decimal.value := by
  have hpower : (0 : ℚ) < 10 ^ decimal.exponent := by positivity
  rw [Decimal.value, mul_pos_iff_of_pos_right hpower, Nat.cast_pos]

theorem Decimal.dropZeros_digits_pos {decimal : Decimal} (hpos : 0 < decimal.digits)
    (steps : Nat) : 0 < (Decimal.dropZeros steps decimal).digits := by
  rw [Decimal.digits_pos_iff, Decimal.value_dropZeros, ← Decimal.digits_pos_iff]
  exact hpos

end Assay.Number
