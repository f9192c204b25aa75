import Assay.Proofs.Number.Rounding

/-! # Equality of numbers is equality of values

A finite number has a rational value. Two finite numbers are equal exactly if their values are, and
a finite number equals an integer exactly if its value is that integer.
-/

namespace Assay.Number.Double

def value? : Double → Option ℚ
  | .finite negative significand exponent _ =>
    some (if negative then -magnitude significand exponent else magnitude significand exponent)
  | _ => none

theorem magnitude_nonneg (significand : Nat) (exponent : Int) :
    0 ≤ magnitude significand exponent := by
  unfold magnitude
  positivity

theorem magnitude_eq_zero_iff {significand : Nat} {exponent : Int} :
    magnitude significand exponent = 0 ↔ significand = 0 := by
  have hpow : (2 : ℚ) ^ exponent ≠ 0 := by positivity
  rw [magnitude, mul_eq_zero, or_iff_left hpow, Nat.cast_eq_zero]

theorem exists_value_of_isFinite {number : Double} (hfinite : number.isFinite = true) :
    ∃ value, number.value? = some value := by
  cases number with
  | finite => exact ⟨_, rfl⟩
  | infinite => nomatch hfinite
  | nan => nomatch hfinite

/-- The fraction of a finite number is its value. -/
theorem ratio_div (negative : Bool) (significand : Nat) (exponent : Int) :
    ((ratio negative significand exponent).1 : ℚ) / (ratio negative significand exponent).2 =
      if negative then -magnitude significand exponent else magnitude significand exponent := by
  have hsize : ((significand * Nat.pow 2 exponent.toNat : ℕ) : ℚ) /
      (Nat.pow 2 (-exponent).toNat : ℕ) = magnitude significand exponent := by
    rw [magnitude, zpow_eq_pow_div_pow 2 exponent]
    simp only [Nat.pow_eq]
    push_cast
    rw [mul_div_assoc]
  rw [← hsize]
  cases negative <;> simp [ratio, neg_div]

/-- A double and an integer are compared as the numbers they denote, without rounding. -/
theorem eqvInt_iff {number : Double} {integer : Int} :
    number.eqvInt integer = true ↔ number.value? = some (integer : ℚ) := by
  cases number with
  | finite negative significand exponent inFormat =>
      have hpos : ((ratio negative significand exponent).2 : ℚ) ≠ 0 := by
        simp [ratio]
      simp only [eqvInt, value?, decide_eq_true_eq, Option.some.injEq]
      rw [← ratio_div, div_eq_iff hpos]
      exact_mod_cast Iff.rfl
  | infinite => simp [eqvInt, value?]
  | nan => simp [eqvInt, value?]

/-- Numbers of opposite signs have the same value only if both are zero. -/
theorem neg_magnitude_eq_iff {left right : Nat} {low high : Int} :
    -magnitude left low = magnitude right high ↔ left = 0 ∧ right = 0 := by
  rw [← @magnitude_eq_zero_iff left low, ← @magnitude_eq_zero_iff right high]
  have hleft := magnitude_nonneg left low
  have hright := magnitude_nonneg right high
  constructor
  · intro heq
    exact ⟨by linarith, by linarith⟩
  · rintro ⟨hzero, hother⟩
    rw [hzero, hother, neg_zero]

/-- Numbers of the same sign have the same value if they are the same pair, or both zero. -/
theorem magnitude_eq_iff {left right : Nat} {low high : Int} (hleft : InFormat left low)
    (hright : InFormat right high) :
    magnitude left low = magnitude right high ↔
      left = 0 ∧ right = 0 ∨ left = right ∧ low = high := by
  constructor
  · exact fun heq => Or.inr (hleft.eq_of_magnitude_eq hright heq)
  · rintro (⟨rfl, rfl⟩ | ⟨rfl, rfl⟩)
    · rw [magnitude_eq_zero_iff.mpr rfl, magnitude_eq_zero_iff.mpr rfl]
    · rfl

/-- A number equals a finite one exactly if it has the same value. -/
theorem eqv_iff {left right : Double} {value : ℚ} (hleft : left.value? = some value) :
    left.eqv right = true ↔ right.value? = some value := by
  cases left with
  | infinite => nomatch hleft
  | nan => nomatch hleft
  | finite negative significand exponent inFormat =>
      obtain rfl := Option.some.inj hleft
      cases right with
      | infinite => simp [eqv, value?]
      | nan => simp [eqv, value?]
      | finite otherNegative other place otherInFormat =>
          simp only [eqv, value?, Bool.or_eq_true, Bool.and_eq_true, decide_eq_true_eq,
            Option.some.injEq]
          rw [eq_comm (b := if negative = true then _ else _)]
          cases negative <;> cases otherNegative
          case false.false => simp [magnitude_eq_iff inFormat otherInFormat]
          case false.true =>
            have hneg := @neg_magnitude_eq_iff other significand place exponent
            rw [eq_comm, and_comm] at hneg
            simp [hneg]
          case true.false => simp [neg_magnitude_eq_iff]
          case true.true => simp [magnitude_eq_iff inFormat otherInFormat]

end Assay.Number.Double
