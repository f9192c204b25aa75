import Mathlib
import Assay.Number.Rounding

/-! # Rounding to binary64 is correct

The rule of rounding is stated without the algorithm: of all numbers of the format the nearest
one is taken, of two equally near ones the one with the even significand, and from half a unit
beyond the largest number on the result is infinite. The rule leaves no choice, and rounding a
fraction or a decimal follows it.
-/

namespace Assay.Number

/-- The value `significand · 2 ^ exponent`. -/
def magnitude (significand : Nat) (exponent : Int) : ℚ := significand * (2 : ℚ) ^ exponent

/-- The least size that rounds to infinity: half a unit beyond the largest finite number. -/
def overflowBound : ℚ := magnitude (2 ^ 54 - 1) 970

/-- A number of the format is what a non-negative size rounds to. -/
structure IsNearest (size : ℚ) (significand : Nat) (exponent : Int) : Prop where
  inFormat : InFormat significand exponent
  size_lt : size < overflowBound
  le : ∀ other place, InFormat other place →
    |size - magnitude significand exponent| ≤ |size - magnitude other place|
  even : ∀ other place, InFormat other place →
    |size - magnitude other place| = |size - magnitude significand exponent| →
      magnitude other place = magnitude significand exponent ∨ significand % 2 = 0

/-- What a size with a sign rounds to. -/
inductive Double.IsRounding (negative : Bool) (size : ℚ) : Double → Prop
  | finite {significand : Nat} {exponent : Int} (inFormat : InFormat significand exponent)
      (hnearest : IsNearest size significand exponent) :
      IsRounding negative size (.finite negative significand exponent inFormat)
  | infinite (hsize : overflowBound ≤ size) : IsRounding negative size (.infinite negative)

/-! ## The numbers of the format -/

theorem inFormat_iff {significand : Nat} {exponent : Int} :
    InFormat significand exponent ↔ significand < 2 ^ 53 ∧ -1074 ≤ exponent ∧ exponent ≤ 971 ∧
      (2 ^ 52 ≤ significand ∨ exponent = -1074) := Iff.rfl

theorem magnitude_lt_magnitude {left right : Nat} (exponent : Int) (hlt : left < right) :
    magnitude left exponent < magnitude right exponent := by
  unfold magnitude
  have hcast : (left : ℚ) < right := by exact_mod_cast hlt
  have hpow : (0 : ℚ) < 2 ^ exponent := by positivity
  exact mul_lt_mul_of_pos_right hcast hpow

theorem magnitude_le_magnitude {left right : Nat} (exponent : Int) (hle : left ≤ right) :
    magnitude left exponent ≤ magnitude right exponent := by
  unfold magnitude
  have hcast : (left : ℚ) ≤ right := by exact_mod_cast hle
  have hpow : (0 : ℚ) < 2 ^ exponent := by positivity
  exact mul_le_mul_of_nonneg_right hcast hpow.le

/-- A value at a greater exponent stands on the grid of a smaller one. -/
theorem magnitude_add (significand : Nat) (exponent : Int) (shift : Nat) :
    magnitude significand (exponent + shift) = magnitude (significand * 2 ^ shift) exponent := by
  unfold magnitude
  rw [zpow_add₀ (by norm_num), zpow_natCast]
  push_cast
  ring

theorem exists_magnitude_of_le {significand : Nat} {small great : Int} (hle : small ≤ great) :
    ∃ multiple : Nat, magnitude significand great = magnitude multiple small := by
  obtain ⟨shift, rfl⟩ := Int.le.dest hle
  exact ⟨_, magnitude_add significand small shift⟩

theorem two_zpow_le {small great : Int} (hle : small ≤ great) :
    (2 : ℚ) ^ small ≤ 2 ^ great := zpow_le_zpow_right₀ (by norm_num) hle

theorem two_pow_eq_magnitude (bits : Nat) (exponent : Int) :
    (2 : ℚ) ^ (exponent + bits) = magnitude (2 ^ bits) exponent := by
  have hone := magnitude_add 1 exponent bits
  unfold magnitude at hone ⊢
  simpa using hone

/-- The numbers at an exponent lie below all that have a full significand at a greater one. -/
theorem magnitude_lt_of_exponent_lt {left right : Nat} {small great : Int}
    (hleft : left < 2 ^ 53) (hright : 2 ^ 52 ≤ right) (hlt : small < great) :
    magnitude left small < magnitude right great := by
  calc magnitude left small < magnitude (2 ^ 53) small := magnitude_lt_magnitude small hleft
    _ = (2 : ℚ) ^ (small + (53 : Nat)) := (two_pow_eq_magnitude 53 small).symm
    _ ≤ (2 : ℚ) ^ (great + (52 : Nat)) := two_zpow_le (by push_cast; omega)
    _ = magnitude (2 ^ 52) great := two_pow_eq_magnitude 52 great
    _ ≤ magnitude right great := magnitude_le_magnitude great hright

/-- Different pairs of the format stand for different values. -/
theorem InFormat.eq_of_magnitude_eq {left right : Nat} {low high : Int}
    (hleft : InFormat left low) (hright : InFormat right high)
    (heq : magnitude left low = magnitude right high) : left = right ∧ low = high := by
  rw [inFormat_iff] at hleft hright
  rcases lt_trichotomy low high with hlt | rfl | hgt
  · have := magnitude_lt_of_exponent_lt hleft.1 (by omega : 2 ^ 52 ≤ right) hlt
    exact absurd heq this.ne
  · rcases lt_trichotomy left right with hlt | rfl | hgt
    · exact absurd heq (magnitude_lt_magnitude low hlt).ne
    · exact ⟨rfl, rfl⟩
    · exact absurd heq (magnitude_lt_magnitude low hgt).ne'
  · have := magnitude_lt_of_exponent_lt hright.1 (by omega : 2 ^ 52 ≤ left) hgt
    exact absurd heq this.ne'

/-- No number of the format lies strictly between one and the next on its grid. -/
theorem InFormat.succ_le {left right : Nat} {low high : Int} (hleft : InFormat left low)
    (hright : InFormat right high) (hlt : magnitude left low < magnitude right high) :
    magnitude (left + 1) low ≤ magnitude right high := by
  rw [inFormat_iff] at hleft hright
  rcases le_or_gt low high with hle | hgt
  · obtain ⟨multiple, hmultiple⟩ := @exists_magnitude_of_le right _ _ hle
    rw [hmultiple] at hlt ⊢
    apply magnitude_le_magnitude
    by_contra hnot
    exact absurd hlt (not_lt.mpr (magnitude_le_magnitude low (by omega)))
  · have := magnitude_lt_of_exponent_lt hright.1 (by omega : 2 ^ 52 ≤ left) hgt
    exact absurd hlt (not_lt.mpr this.le)

/-! ## The rule leaves no choice -/

/-- Between two even neighbours of a size there is a number that is nearer than both. -/
theorem IsNearest.not_lt {size : ℚ} {left right : Nat} {low high : Int}
    (hleft : IsNearest size left low) (hright : IsNearest size right high)
    (heven : left % 2 = 0) : ¬ magnitude left low < magnitude right high := by
  intro hlt
  have hformat := inFormat_iff.mp hleft.inFormat
  have hnext : InFormat (left + 1) low := inFormat_iff.mpr ⟨by omega, by omega, by omega, by omega⟩
  have hstep := magnitude_lt_magnitude low (Nat.lt_succ_self left)
  have hbetween : magnitude (left + 1) low < magnitude right high := by
    apply lt_of_le_of_ne (hleft.inFormat.succ_le hright.inFormat hlt)
    intro heq
    obtain ⟨rfl, rfl⟩ := hnext.eq_of_magnitude_eq hright.inFormat heq
    have htie := hright.even left low hleft.inFormat
      (le_antisymm (hleft.le _ _ hright.inFormat) (hright.le _ _ hleft.inFormat))
    rcases htie with heq | hodd
    · exact hlt.ne heq
    · omega
  have hdistance := le_antisymm (hleft.le _ _ hright.inFormat) (hright.le _ _ hleft.inFormat)
  have hnear := hleft.le _ _ hnext
  -- The size is the midpoint, and the next number lies strictly inside.
  rcases abs_cases (size - magnitude left low) with hl | hl <;>
    rcases abs_cases (size - magnitude right high) with hr | hr <;>
    rcases abs_cases (size - magnitude (left + 1) low) with hn | hn <;> linarith

/-- There is at most one nearest number in the format, for of two neighbours at the same distance
only one is even. -/
theorem IsNearest.unique {size : ℚ} {left right : Nat} {low high : Int}
    (hleft : IsNearest size left low) (hright : IsNearest size right high) :
    left = right ∧ low = high := by
  have hdistance := le_antisymm (hleft.le _ _ hright.inFormat) (hright.le _ _ hleft.inFormat)
  apply hleft.inFormat.eq_of_magnitude_eq hright.inFormat
  rcases lt_trichotomy (magnitude left low) (magnitude right high) with hlt | heq | hgt
  · rcases hleft.even _ _ hright.inFormat hdistance.symm with heq | heven
    · exact heq.symm
    · exact absurd hlt (hleft.not_lt hright heven)
  · exact heq
  · rcases hright.even _ _ hleft.inFormat hdistance with heq | heven
    · exact heq
    · exact absurd hgt (hright.not_lt hleft heven)

/-- A signed size rounds to one number only. -/
theorem Double.IsRounding.unique {negative : Bool} {size : ℚ} {left right : Double}
    (hleft : left.IsRounding negative size) (hright : right.IsRounding negative size) :
    left = right := by
  cases hleft with
  | finite _ hnearest =>
    cases hright with
    | finite _ hother =>
      obtain ⟨rfl, rfl⟩ := hnearest.unique hother
      rfl
    | infinite hsize => exact absurd hnearest.size_lt (not_lt.mpr hsize)
  | infinite hsize =>
    cases hright with
    | finite _ hother => exact absurd hother.size_lt (not_lt.mpr hsize)
    | infinite => rfl

/-! ## The nearest point of a grid -/

/-- A multiple of `2 ^ exponent` is at most half a unit away from a size, and even when it is
exactly half a unit away. -/
structure IsRoundedTo (size : ℚ) (exponent : Int) (multiple : Nat) : Prop where
  le_half : |size - magnitude multiple exponent| ≤ 2 ^ exponent / 2
  even : |size - magnitude multiple exponent| = 2 ^ exponent / 2 → multiple % 2 = 0

theorem magnitude_succ (significand : Nat) (exponent : Int) :
    magnitude (significand + 1) exponent = magnitude significand exponent + 2 ^ exponent := by
  unfold magnitude
  push_cast
  ring

/-- Different points of a grid are at least a unit apart. -/
theorem unit_le_abs_sub {left right : Nat} (exponent : Int) (hne : left ≠ right) :
    (2 : ℚ) ^ exponent ≤ |magnitude left exponent - magnitude right exponent| := by
  rcases Nat.lt_or_gt_of_ne hne with hlt | hgt
  · have hstep := magnitude_le_magnitude exponent (Nat.succ_le_of_lt hlt)
    rw [Nat.succ_eq_add_one, magnitude_succ] at hstep
    rw [abs_sub_comm]
    exact le_trans (by linarith) (le_abs_self _)
  · have hstep := magnitude_le_magnitude exponent (Nat.succ_le_of_lt hgt)
    rw [Nat.succ_eq_add_one, magnitude_succ] at hstep
    exact le_trans (by linarith) (le_abs_self _)

namespace IsRoundedTo

variable {size : ℚ} {exponent : Int} {multiple : Nat}

/-- No other multiple is nearer, and none is as near unless the multiple taken is even. -/
theorem le_of_multiple (hround : IsRoundedTo size exponent multiple) (other : Nat) :
    |size - magnitude multiple exponent| ≤ |size - magnitude other exponent| ∧
      (|size - magnitude other exponent| = |size - magnitude multiple exponent| →
        magnitude other exponent = magnitude multiple exponent ∨ multiple % 2 = 0) := by
  by_cases hother : other = multiple
  · subst hother
    exact ⟨le_refl _, fun _ => Or.inl rfl⟩
  · have hapart := unit_le_abs_sub exponent hother
    have htriangle := abs_sub_le (magnitude other exponent) size (magnitude multiple exponent)
    rw [abs_sub_comm _ size] at htriangle
    have hhalf := hround.le_half
    refine ⟨by linarith, fun htie => Or.inr (hround.even ?_)⟩
    linarith

/-- The rounded multiple is nearest among all numbers of the format: those off the grid have a
smaller exponent and lie below a point of the grid that is no greater than the size. -/
theorem le_of_inFormat (hround : IsRoundedTo size exponent multiple)
    (hsize : exponent = -1074 ∨ magnitude (2 ^ 52) exponent ≤ size)
    {other : Nat} {place : Int} (hformat : InFormat other place) :
    |size - magnitude multiple exponent| ≤ |size - magnitude other place| ∧
      (|size - magnitude other place| = |size - magnitude multiple exponent| →
        magnitude other place = magnitude multiple exponent ∨ multiple % 2 = 0) := by
  rw [inFormat_iff] at hformat
  rcases le_or_gt exponent place with hle | hgt
  · obtain ⟨grid, hgrid⟩ := @exists_magnitude_of_le other _ _ hle
    rw [hgrid]
    exact hround.le_of_multiple grid
  · have hfull : magnitude (2 ^ 52) exponent ≤ size := hsize.resolve_left (by omega)
    have hbelow := magnitude_lt_of_exponent_lt hformat.1 (le_refl (2 ^ 52)) hgt
    have hpoint := (hround.le_of_multiple (2 ^ 52)).1
    rw [abs_of_nonneg (by linarith : (0 : ℚ) ≤ size - magnitude (2 ^ 52) exponent)] at hpoint
    rw [abs_of_nonneg (by linarith : (0 : ℚ) ≤ size - magnitude other place)]
    exact ⟨by linarith, fun htie => absurd htie (by linarith)⟩

theorem le_succ (hround : IsRoundedTo size exponent multiple) :
    size ≤ magnitude multiple exponent + 2 ^ exponent / 2 := by
  have := (abs_le.mp hround.le_half).2
  linarith

theorem le_add (hround : IsRoundedTo size exponent multiple) :
    magnitude multiple exponent ≤ size + 2 ^ exponent / 2 := by
  have := (abs_le.mp hround.le_half).1
  linarith

/-- Rounding does not pass a point of the grid from below. -/
theorem le_of_lt_point (hround : IsRoundedTo size exponent multiple) {bound : Nat}
    (hsize : size < magnitude bound exponent) : multiple ≤ bound := by
  by_contra hnot
  have hstep := magnitude_le_magnitude exponent (show bound + 1 ≤ multiple by omega)
  rw [magnitude_succ] at hstep
  have hunit : (0 : ℚ) < 2 ^ exponent := by positivity
  have := hround.le_add
  linarith

/-- Rounding does not pass a point of the grid from above. -/
theorem le_of_point_le (hround : IsRoundedTo size exponent multiple) {bound : Nat}
    (hsize : magnitude bound exponent ≤ size) : bound ≤ multiple := by
  by_contra hnot
  have hstep := magnitude_le_magnitude exponent (show multiple + 1 ≤ bound by omega)
  rw [magnitude_succ] at hstep
  have hunit : (0 : ℚ) < 2 ^ exponent := by positivity
  have := hround.le_succ
  linarith

end IsRoundedTo

/-! ## Choosing the parts of a number -/

/-- The bound is the largest finite number and half a unit. -/
theorem overflowBound_eq {largest : Nat} {exponent : Int} (hlargest : largest + 1 = 2 ^ 53)
    (hexponent : exponent = 971) :
    overflowBound = magnitude largest exponent + 2 ^ exponent / 2 := by
  have hunit : (2 : ℚ) ^ exponent = 2 * 2 ^ (970 : Int) := by
    rw [hexponent, show (971 : Int) = 970 + 1 from rfl, zpow_add_one₀ (by norm_num)]
    ring
  obtain rfl : largest = 2 ^ 53 - 1 := by omega
  unfold overflowBound magnitude
  rw [hunit]
  generalize (2 : ℚ) ^ (970 : Int) = unit
  push_cast
  norm_num
  ring

theorem magnitude_le_overflowBound {exponent : Int} (hexponent : exponent ≤ 970) :
    magnitude (2 ^ 53) exponent ≤ overflowBound := by
  calc magnitude (2 ^ 53) exponent = (2 : ℚ) ^ (exponent + (53 : Nat)) :=
        (two_pow_eq_magnitude 53 exponent).symm
    _ ≤ (2 : ℚ) ^ ((970 : Int) + (53 : Nat)) := two_zpow_le (by omega)
    _ = magnitude (2 ^ 53) 970 := two_pow_eq_magnitude 53 970
    _ ≤ overflowBound := magnitude_le_magnitude 970 (by norm_num)

theorem overflowBound_le_magnitude {exponent : Int} (hexponent : 972 ≤ exponent) :
    overflowBound ≤ magnitude (2 ^ 52) exponent := by
  calc overflowBound ≤ magnitude (2 ^ 54) 970 := magnitude_le_magnitude 970 (by norm_num)
    _ = (2 : ℚ) ^ ((970 : Int) + (54 : Nat)) := (two_pow_eq_magnitude 54 970).symm
    _ ≤ (2 : ℚ) ^ (exponent + (52 : Nat)) := two_zpow_le (by push_cast; omega)
    _ = magnitude (2 ^ 52) exponent := two_pow_eq_magnitude 52 exponent

namespace IsRoundedTo

variable {size : ℚ} {exponent : Int} {multiple : Nat}

/-- A size that rounds to a significand of the format is below the bound. The largest
significand is odd, so half a unit above it does not round down. -/
theorem lt_overflowBound (hround : IsRoundedTo size exponent multiple)
    (hmultiple : multiple < 2 ^ 53) (hexponent : exponent ≤ 971) : size < overflowBound := by
  have hunit : (0 : ℚ) < 2 ^ exponent := by positivity
  have hsize := hround.le_succ
  rcases lt_or_eq_of_le hexponent with hlt | hgreatest
  · have hstep := magnitude_le_magnitude exponent (Nat.succ_le_of_lt hmultiple)
    rw [Nat.succ_eq_add_one, magnitude_succ] at hstep
    have := @magnitude_le_overflowBound exponent (by omega)
    linarith
  · obtain ⟨largest, hlargest⟩ : ∃ largest, largest + 1 = 2 ^ 53 := ⟨2 ^ 53 - 1, rfl⟩
    rw [overflowBound_eq hlargest hgreatest]
    rcases Nat.lt_or_eq_of_le (show multiple ≤ largest by omega) with hlt | rfl
    · have hstep := magnitude_le_magnitude exponent (Nat.succ_le_of_lt hlt)
      rw [Nat.succ_eq_add_one, magnitude_succ] at hstep
      linarith
    · apply lt_of_le_of_ne hsize
      intro htie
      have heven := hround.even (by rw [htie, add_sub_cancel_left, abs_of_pos (by linarith)])
      omega

/-- Rounding to multiples of a power of two is rounding to the format, when the exponent is the one
that fits. -/
theorem isNearest (hround : IsRoundedTo size exponent multiple)
    (hfull : exponent = -1074 ∨ magnitude (2 ^ 52) exponent ≤ size)
    (hformat : InFormat multiple exponent) : IsNearest size multiple exponent where
  inFormat := hformat
  size_lt := hround.lt_overflowBound (inFormat_iff.mp hformat).1 (inFormat_iff.mp hformat).2.2.1
  le _ _ hother := (hround.le_of_inFormat hfull hother).1
  even _ _ hother := (hround.le_of_inFormat hfull hother).2

/-- A significand that was rounded up to the next power of two is halved. -/
theorem isNearest_carry (hround : IsRoundedTo size exponent (2 ^ 53))
    (hfull : exponent = -1074 ∨ magnitude (2 ^ 52) exponent ≤ size)
    (hsize : size < magnitude (2 ^ 53) exponent)
    (hformat : InFormat (2 ^ 52) (exponent + 1)) : IsNearest size (2 ^ 52) (exponent + 1) := by
  have hvalue : magnitude (2 ^ 52) (exponent + 1) = magnitude (2 ^ 53) exponent := by
    have := magnitude_add (2 ^ 52) exponent 1
    norm_num at this ⊢
    exact this
  have hexponent := (inFormat_iff.mp hformat).2.2.1
  refine ⟨hformat, lt_of_lt_of_le hsize (magnitude_le_overflowBound (by omega)), ?_, ?_⟩
  · intro other place hother
    rw [hvalue]
    exact (hround.le_of_inFormat hfull hother).1
  · intro other place hother htie
    exact Or.inr (by norm_num)

end IsRoundedTo

/-- The parts that come out of rounding make the double that is the rounding, also when it carries
over to the next exponent or overflows. -/
theorem Double.ofParts_isRounding (negative : Bool) {size : ℚ} {exponent : Int} {multiple : Nat}
    (hround : IsRoundedTo size exponent multiple) (hlow : -1074 ≤ exponent)
    (hfull : exponent = -1074 ∨ magnitude (2 ^ 52) exponent ≤ size)
    (hsize : size < magnitude (2 ^ 53) exponent) :
    (Double.ofParts negative multiple exponent).IsRounding negative size := by
  have hmost : multiple ≤ 2 ^ 53 := hround.le_of_lt_point hsize
  have hleast : exponent = -1074 ∨ 2 ^ 52 ≤ multiple := hfull.imp_right hround.le_of_point_le
  unfold Double.ofParts
  split
  next hfits => exact .finite hfits (hround.isNearest hfull hfits)
  next hfits =>
    rw [inFormat_iff] at hfits
    split
    next hcarry =>
      have hexponent := (inFormat_iff.mp hcarry).2.2.1
      obtain rfl : multiple = 2 ^ 53 := by omega
      exact .finite hcarry (hround.isNearest_carry hfull hsize hcarry)
    next hcarry =>
      rw [inFormat_iff] at hcarry
      apply Double.IsRounding.infinite
      rcases lt_or_ge 971 exponent with hgt | hle
      · have := @overflowBound_le_magnitude exponent (by omega)
        exact this.trans (hfull.resolve_left (by omega))
      · -- Only a carry at the greatest exponent is left.
        obtain ⟨largest, rfl⟩ : ∃ largest, largest + 1 = multiple := ⟨2 ^ 53 - 1, by omega⟩
        rw [overflowBound_eq (by omega : largest + 1 = 2 ^ 53) (by omega : exponent = 971)]
        have := hround.le_add
        rw [magnitude_succ] at this
        linarith

/-! ## Rounding a fraction -/

theorem zpow_eq_pow_div_pow (base : ℚ) (exponent : Int) :
    base ^ exponent = base ^ exponent.toNat / base ^ (-exponent).toNat := by
  rcases Int.le_total 0 exponent with hnonneg | hneg
  · obtain ⟨shift, rfl⟩ := Int.eq_ofNat_of_zero_le hnonneg
    simp
  · obtain ⟨shift, hshift⟩ := Int.eq_ofNat_of_zero_le (Int.neg_nonneg_of_nonpos hneg)
    obtain rfl : exponent = -(shift : Int) := by omega
    simp [zpow_neg]

theorem scaleDown_snd_pos {denominator : Nat} (numerator : Nat) (hpos : 0 < denominator)
    (exponent : Int) : 0 < (scaleDown numerator denominator exponent).2 :=
  Nat.mul_pos hpos (Nat.pow_pos (by decide))

/-- Scaling divides the fraction by the power of two. -/
theorem scaleDown_div (numerator denominator : Nat) (exponent : Int) :
    ((scaleDown numerator denominator exponent).1 : ℚ) /
        (scaleDown numerator denominator exponent).2 =
      (numerator : ℚ) / denominator / 2 ^ exponent := by
  rw [zpow_eq_pow_div_pow 2 exponent]
  simp only [scaleDown, Nat.pow_eq]
  push_cast
  rw [div_div_eq_mul_div, div_mul_eq_mul_div, div_div]

/-- The chosen quotient is at most half away from the fraction, and even if it is half away. -/
theorem roundHalfEven_spec (numerator : Nat) {denominator : Nat} (hpos : 0 < denominator) :
    |(numerator : ℚ) / denominator - roundHalfEven numerator denominator| ≤ 1 / 2 ∧
      (|(numerator : ℚ) / denominator - roundHalfEven numerator denominator| = 1 / 2 →
        roundHalfEven numerator denominator % 2 = 0) := by
  have hcast : (0 : ℚ) < denominator := by exact_mod_cast hpos
  have hvalue : (numerator : ℚ) / denominator =
      (numerator / denominator : Nat) + ((numerator % denominator : Nat) : ℚ) / denominator := by
    rw [div_eq_iff hcast.ne', add_mul, div_mul_cancel₀ _ hcast.ne', mul_comm]
    exact_mod_cast (Nat.div_add_mod numerator denominator).symm
  have hlow : (0 : ℚ) ≤ ((numerator % denominator : Nat) : ℚ) / denominator := by positivity
  have hhigh : ((numerator % denominator : Nat) : ℚ) / denominator < 1 := by
    rw [div_lt_one hcast]
    exact_mod_cast Nat.mod_lt numerator hpos
  have hbelow : ((numerator % denominator : Nat) : ℚ) / denominator < 1 / 2 ↔
      2 * (numerator % denominator) < denominator := by
    rw [div_lt_div_iff₀ hcast (by norm_num), ← Nat.cast_lt (α := ℚ)]
    push_cast
    constructor <;> intro h <;> linarith
  have habove : 1 / 2 < ((numerator % denominator : Nat) : ℚ) / denominator ↔
      denominator < 2 * (numerator % denominator) := by
    rw [div_lt_div_iff₀ (by norm_num) hcast, ← Nat.cast_lt (α := ℚ)]
    push_cast
    constructor <;> intro h <;> linarith
  unfold roundHalfEven
  rw [hvalue]
  generalize ((numerator % denominator : Nat) : ℚ) / denominator = part at *
  dsimp only
  split
  next hless =>
    have hpart := hbelow.mpr hless
    rw [add_sub_cancel_left, abs_of_nonneg hlow]
    exact ⟨hpart.le, fun htie => absurd htie hpart.ne⟩
  next hless =>
    have hleast := not_lt.mp (mt hbelow.mp hless)
    split
    next hgreater =>
      have hpart := habove.mpr hgreater
      push_cast
      rw [add_sub_add_left_eq_sub, abs_of_neg (by linarith)]
      exact ⟨by linarith, fun htie => absurd htie (by linarith)⟩
    next hgreater =>
      have hmost := not_lt.mp (mt habove.mp hgreater)
      obtain rfl : part = 1 / 2 := le_antisymm hmost hleast
      split
      next heven =>
        refine ⟨?_, fun _ => heven⟩
        rw [add_sub_cancel_left]
        norm_num
      next hodd =>
        refine ⟨?_, fun _ => by omega⟩
        push_cast
        rw [add_sub_add_left_eq_sub]
        norm_num

theorem isRoundedTo_roundHalfEven {size : ℚ} {exponent : Int} {numerator denominator : Nat}
    (hpos : 0 < denominator) (hsize : (numerator : ℚ) / denominator = size / 2 ^ exponent) :
    IsRoundedTo size exponent (roundHalfEven numerator denominator) := by
  have hunit : (0 : ℚ) < 2 ^ exponent := by positivity
  obtain ⟨hhalf, heven⟩ := roundHalfEven_spec numerator hpos
  rw [hsize] at hhalf heven
  have hscale : size - magnitude (roundHalfEven numerator denominator) exponent =
      (size / 2 ^ exponent - roundHalfEven numerator denominator) * 2 ^ exponent := by
    unfold magnitude
    rw [sub_mul, div_mul_cancel₀ _ hunit.ne']
  have hdistance : |size - magnitude (roundHalfEven numerator denominator) exponent| =
      |size / 2 ^ exponent - roundHalfEven numerator denominator| * 2 ^ exponent := by
    rw [hscale, abs_mul, abs_of_pos hunit]
  constructor
  · rw [hdistance, div_eq_inv_mul (2 ^ exponent), ← one_div]
    exact mul_le_mul_of_nonneg_right hhalf hunit.le
  · intro htie
    rw [hdistance, div_eq_inv_mul (2 ^ exponent), ← one_div] at htie
    exact heven (mul_right_cancel₀ hunit.ne' htie)

/-- The bit lengths of a fraction's parts enclose it between two powers of two. -/
theorem two_zpow_log2_bounds {numerator denominator : Nat} (hnum : numerator ≠ 0)
    (hden : denominator ≠ 0) :
    (2 : ℚ) ^ ((numerator.log2 : Int) - denominator.log2 - 1) < (numerator : ℚ) / denominator ∧
      (numerator : ℚ) / denominator < 2 ^ ((numerator.log2 : Int) - denominator.log2 + 1) := by
  have hcast : (0 : ℚ) < denominator := by exact_mod_cast Nat.pos_of_ne_zero hden
  have hnumLow : (2 : ℚ) ^ (numerator.log2 : Int) ≤ numerator := by
    rw [zpow_natCast]
    exact_mod_cast Nat.log2_self_le hnum
  have hnumHigh : (numerator : ℚ) < 2 ^ ((numerator.log2 : Int) + 1) := by
    rw [← Nat.cast_add_one, zpow_natCast]
    exact_mod_cast Nat.lt_log2_self
  have hdenLow : (2 : ℚ) ^ (denominator.log2 : Int) ≤ denominator := by
    rw [zpow_natCast]
    exact_mod_cast Nat.log2_self_le hden
  have hdenHigh : (denominator : ℚ) < 2 ^ ((denominator.log2 : Int) + 1) := by
    rw [← Nat.cast_add_one, zpow_natCast]
    exact_mod_cast Nat.lt_log2_self
  constructor
  · rw [lt_div_iff₀ hcast]
    calc (2 : ℚ) ^ ((numerator.log2 : Int) - denominator.log2 - 1) * denominator
        < 2 ^ ((numerator.log2 : Int) - denominator.log2 - 1) *
            2 ^ ((denominator.log2 : Int) + 1) :=
          mul_lt_mul_of_pos_left hdenHigh (by positivity)
      _ = 2 ^ (numerator.log2 : Int) := by
          rw [← zpow_add₀ (by norm_num)]
          congr 1
          ring
      _ ≤ numerator := hnumLow
  · rw [div_lt_iff₀ hcast]
    calc (numerator : ℚ) < 2 ^ ((numerator.log2 : Int) + 1) := hnumHigh
      _ = 2 ^ ((numerator.log2 : Int) - denominator.log2 + 1) * 2 ^ (denominator.log2 : Int) := by
          rw [← zpow_add₀ (by norm_num)]
          congr 1
          ring
      _ ≤ 2 ^ ((numerator.log2 : Int) - denominator.log2 + 1) * denominator :=
          mul_le_mul_of_nonneg_left hdenLow (by positivity)

/-- The scaled fraction fits into 53 bits exactly when the fraction lies below the power. -/
theorem scaleDown_lt_iff {denominator : Nat} (numerator : Nat) (hpos : 0 < denominator)
    (exponent : Int) :
    (scaleDown numerator denominator exponent).1 <
        (scaleDown numerator denominator exponent).2 * Nat.pow 2 53 ↔
      (numerator : ℚ) / denominator < magnitude (2 ^ 53) exponent := by
  have hscaled : (0 : ℚ) < (scaleDown numerator denominator exponent).2 := by
    exact_mod_cast scaleDown_snd_pos numerator hpos exponent
  have hunit : (0 : ℚ) < 2 ^ exponent := by positivity
  have hvalue := scaleDown_div numerator denominator exponent
  rw [Nat.pow_eq, magnitude, ← div_lt_iff₀ hunit, ← hvalue, div_lt_iff₀ hscaled, mul_comm,
    ← Nat.cast_lt (α := ℚ), Nat.cast_mul]

/-- The exponent that fits leaves 53 bits, or fewer when it is the smallest exponent. -/
theorem fittingExponent_spec {numerator denominator : Nat} (hnum : numerator ≠ 0)
    (hden : denominator ≠ 0) :
    -1074 ≤ fittingExponent numerator denominator ∧
      (numerator : ℚ) / denominator <
        magnitude (2 ^ 53) (fittingExponent numerator denominator) ∧
      (fittingExponent numerator denominator = -1074 ∨
        magnitude (2 ^ 52) (fittingExponent numerator denominator) ≤
          (numerator : ℚ) / denominator) := by
  obtain ⟨hlow, hhigh⟩ := two_zpow_log2_bounds hnum hden
  have hfits := scaleDown_lt_iff numerator (Nat.pos_of_ne_zero hden)
    ((numerator.log2 : Int) - denominator.log2 - 53)
  unfold fittingExponent
  generalize hguess : (numerator.log2 : Int) - denominator.log2 - 53 = guess at *
  rw [show (numerator.log2 : Int) - denominator.log2 - 1 = guess + (52 : Nat) by omega,
    two_pow_eq_magnitude] at hlow
  rw [show (numerator.log2 : Int) - denominator.log2 + 1 = guess + 1 + (53 : Nat) by omega,
    two_pow_eq_magnitude] at hhigh
  dsimp only
  -- Before it is raised to the least exponent of the format, the candidate is exact.
  obtain ⟨candidate, hcandidate⟩ : ∃ candidate, candidate = if
      (scaleDown numerator denominator guess).1 <
        (scaleDown numerator denominator guess).2 * Nat.pow 2 53 then guess else guess + 1 :=
    ⟨_, rfl⟩
  rw [← hcandidate]
  have hexact : (numerator : ℚ) / denominator < magnitude (2 ^ 53) candidate ∧
      magnitude (2 ^ 52) candidate ≤ (numerator : ℚ) / denominator := by
    split at hcandidate
    next hless =>
      subst hcandidate
      exact ⟨hfits.mp hless, hlow.le⟩
    next hless =>
      subst hcandidate
      refine ⟨hhigh, ?_⟩
      have hpoint := not_lt.mp (mt hfits.mpr hless)
      rwa [← two_pow_eq_magnitude, show guess + (53 : Nat) = guess + 1 + (52 : Nat) by omega,
        two_pow_eq_magnitude] at hpoint
  refine ⟨le_max_right _ _, ?_, ?_⟩
  · apply lt_of_lt_of_le hexact.1
    rw [← two_pow_eq_magnitude, ← two_pow_eq_magnitude]
    exact two_zpow_le (by omega)
  · rcases le_total candidate (-1074) with hle | hge
    · exact Or.inl (max_eq_right hle)
    · rw [max_eq_left hge]
      exact Or.inr hexact.2

/-- A size of at most half the smallest number rounds to zero. -/
theorem Double.zero_isRounding (negative : Bool) {size : ℚ} (hsize : 0 ≤ size)
    (hsmall : size ≤ 2 ^ (-1074 : Int) / 2) : (Double.zero negative).IsRounding negative size := by
  have hround : IsRoundedTo size (-1074) 0 := by
    have hzero : size - magnitude 0 (-1074) = size := by simp [magnitude]
    refine ⟨?_, fun _ => rfl⟩
    rw [hzero, abs_of_nonneg hsize]
    exact hsmall
  have hformat : InFormat 0 (-1074) := by decide
  exact .finite hformat (hround.isNearest (Or.inl rfl) hformat)

/-- A fraction is rounded to the nearest number. -/
theorem Double.ofRatio_isRounding (negative : Bool) (numerator : Nat) {denominator : Nat}
    (hpos : 0 < denominator) :
    (Double.ofRatio negative numerator denominator).IsRounding negative
      ((numerator : ℚ) / denominator) := by
  unfold Double.ofRatio
  split
  next hzero =>
    subst hzero
    apply Double.zero_isRounding
    · simp
    · rw [Nat.cast_zero, zero_div]
      positivity
  next hnonzero =>
    have hdivisor : 0 < Nat.gcd numerator denominator := Nat.gcd_pos_of_pos_right _ hpos
    have hdivisorCast : ((Nat.gcd numerator denominator : Nat) : ℚ) ≠ 0 := by
      exact_mod_cast hdivisor.ne'
    have hreduced : (numerator : ℚ) / denominator =
        ((numerator / Nat.gcd numerator denominator : Nat) : ℚ) /
          (denominator / Nat.gcd numerator denominator : Nat) := by
      rw [Nat.cast_div (Nat.gcd_dvd_left _ _) hdivisorCast,
        Nat.cast_div (Nat.gcd_dvd_right _ _) hdivisorCast, div_div_div_cancel_right₀ hdivisorCast]
    have hnum : numerator / Nat.gcd numerator denominator ≠ 0 :=
      (Nat.div_pos (Nat.le_of_dvd (Nat.pos_of_ne_zero hnonzero) (Nat.gcd_dvd_left _ _))
        hdivisor).ne'
    have hden : denominator / Nat.gcd numerator denominator ≠ 0 :=
      (Nat.div_pos (Nat.le_of_dvd hpos (Nat.gcd_dvd_right _ _)) hdivisor).ne'
    rw [hreduced]
    dsimp only
    generalize numerator / Nat.gcd numerator denominator = top at hnum ⊢
    generalize denominator / Nat.gcd numerator denominator = bottom at hden ⊢
    obtain ⟨hlow, hsize, hfull⟩ := fittingExponent_spec hnum hden
    have hround := isRoundedTo_roundHalfEven
      (scaleDown_snd_pos top (Nat.pos_of_ne_zero hden) (fittingExponent top bottom))
      (scaleDown_div top bottom (fittingExponent top bottom))
    exact Double.ofParts_isRounding negative hround hlow hfull hsize

/-! ## Rounding a decimal -/

theorem lt_ten_pow_digitCount {number : Nat} (hnumber : number ≠ 0) :
    number < 10 ^ digitCount number := by
  rw [digitCount, if_neg hnumber]
  exact (Nat.length_toDigits_le_iff (by decide) Nat.length_toDigits_pos).mp le_rfl

/-- The number of digits bounds a number from below. -/
theorem ten_pow_le_of_digitCount {number : Nat} (hnumber : number ≠ 0) :
    10 ^ (digitCount number - 1) ≤ number := by
  rw [digitCount, if_neg hnumber]
  by_contra hnot
  rcases Nat.eq_zero_or_pos ((Nat.toDigits 10 number).length - 1) with hone | hmore
  · rw [hone] at hnot
    omega
  · have hlength := (Nat.length_toDigits_le_iff (by decide) hmore).mpr (not_le.mp hnot)
    have hpos : 0 < (Nat.toDigits 10 number).length := Nat.length_toDigits_pos
    omega

/-- The place of the first digit encloses a decimal between two powers of ten. -/
theorem ten_zpow_digitCount_bounds {digits : Nat} (hdigits : digits ≠ 0) (exponent : Int) :
    (10 : ℚ) ^ (exponent + digitCount digits - 1) ≤ digits * 10 ^ exponent ∧
      (digits : ℚ) * 10 ^ exponent < 10 ^ (exponent + digitCount digits) := by
  have hpower : (0 : ℚ) < 10 ^ exponent := by positivity
  have hcount : 0 < digitCount digits := by
    rw [digitCount, if_neg hdigits]
    exact Nat.length_toDigits_pos
  constructor
  · have hleast : ((10 ^ (digitCount digits - 1) : Nat) : ℚ) ≤ digits := by
      exact_mod_cast ten_pow_le_of_digitCount hdigits
    rw [show exponent + (digitCount digits : Int) - 1 =
      ((digitCount digits - 1 : Nat) : Int) + exponent by omega, zpow_add₀ (by norm_num),
      zpow_natCast]
    push_cast at hleast
    exact mul_le_mul_of_nonneg_right hleast hpower.le
  · have hmost : (digits : ℚ) < ((10 ^ digitCount digits : Nat) : ℚ) := by
      exact_mod_cast lt_ten_pow_digitCount hdigits
    rw [add_comm, zpow_add₀ (by norm_num), zpow_natCast]
    push_cast at hmost
    exact mul_lt_mul_of_pos_right hmost hpower

/-- A power of ten is above the power of two with three times the exponent. -/
theorem two_zpow_le_ten_zpow (exponent : Nat) : (2 : ℚ) ^ (3 * exponent) ≤ 10 ^ exponent := by
  rw [pow_mul]
  exact pow_le_pow_left₀ (by norm_num) (by norm_num) exponent

/-- A place beyond 400 overflows, so the long numbers need not be computed. -/
theorem overflowBound_le_ten_zpow {place : Int} (hplace : 400 ≤ place) :
    overflowBound ≤ 10 ^ place := by
  calc overflowBound ≤ magnitude (2 ^ 52) 972 := overflowBound_le_magnitude le_rfl
    _ = (2 : ℚ) ^ ((972 : Int) + (52 : Nat)) := (two_pow_eq_magnitude 52 972).symm
    _ ≤ (2 : ℚ) ^ ((3 * 400 : Nat) : Int) := two_zpow_le (by norm_num)
    _ = (2 : ℚ) ^ (3 * 400) := zpow_natCast _ _
    _ ≤ 10 ^ 400 := two_zpow_le_ten_zpow 400
    _ = (10 : ℚ) ^ ((400 : Nat) : Int) := (zpow_natCast _ _).symm
    _ ≤ 10 ^ place := zpow_le_zpow_right₀ (by norm_num) hplace

/-- A place below -400 vanishes, so the long quotients need not be computed. -/
theorem ten_zpow_le_half_unit {place : Int} (hplace : place ≤ -400) :
    (10 : ℚ) ^ place ≤ 2 ^ (-1074 : Int) / 2 := by
  calc (10 : ℚ) ^ place ≤ 10 ^ (-((400 : Nat) : Int)) := zpow_le_zpow_right₀ (by norm_num) hplace
    _ = ((10 : ℚ) ^ 400)⁻¹ := by rw [zpow_neg, zpow_natCast]
    _ ≤ ((2 : ℚ) ^ (3 * 400))⁻¹ := inv_anti₀ (by positivity) (two_zpow_le_ten_zpow 400)
    _ = (2 : ℚ) ^ (-((3 * 400 : Nat) : Int)) := by rw [zpow_neg, zpow_natCast]
    _ ≤ (2 : ℚ) ^ ((-1074 : Int) - 1) := two_zpow_le (by norm_num)
    _ = 2 ^ (-1074 : Int) / 2 := zpow_sub_one₀ (by norm_num) _

/-- A decimal is rounded to the nearest number, whatever its digits and its exponent. -/
theorem Double.ofDecimal_isRounding (negative : Bool) (digits : Nat) (exponent : Int) :
    (Double.ofDecimal negative digits exponent).IsRounding negative
      ((digits : ℚ) * 10 ^ exponent) := by
  unfold Double.ofDecimal
  split
  next hzero =>
    subst hzero
    apply Double.zero_isRounding
    · simp
    · rw [Nat.cast_zero, zero_mul]
      positivity
  next hnonzero =>
    obtain ⟨hleast, hmost⟩ := ten_zpow_digitCount_bounds hnonzero exponent
    dsimp only
    split
    next hgreat =>
      exact .infinite ((overflowBound_le_ten_zpow (by omega)).trans hleast)
    next =>
      split
      next hsmall =>
        apply Double.zero_isRounding negative (by positivity)
        exact hmost.le.trans (ten_zpow_le_half_unit (by omega))
      next =>
        have hvalue : (digits : ℚ) * 10 ^ exponent =
            ((digits * Nat.pow 10 exponent.toNat : Nat) : ℚ) /
              (Nat.pow 10 (-exponent).toNat : Nat) := by
          rw [zpow_eq_pow_div_pow 10 exponent, Nat.pow_eq, Nat.pow_eq]
          push_cast
          rw [mul_div_assoc]
        rw [hvalue]
        exact Double.ofRatio_isRounding negative _ (Nat.pow_pos (by decide))

/-- Rounding a decimal gives a number exactly when this is what its value rounds to. -/
theorem Double.ofDecimal_eq_iff {negative : Bool} {digits : Nat} {exponent : Int}
    {number : Double} :
    Double.ofDecimal negative digits exponent = number ↔
      number.IsRounding negative ((digits : ℚ) * 10 ^ exponent) := by
  constructor
  · rintro rfl
    exact Double.ofDecimal_isRounding negative digits exponent
  · exact (Double.ofDecimal_isRounding negative digits exponent).unique

end Assay.Number
