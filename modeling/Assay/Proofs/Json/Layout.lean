import Assay.Json.Writer
import Assay.Proofs.Json.Numeral
import Assay.Proofs.Number.Shortest

/-! # The text of a number is a numeral

Integers and finite numbers are written as numerals of the grammar that denote them. A binary64
number always has a fraction or an exponent in its text, so it is not read as an integer.
-/

namespace Assay.Json

open Number (Double Decimal digitsOf ofDigits magnitude)

theorem areDigits_digitsOf (number : Nat) : AreDigits (digitsOf number) :=
  areDigits_iff.mpr ⟨Number.digitsOf_ne_nil number, fun _ => Number.isDigit_of_mem_digitsOf⟩

theorem areDigits_zero : AreDigits ['0'] :=
  ⟨List.cons_ne_nil _ _, List.forall_mem_singleton.mpr (by decide)⟩

theorem areDigits_append {left right : List Char} (hleft : AreDigits left)
    (hright : ∀ c ∈ right, c.isDigit = true) : AreDigits (left ++ right) := by
  rw [areDigits_iff] at hleft ⊢
  refine ⟨by simp [hleft.1], fun c hmem => ?_⟩
  rcases List.mem_append.mp hmem with hmem | hmem
  · exact hleft.2 c hmem
  · exact hright c hmem

theorem isDigit_of_mem_zeros {count : Nat} {c : Char} (hmem : c ∈ List.replicate count '0') :
    c.isDigit = true := by
  rw [List.eq_of_mem_replicate hmem]
  rfl

/-- Digits that do not start with a zero are those of an integer. -/
theorem isWhole_of_areDigits {digits : List Char} (hdigits : AreDigits digits)
    (hfirst : digits.head? ≠ some '0') : IsWhole digits := by
  cases digits with
  | nil => exact absurd rfl hdigits.1
  | cons first rest => exact .digits (by simpa using hfirst) hdigits

theorem isWhole_digitsOf (number : Nat) : IsWhole (digitsOf number) := by
  rcases Nat.eq_zero_or_pos number with rfl | hpos
  · exact .zero
  · exact isWhole_of_areDigits (areDigits_digitsOf number) (Number.head?_digitsOf_ne_zero hpos)

/-! ## Integers -/

/-- An integer is written as its sign and the digits of its size. -/
theorem intText_eq (value : Int) :
    Number.intText value = minusText (decide (value < 0)) ++ digitsOf value.natAbs := by
  cases value with
  | ofNat number =>
      have hsign : decide (Int.ofNat number < 0) = false := by simp
      rw [hsign]
      rfl
  | negSucc number =>
      rw [decide_eq_true (Int.negSucc_lt_zero number)]
      rfl

theorem intText_writtenAs (value : Int) :
    (Numeral.mk (decide (value < 0)) (digitsOf value.natAbs) none none).WrittenAs
      (Number.intText value) := by
  have hwritten := @Numeral.WrittenAs.intro (decide (value < 0)) _ _ _ _ _
    (isWhole_digitsOf value.natAbs) .absent .absent
  rwa [List.append_nil, List.append_nil, ← intText_eq] at hwritten

/-- An integer with no more digits than are converted is read back from its text. -/
theorem intText_denotes {value : Int}
    (hlength : (digitsOf value.natAbs).length ≤ Number.digitLimit) :
    (Numeral.mk (decide (value < 0)) (digitsOf value.natAbs) none none).Denotes (.int value) := by
  have hvalue : (if decide (value < 0) then -(ofDigits (digitsOf value.natAbs) : Int)
      else ofDigits (digitsOf value.natAbs)) = value := by
    rw [Number.ofDigits_digitsOf]
    by_cases hneg : value < 0
    · simp [hneg, abs_of_neg hneg]
    · simp [hneg, abs_of_nonneg (not_lt.mp hneg)]
  have hdenotes := @Numeral.Denotes.int (decide (value < 0)) _ hlength
  rwa [hvalue] at hdenotes

/-! ## Decimals -/

/-- A text without sign that is a numeral with a fraction or an exponent, and the size of that
numeral. -/
inductive IsDecimalText : List Char → ℚ → Prop
  | intro {whole : List Char} {fraction : Option (List Char)}
      {exponent : Option (Bool × List Char)} {fractionText exponentText : List Char}
      (hwhole : IsWhole whole) (hfraction : FractionText fraction fractionText)
      (hexponent : ExponentText exponent exponentText)
      (hform : fraction ≠ none ∨ exponent ≠ none) :
      IsDecimalText (whole ++ fractionText ++ exponentText)
        (Numeral.mk false whole fraction exponent).size

theorem isDecimalText_of_fraction {whole fraction : List Char} (hwhole : IsWhole whole)
    (hfraction : AreDigits fraction) :
    IsDecimalText (whole ++ '.' :: fraction)
      (ofDigits (whole ++ fraction) * 10 ^ (-(fraction.length : Int))) := by
  have htext := IsDecimalText.intro hwhole (.present hfraction) .absent (Or.inl (by simp))
  rw [List.append_nil, Numeral.size_eq] at htext
  simpa [Numeral.scale] using htext

theorem exponentText_spec (exponent : Int) :
    ∃ written, ExponentText (some (decide (exponent < 0), written)) (Number.exponentText exponent) ∧
      ofDigits written = exponent.natAbs := by
  have hdigits := areDigits_digitsOf exponent.natAbs
  have hvalue := Number.ofDigits_digitsOf exponent.natAbs
  -- a zero before a single digit does not change the value
  have hpadded : ∃ written, AreDigits written ∧ ofDigits written = exponent.natAbs ∧
      Number.exponentText exponent = 'e' :: (if exponent < 0 then '-' else '+') :: written := by
    unfold Number.exponentText
    by_cases hshort : (digitsOf exponent.natAbs).length < 2
    · refine ⟨'0' :: digitsOf exponent.natAbs, ?_, hvalue, by simp only [if_pos hshort]⟩
      exact ⟨List.cons_ne_nil _ _, List.forall_mem_cons.mpr ⟨by decide, hdigits.2⟩⟩
    · exact ⟨digitsOf exponent.natAbs, hdigits, hvalue, by simp only [if_neg hshort]⟩
  obtain ⟨written, hwritten, hsame, htext⟩ := hpadded
  refine ⟨written, ?_, hsame⟩
  rw [htext]
  by_cases hneg : exponent < 0
  · rw [if_pos hneg, decide_eq_true hneg]
    exact .present (Or.inl rfl) .minus hwritten
  · rw [if_neg hneg, decide_eq_false hneg]
    exact .present (Or.inl rfl) .plus hwritten

theorem isDecimalText_of_exponent {whole fractionText : List Char}
    {fraction : Option (List Char)} (hwhole : IsWhole whole)
    (hfraction : FractionText fraction fractionText) (exponent : Int) :
    IsDecimalText (whole ++ fractionText ++ Number.exponentText exponent)
      (ofDigits (whole ++ fraction.getD []) *
        10 ^ (exponent - ((fraction.getD []).length : Int))) := by
  obtain ⟨written, hwritten, hvalue⟩ := exponentText_spec exponent
  have htext := IsDecimalText.intro hwhole hfraction hwritten (Or.inr (by simp))
  have hsign : (if decide (exponent < 0) then -(ofDigits written : Int) else ofDigits written) =
      exponent := by
    rw [hvalue]
    by_cases hneg : exponent < 0
    · simp [hneg, abs_of_neg hneg]
    · simp [hneg, abs_of_nonneg (not_lt.mp hneg)]
  rw [Numeral.size_eq, Numeral.scale] at htext
  dsimp only at htext
  rwa [hsign] at htext

/-- The positional text of digits has their value with the point at its place. -/
theorem isDecimalText_positional {digits : List Char} (hdigits : AreDigits digits)
    (hfirst : digits.head? ≠ some '0') (place : Int) :
    IsDecimalText (Number.positional digits place)
      (ofDigits digits * 10 ^ (place - (digits.length : Int))) := by
  unfold Number.positional
  split
  next hplace =>
    -- all digits stand behind the point, and zeros before them
    have hfraction : AreDigits (List.replicate (-place).toNat '0' ++ digits) := by
      rw [areDigits_iff] at hdigits ⊢
      refine ⟨by simp [hdigits.1], fun c hmem => ?_⟩
      rcases List.mem_append.mp hmem with hmem | hmem
      · exact isDigit_of_mem_zeros hmem
      · exact hdigits.2 c hmem
    have htext := isDecimalText_of_fraction .zero hfraction
    have hvalue : ofDigits (['0'] ++ (List.replicate (-place).toNat '0' ++ digits)) =
        ofDigits digits := by
      rw [List.singleton_append, Number.ofDigits_zero_cons, Number.ofDigits_append,
        Number.ofDigits_replicate_zero, Nat.mul_zero, Nat.zero_add]
    rw [hvalue, List.length_append, List.length_replicate] at htext
    rwa [show place - (digits.length : Int) =
      -(((-place).toNat + digits.length : Nat) : Int) by omega]
  next hplace =>
    split
    next hlength =>
      -- all digits stand before the point, and zeros behind them
      have hwhole : IsWhole (digits ++ List.replicate (place.toNat - digits.length) '0') := by
        refine isWhole_of_areDigits (areDigits_append hdigits fun _ => isDigit_of_mem_zeros) ?_
        rwa [List.head?_append_of_ne_nil _ hdigits.1]
      have htext := isDecimalText_of_fraction hwhole areDigits_zero
      have hvalue : (ofDigits (digits ++ List.replicate (place.toNat - digits.length) '0' ++ ['0'])
          : ℚ) * 10 ^ (-((['0'] : List Char).length : Int)) =
          ofDigits digits * 10 ^ (place - (digits.length : Int)) := by
        rw [Number.ofDigits_append, Number.ofDigits_append, Number.ofDigits_replicate_zero,
          show place - (digits.length : Int) = ((place.toNat - digits.length : Nat) : Int) by omega,
          zpow_natCast, show ofDigits ['0'] = 0 from rfl]
        simp only [List.length_singleton, List.length_replicate]
        push_cast
        field_simp
        ring
      rwa [hvalue] at htext
    next hlength =>
      -- the point stands between two digits
      have hsplit := List.take_append_drop place.toNat digits
      have hwhole : IsWhole (digits.take place.toNat) := by
        refine isWhole_of_areDigits ⟨?_, fun c hmem => hdigits.2 c (List.mem_of_mem_take hmem)⟩ ?_
        · simp [List.take_eq_nil_iff, hdigits.1]
          omega
        · rwa [List.head?_take, if_neg (by omega)]
      have hfraction : AreDigits (digits.drop place.toNat) := by
        refine ⟨?_, fun c hmem => hdigits.2 c (List.mem_of_mem_drop hmem)⟩
        rw [ne_eq, List.drop_eq_nil_iff]
        omega
      have htext := isDecimalText_of_fraction hwhole hfraction
      rw [hsplit, List.length_drop] at htext
      rwa [show place - (digits.length : Int) =
        -((digits.length - place.toNat : Nat) : Int) by omega]

/-- The scientific layout of some digits denotes what the digits and the place of the point say. -/
theorem isDecimalText_scientific {digits : List Char} (hdigits : AreDigits digits)
    (hfirst : digits.head? ≠ some '0') (place : Int) :
    IsDecimalText (Number.scientific digits place)
      (ofDigits digits * 10 ^ (place - (digits.length : Int))) := by
  unfold Number.scientific
  split
  next => exact absurd rfl hdigits.1
  next digit =>
    have hwhole := isWhole_of_areDigits hdigits hfirst
    have htext := isDecimalText_of_exponent hwhole .absent (place - 1)
    simpa using htext
  next digit others hmany =>
    have hwhole : IsWhole [digit] := isWhole_of_areDigits
      ⟨by simp, by simpa using (List.forall_mem_cons.mp hdigits.2).1⟩ (by simpa using hfirst)
    have hothers : AreDigits others := ⟨hmany, (List.forall_mem_cons.mp hdigits.2).2⟩
    have htext := isDecimalText_of_exponent hwhole (.present hothers) (place - 1)
    rw [List.singleton_append, List.singleton_append, Option.getD_some] at htext
    rwa [show place - ((digit :: others).length : Int) = place - 1 - (others.length : Int) by
      simp only [List.length_cons]; omega]

/-- The text of a decimal has the value of the decimal. -/
theorem isDecimalText_decimal {decimal : Decimal} (hpos : 0 < decimal.digits) :
    IsDecimalText decimal.text decimal.value := by
  have hreduced := Decimal.dropZeros_digits_pos hpos decimal.digits.log2
  have hdigits := areDigits_digitsOf (Decimal.dropZeros decimal.digits.log2 decimal).digits
  have hfirst := Number.head?_digitsOf_ne_zero hreduced
  rw [← Decimal.value_dropZeros decimal.digits.log2 decimal]
  unfold Decimal.text
  generalize Decimal.dropZeros decimal.digits.log2 decimal = reduced at hdigits hfirst ⊢
  have hvalue : reduced.value = ofDigits (digitsOf reduced.digits) *
      10 ^ (reduced.exponent + (digitsOf reduced.digits).length -
        ((digitsOf reduced.digits).length : Int)) := by
    rw [Number.ofDigits_digitsOf, add_sub_cancel_right, Decimal.value]
  rw [hvalue]
  dsimp only
  split
  next => exact isDecimalText_positional hdigits hfirst _
  next => exact isDecimalText_scientific hdigits hfirst _

/-! ## Finite numbers -/

/-- A decimal text that rounds to a double is a numeral that denotes the double. -/
theorem IsDecimalText.writtenAs {text : List Char} {size : ℚ} (htext : IsDecimalText text size)
    (negative : Bool) {number : Double} (hrounding : number.IsRounding negative size)
    (hfinite : number.isFinite = true) :
    ∃ numeral : Numeral, numeral.WrittenAs (minusText negative ++ text) ∧
      numeral.Denotes (.double number) := by
  obtain @⟨whole, fraction, exponent, _, _, hwhole, hfraction, hexponent, hform⟩ := htext
  refine ⟨⟨negative, whole, fraction, exponent⟩, ?_, .double hform hrounding hfinite⟩
  have hwritten := @Numeral.WrittenAs.intro negative _ _ _ _ _ hwhole hfraction hexponent
  simpa only [List.append_assoc] using hwritten

/-- The text of a finite number is a numeral that denotes the number. -/
theorem exists_numeral_of_doubleText {number : Double} (hfinite : number.isFinite = true) :
    ∃ numeral : Numeral, numeral.WrittenAs (doubleText number) ∧
      numeral.Denotes (.double number) := by
  cases number with
  | infinite => simp [Double.isFinite] at hfinite
  | nan => simp [Double.isFinite] at hfinite
  | finite negative significand exponent hformat =>
      have hsign : ∀ size,
          (if negative then '-' :: size else size) = minusText negative ++ size := by
        intro size
        cases negative <;> rfl
      unfold doubleText Double.textWith
      dsimp only
      rw [hsign]
      split
      next hzero =>
        subst hzero
        have htext := isDecimalText_of_fraction .zero areDigits_zero
        have hsize : (ofDigits (['0'] ++ ['0']) : ℚ) * 10 ^ (-((['0'] : List Char).length : Int)) =
            magnitude 0 exponent := by
          rw [magnitude, show ofDigits (['0'] ++ ['0']) = 0 from rfl, Nat.cast_zero, zero_mul,
            zero_mul]
        rw [hsize] at htext
        exact htext.writtenAs negative (hformat.isRounding negative) hfinite
      next hnonzero =>
        have hpos := Decimal.shortest_digits_pos hformat hnonzero
        exact (isDecimalText_decimal hpos).writtenAs negative
          ((Decimal.shortest_isRounding hformat).withSign negative) hfinite

end Assay.Json
