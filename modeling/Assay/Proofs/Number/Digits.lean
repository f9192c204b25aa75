import Mathlib
import Assay.Number.Layout
import Assay.Number.Numeral

/-! # Decimal digits

The digits of a number are read back as the number, and no way to write it is shorter than the
digits without leading zeros.
-/

namespace Assay.Number

theorem ofDigits_eq_ofDigitChars (digits : List Char) :
    ofDigits digits = Nat.ofDigitChars 10 digits 0 := rfl

theorem ofDigits_append (left right : List Char) :
    ofDigits (left ++ right) = 10 ^ right.length * ofDigits left + ofDigits right := by
  rw [ofDigits_eq_ofDigitChars, Nat.ofDigitChars_append, Nat.ofDigitChars_eq_ofDigitChars_zero]
  rfl

theorem ofDigits_replicate_zero (count : Nat) : ofDigits (List.replicate count '0') = 0 := by
  rw [ofDigits_eq_ofDigitChars, Nat.ofDigitChars_replicate_zero, Nat.mul_zero]

theorem ofDigits_zero_cons (digits : List Char) : ofDigits ('0' :: digits) = ofDigits digits := rfl

theorem ofDigits_dropWhile_zero (digits : List Char) :
    ofDigits (digits.dropWhile (· = '0')) = ofDigits digits := by
  induction digits with
  | nil => rfl
  | cons first rest ih =>
      by_cases hfirst : first = '0'
      · subst hfirst
        rw [List.dropWhile_cons_of_pos (by simp), ih, ofDigits_zero_cons]
      · rw [List.dropWhile_cons_of_neg (by simpa using hfirst)]

/-- The digits of a number are read back as the number. -/
theorem ofDigits_digitsOf (number : Nat) : ofDigits (digitsOf number) = number :=
  Nat.ofDigitChars_ten_toDigits

theorem readDigits_digitsOf {number : Nat} (hfits : (digitsOf number).length ≤ digitLimit) :
    readDigits (digitsOf number) = .ok number := by
  rw [readDigits, if_neg (not_lt.mpr hfits), ofDigits_digitsOf]

theorem isDigit_of_mem_digitsOf {number : Nat} {c : Char} (hmem : c ∈ digitsOf number) :
    c.isDigit = true := Nat.isDigit_of_mem_toDigits (by decide) (by decide) hmem

theorem digitsOf_ne_nil (number : Nat) : digitsOf number ≠ [] := Nat.toDigits_ne_nil

/-- The digits of a positive number do not start with a zero. -/
theorem head?_digitsOf_ne_zero {number : Nat} (hpos : 0 < number) :
    (digitsOf number).head? ≠ some '0' := by
  unfold digitsOf
  induction number using Nat.base_induction 10 (by decide) with
  | single number hsmall =>
      rw [Nat.toDigits_of_lt_base hsmall]
      interval_cases number <;> decide
  | digit number last hlast hnumber ih =>
      rw [← Nat.toDigits_append_toDigits (by decide) hnumber hlast, List.head?_append_of_ne_nil]
      · exact ih hnumber
      · exact Nat.toDigits_ne_nil

theorem ofDigits_lt {digits : List Char} (hdigits : ∀ c ∈ digits, c.isDigit = true) :
    ofDigits digits < 10 ^ digits.length := by
  induction digits with
  | nil => decide
  | cons first rest ih =>
      have hrest := ih fun c hmem => hdigits c (List.mem_cons_of_mem first hmem)
      have hfirst := Char.isDigit_iff_toNat.mp (hdigits first List.mem_cons_self)
      have hnine : '9'.toNat = 57 := rfl
      have hvalue : ofDigits [first] ≤ 9 := by
        simp only [ofDigits, digitValue, List.foldl_cons, List.foldl_nil]
        omega
      rw [← List.singleton_append, ofDigits_append, List.length_append, List.length_singleton,
        pow_add, pow_one]
      nlinarith

/-- A number is at least the power of ten of the place of a digit that is not zero. -/
theorem pow_le_ofDigits {first : Char} {rest : List Char} (hfirst : first ≠ '0')
    (hdigit : first.isDigit = true) : 10 ^ rest.length ≤ ofDigits (first :: rest) := by
  have hvalue : 1 ≤ ofDigits [first] := by
    obtain ⟨hlow, -⟩ := Char.isDigit_iff_toNat.mp hdigit
    have hne : first.toNat ≠ '0'.toNat := fun heq => hfirst (Char.toNat_inj.mp heq)
    have hzero : '0'.toNat = 48 := rfl
    simp only [ofDigits, digitValue, List.foldl_cons, List.foldl_nil]
    omega
  rw [← List.singleton_append, ofDigits_append]
  calc 10 ^ rest.length ≤ 10 ^ rest.length * ofDigits [first] := Nat.le_mul_of_pos_right _ hvalue
    _ ≤ _ := Nat.le_add_right _ _

/-- No way to write a number by digits is shorter than its own digits. -/
theorem length_digitsOf_ofDigits_le {digits : List Char} (hne : digits ≠ [])
    (hdigits : ∀ c ∈ digits, c.isDigit = true) :
    (digitsOf (ofDigits digits)).length ≤ digits.length :=
  (Nat.length_toDigits_le_iff (by decide) (List.length_pos_iff.mpr hne)).mpr
    (ofDigits_lt hdigits)

end Assay.Number
