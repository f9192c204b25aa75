import Assay.Number.Numeral

/-! # Expected integers

An expected text that is a sign, or none, and ASCII digits is compared as the integer that it
denotes, if this integer has so many bits. Every other text is compared as zero. A text of many
digits is put aside before it is converted, so its length never makes the conversion fail.
-/

namespace Assay

open Number (TooManyDigits readDigits)

/-- The closed interval of integers with a number of bits, one of them the sign. -/
def signedRange (bits : Nat) : Int × Int :=
  (-(Nat.pow 2 (bits - 1) : Int), (Nat.pow 2 (bits - 1) : Int) - 1)

/-- The characters that may stand before the digits of an integer. -/
def isSign (c : Char) : Bool := c = '+' || c = '-'

/-- Whether a text is at most one sign and then one or more ASCII digits. -/
def isIntegerText (text : List Char) : Bool :=
  let digits := match text with
    | [] => []
    | first :: rest => if isSign first then rest else first :: rest
  !digits.isEmpty && digits.all Char.isDigit

/-- A text without the signs and the zeros that it starts with. -/
def significantDigits (text : List Char) : List Char :=
  (text.dropWhile isSign).dropWhile (· = '0')

/-- The greatest number of digits, leading zeros apart, of an expected integer: with 64 bits there
are no more. -/
def expectedDigitLimit : Nat := 19

/-- Reads the integer of an expected text. The sign is applied to the number that the digits
denote, and only then is the integer held against the range. -/
def readExpectedInt (bits : Nat) (text : String) : Except TooManyDigits Int :=
  let characters := text.toList
  let digits := significantDigits characters
  if !isIntegerText characters then .ok 0
  else if expectedDigitLimit < digits.length then .ok 0
  else
    (readDigits (if digits.isEmpty then ['0'] else digits)).map fun (size : Nat) =>
      let integer : Int := if characters.head? = some '-' then -size else size
      let range := signedRange bits
      if range.1 ≤ integer && integer ≤ range.2 then integer else 0

/-- Digits that are few enough to be expected are few enough to be converted. -/
theorem readDigits_of_few {digits : List Char} (hfew : digits.length ≤ expectedDigitLimit) :
    readDigits digits = .ok (Number.ofDigits digits) := by
  have hlimit : digits.length ≤ Number.digitLimit := Nat.le_trans hfew (by decide)
  rw [readDigits, if_neg (Nat.not_lt.mpr hlimit)]

theorem length_orZero_le {digits : List Char} (hfew : digits.length ≤ expectedDigitLimit) :
    (if digits.isEmpty then ['0'] else digits).length ≤ expectedDigitLimit := by
  split
  · decide
  · exact hfew

theorem exists_readExpectedInt (bits : Nat) (text : String) :
    ∃ integer, readExpectedInt bits text = .ok integer := by
  unfold readExpectedInt
  dsimp only
  split
  next => exact ⟨0, rfl⟩
  next =>
    split
    next => exact ⟨0, rfl⟩
    next hfew =>
      rw [readDigits_of_few (length_orZero_le (Nat.not_lt.mp hfew))]
      exact ⟨_, rfl⟩

/-- The integer of an expected text, which reading always gives. -/
def expectedInt (bits : Nat) (text : String) : Int :=
  match hread : readExpectedInt bits text with
  | .ok integer => integer
  | .error _ => absurd (exists_readExpectedInt bits text) (by simp [hread])

theorem readExpectedInt_eq (bits : Nat) (text : String) :
    readExpectedInt bits text = .ok (expectedInt bits text) := by
  unfold expectedInt
  split
  next hread => exact hread
  next hread =>
    obtain ⟨integer, hinteger⟩ := exists_readExpectedInt bits text
    rw [hread] at hinteger
    cases hinteger

end Assay
