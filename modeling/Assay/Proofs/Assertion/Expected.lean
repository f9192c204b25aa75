import Assay.Proofs.Assertion.Check
import Assay.Proofs.Datum.Plain
import Assay.Proofs.Json.Layout

/-! # Expected integers are read exactly

What an expected text is compared as is the integer that it denotes, for every number of leading
zeros, or zero where it denotes none or one out of range. Digits are put aside only when there are
so many that no integer of 64 bits has them.
-/

namespace Assay

open Json (AreDigits areDigits_iff)
open Number (ofDigits digitsOf)

variable {assertion : Assertion} {response : Response} {bits : Nat} {integer : Int}

/-- A text denotes an integer: it has digits, with at most one sign before them. -/
inductive DenotesInt : List Char → Int → Prop where
  | unsigned {digits : List Char} (hdigits : AreDigits digits) :
      DenotesInt digits (Nat.ofDigitChars 10 digits 0)
  | plus {digits : List Char} (hdigits : AreDigits digits) :
      DenotesInt ('+' :: digits) (Nat.ofDigitChars 10 digits 0)
  | minus {digits : List Char} (hdigits : AreDigits digits) :
      DenotesInt ('-' :: digits) (-(Nat.ofDigitChars 10 digits 0 : Int))

/-- An integer has so many bits, one of them the sign. -/
def FitsBits (bits : Nat) (integer : Int) : Prop :=
  -2 ^ (bits - 1) ≤ integer ∧ integer < 2 ^ (bits - 1)

instance : Decidable (FitsBits bits integer) :=
  inferInstanceAs (Decidable (-2 ^ (bits - 1) ≤ integer ∧ integer < 2 ^ (bits - 1)))

/-! ## Digits and signs -/

theorem isSign_of_isDigit {c : Char} (hdigit : c.isDigit = true) : isSign c = false := by
  simp only [isSign, Bool.or_eq_false_iff, decide_eq_false_iff_not]
  constructor <;> rintro rfl <;> exact absurd hdigit (by decide)

/-- Digits have no sign before them. -/
theorem dropWhile_isSign {digits : List Char} (hdigits : AreDigits digits) :
    digits.dropWhile isSign = digits := by
  obtain ⟨hne, hall⟩ := areDigits_iff.mp hdigits
  obtain ⟨first, rest, rfl⟩ := List.exists_cons_of_ne_nil hne
  have hfirst := isSign_of_isDigit (hall first List.mem_cons_self)
  exact List.dropWhile_cons_of_neg (by simp [hfirst])

theorem head?_ne_minus {digits : List Char} (hdigits : AreDigits digits) :
    digits.head? ≠ some '-' := by
  obtain ⟨-, hall⟩ := areDigits_iff.mp hdigits
  intro hhead
  exact absurd (hall _ (List.mem_of_mem_head? hhead)) (by decide)

/-- Many digits without leading zeros denote a number that is too large for 64 bits. -/
theorem pow_expectedDigitLimit_le {digits : List Char} (hdigits : ∀ c ∈ digits, c.isDigit = true)
    (hlong : expectedDigitLimit < (digits.dropWhile (· = '0')).length) :
    10 ^ expectedDigitLimit ≤ ofDigits digits := by
  rw [← Number.ofDigits_dropWhile_zero]
  have hkept : ∀ c ∈ digits.dropWhile (· = '0'), c.isDigit = true := fun c hmem =>
    hdigits c ((List.dropWhile_suffix _).mem hmem)
  have hhead := List.head?_dropWhile_not (fun c : Char => decide (c = '0')) digits
  cases hdropped : digits.dropWhile (· = '0') with
  | nil => simp [hdropped] at hlong
  | cons first rest =>
      rw [hdropped] at hlong hkept hhead
      have hfirst : first ≠ '0' := by simpa using hhead
      calc 10 ^ expectedDigitLimit ≤ 10 ^ rest.length :=
            Nat.pow_le_pow_right (by decide) (Nat.le_of_lt_succ hlong)
        _ ≤ _ := Number.pow_le_ofDigits hfirst (hkept first List.mem_cons_self)

theorem areDigits_iff_all {digits : List Char} :
    AreDigits digits ↔ (!digits.isEmpty && digits.all Char.isDigit) = true := by
  rw [areDigits_iff]
  simp

/-! ## Reading -/

/-- The number that stands behind the signs of a text, under the sign that the text opens with. -/
def signedSize (text : List Char) : Int :=
  if text.head? = some '-' then -(ofDigits (text.dropWhile isSign) : Int)
  else ofDigits (text.dropWhile isSign)

theorem signedSize_unsigned {digits : List Char} (hdigits : AreDigits digits) :
    signedSize digits = ofDigits digits := by
  rw [signedSize, if_neg (head?_ne_minus hdigits), dropWhile_isSign hdigits]

theorem signedSize_plus {digits : List Char} (hdigits : AreDigits digits) :
    signedSize ('+' :: digits) = ofDigits digits := by
  rw [signedSize, if_neg (by simp), List.dropWhile_cons_of_pos (by decide),
    dropWhile_isSign hdigits]

theorem signedSize_minus {digits : List Char} (hdigits : AreDigits digits) :
    signedSize ('-' :: digits) = -(ofDigits digits : Int) := by
  rw [signedSize, if_pos List.head?_cons, List.dropWhile_cons_of_pos (by decide),
    dropWhile_isSign hdigits]

theorem isIntegerText_sign_cons_iff {sign : Char} {digits : List Char}
    (hsign : isSign sign = true) : isIntegerText (sign :: digits) = true ↔ AreDigits digits := by
  rw [areDigits_iff_all, isIntegerText, if_pos hsign]

theorem isIntegerText_cons_iff {first : Char} {rest : List Char} (hfirst : isSign first = false) :
    isIntegerText (first :: rest) = true ↔ AreDigits (first :: rest) := by
  rw [areDigits_iff_all, isIntegerText, if_neg (by simp [hfirst])]

/-- The texts that are taken for integers are those that denote one. -/
theorem denotesInt_iff {text : List Char} :
    DenotesInt text integer ↔ isIntegerText text = true ∧ integer = signedSize text := by
  constructor
  · intro hdenotes
    cases hdenotes with
    | plus hdigits =>
        exact ⟨(isIntegerText_sign_cons_iff rfl).mpr hdigits, (signedSize_plus hdigits).symm⟩
    | minus hdigits =>
        exact ⟨(isIntegerText_sign_cons_iff rfl).mpr hdigits, (signedSize_minus hdigits).symm⟩
    | unsigned hdigits =>
        refine ⟨?_, (signedSize_unsigned hdigits).symm⟩
        obtain ⟨hne, hall⟩ := areDigits_iff.mp hdigits
        obtain ⟨first, rest, rfl⟩ := List.exists_cons_of_ne_nil hne
        exact (isIntegerText_cons_iff (isSign_of_isDigit (hall first List.mem_cons_self))).mpr
          hdigits
  · rintro ⟨hinteger, rfl⟩
    rcases text with _ | ⟨first, rest⟩
    · cases hinteger
    -- a sign is left out of the test of the digits, and any other character is part of it
    cases hsign : isSign first with
    | false =>
        have hdigits := (isIntegerText_cons_iff hsign).mp hinteger
        rw [signedSize_unsigned hdigits]
        exact .unsigned hdigits
    | true =>
        have hdigits := (isIntegerText_sign_cons_iff hsign).mp hinteger
        have hplusminus : first = '+' ∨ first = '-' := by simpa [isSign] using hsign
        rcases hplusminus with rfl | rfl
        · rw [signedSize_plus hdigits]
          exact .plus hdigits
        · rw [signedSize_minus hdigits]
          exact .minus hdigits

theorem areDigits_of_isIntegerText {text : List Char} (hinteger : isIntegerText text = true) :
    AreDigits (text.dropWhile isSign) := by
  obtain ⟨integer, hdenotes⟩ : ∃ integer, DenotesInt text integer :=
    ⟨_, denotesInt_iff.mpr ⟨hinteger, rfl⟩⟩
  cases hdenotes with
  | unsigned hdigits => rwa [dropWhile_isSign hdigits]
  | plus hdigits => rwa [List.dropWhile_cons_of_pos (by decide), dropWhile_isSign hdigits]
  | minus hdigits => rwa [List.dropWhile_cons_of_pos (by decide), dropWhile_isSign hdigits]

/-! ## Reading -/

/-- The bounds of the source say what fits in so many bits. -/
theorem fitsBits_iff :
    FitsBits bits integer ↔
      ((signedRange bits).1 ≤ integer && integer ≤ (signedRange bits).2) = true := by
  simp only [FitsBits, signedRange, Bool.and_eq_true, decide_eq_true_eq, Int.le_sub_one_iff]
  norm_num

theorem FitsBits.natAbs_lt (hfits : FitsBits bits integer) (hbits : bits ≤ 64) :
    integer.natAbs < 10 ^ expectedDigitLimit := by
  have hpower : (2 : Int) ^ (bits - 1) ≤ 2 ^ 63 := pow_le_pow_right₀ (by norm_num) (by omega)
  obtain ⟨hlow, hhigh⟩ := hfits
  norm_num [expectedDigitLimit] at *
  omega

theorem natAbs_signedSize (text : List Char) :
    (signedSize text).natAbs = ofDigits (text.dropWhile isSign) := by
  unfold signedSize
  split <;> simp

theorem readDigits_orZero {digits : List Char} (hfew : digits.length ≤ expectedDigitLimit) :
    Number.readDigits (if digits.isEmpty then ['0'] else digits) = .ok (ofDigits digits) := by
  rw [readDigits_of_few (length_orZero_le hfew)]
  cases digits <;> rfl

/-- A text that denotes an integer is read as this integer, or as zero if it is out of range, and
one that is put aside for its digits is out of range. -/
theorem expectedInt_of_denotes {text : String} (hdenotes : DenotesInt text.toList integer)
    (hbits : bits ≤ 64) :
    expectedInt bits text = if FitsBits bits integer then integer else 0 := by
  obtain ⟨hinteger, rfl⟩ := denotesInt_iff.mp hdenotes
  apply Except.ok.inj
  rw [← readExpectedInt_eq, readExpectedInt, if_neg (by simp [hinteger])]
  by_cases hlong : expectedDigitLimit < (significantDigits text.toList).length
  -- the digits are too many to be converted, but then no integer in the range has them
  · have hsize := pow_expectedDigitLimit_le
      (areDigits_iff.mp (areDigits_of_isIntegerText hinteger)).2 hlong
    have hout : ¬ FitsBits bits (signedSize text.toList) := fun hfits =>
      absurd (hfits.natAbs_lt hbits) (by rw [natAbs_signedSize]; exact not_lt.mpr hsize)
    rw [if_pos hlong, if_neg hout]
  · rw [if_neg hlong, readDigits_orZero (not_lt.mp hlong), significantDigits,
      Number.ofDigits_dropWhile_zero]
    simp only [fitsBits_iff, signedSize, Except.map]

/-- What is no integer compares as zero. -/
theorem expectedInt_of_not_denotes {text : String}
    (hnone : ¬ ∃ integer, DenotesInt text.toList integer) : expectedInt bits text = 0 := by
  have hinteger : isIntegerText text.toList = false := by
    rw [← Bool.not_eq_true]
    exact fun hinteger => hnone ⟨_, denotesInt_iff.mpr ⟨hinteger, rfl⟩⟩
  apply Except.ok.inj
  rw [← readExpectedInt_eq, readExpectedInt, if_pos (by simp [hinteger])]

/-- A text that denotes no integer of so many bits is read as zero. -/
theorem expectedInt_eq_zero {text : String} (hbits : bits ≤ 64)
    (hnone : ¬ ∃ integer, DenotesInt text.toList integer ∧ FitsBits bits integer) :
    expectedInt bits text = 0 := by
  by_cases hdenotes : ∃ integer, DenotesInt text.toList integer
  · obtain ⟨integer, hdenotes⟩ := hdenotes
    rw [expectedInt_of_denotes hdenotes hbits, if_neg fun hfits => hnone ⟨integer, hdenotes, hfits⟩]
  · exact expectedInt_of_not_denotes hdenotes

/-! ## Writing -/

/-- The text of an integer denotes it. -/
theorem denotesInt_toString (integer : Int) : DenotesInt (toString integer).toList integer := by
  cases integer with
  | ofNat number =>
      have hwritten : (toString (Int.ofNat number)).toList = digitsOf number :=
        String.toList_ofList
      have hdenotes := DenotesInt.unsigned (Json.areDigits_digitsOf number)
      rwa [← Number.ofDigits_eq_ofDigitChars, Number.ofDigits_digitsOf, ← hwritten] at hdenotes
  | negSucc number =>
      have hwritten : (toString (Int.negSucc number)).toList = '-' :: digitsOf (number + 1) :=
        String.toList_append.trans (congrArg ('-' :: ·) String.toList_ofList)
      have hdenotes := DenotesInt.minus (Json.areDigits_digitsOf (number + 1))
      rwa [← Number.ofDigits_eq_ofDigitChars, Number.ofDigits_digitsOf, ← hwritten] at hdenotes

theorem writtenInt_of_fitsBits (hfits : FitsBits bits integer) (hbits : bits ≤ 64) :
    writtenInt integer = .ok (toString integer) := by
  have hlimit : 10 ^ expectedDigitLimit < 10 ^ Number.digitLimit :=
    Nat.pow_lt_pow_right (by decide) (by decide)
  rw [writtenInt, if_pos (Number.fitsLimit_iff.mpr ((hfits.natAbs_lt hbits).trans hlimit))]

/-! ## Comparing -/

/-- A status code is compared to nothing of an expected text but its integer. -/
theorem checkStatus_congr {expected : String}
    (hsame : expectedInt 32 assertion.expected = expectedInt 32 expected) :
    checkStatus assertion response =
      checkStatus { assertion with expected := expected } response := by
  simp only [checkStatus, statusOutcome, hsame]
  rfl

/-- The check reads an expected time only as a number. -/
theorem checkResponseTime_congr {expected : String}
    (hsame : expectedInt 64 assertion.expected = expectedInt 64 expected) :
    checkResponseTime assertion response =
      checkResponseTime { assertion with expected := expected } response := by
  simp only [checkResponseTime, timingOutcome, hsame]
  rfl

/-- Assertions about a status code or a time that expect the same integer get the same verdict. -/
theorem check_congr_expected {expected : String}
    (hsame : assertion.subject? = some .status ∧
        expectedInt 32 assertion.expected = expectedInt 32 expected ∨
      assertion.subject? = some .responseTime ∧
        expectedInt 64 assertion.expected = expectedInt 64 expected) :
    assertion.check response =
      ({ assertion with expected := expected } : Assertion).check response := by
  cases henabled : assertion.isEnabled with
  | false =>
      rw [check_of_disabled henabled,
        @check_of_disabled { assertion with expected := expected } response henabled]
  | true =>
      rw [check_of_enabled henabled,
        @check_of_enabled { assertion with expected := expected } response henabled]
      rcases hsame with ⟨hsubject, hsame⟩ | ⟨hsubject, hsame⟩
      · have hother : ({ assertion with expected := expected } : Assertion).subject? =
          some .status := hsubject
        rw [hsubject, hother]
        exact checkStatus_congr hsame
      · have hother : ({ assertion with expected := expected } : Assertion).subject? =
          some .responseTime := hsubject
        rw [hsubject, hother]
        exact checkResponseTime_congr hsame

/-! ## Exactness -/

/-- Expected texts are read exactly, in so many bits and for a subject that is compared in them. -/
structure ExpectedIntLaws (bits : Nat) (subject : Subject) : Prop where
  returns : ∀ text, readExpectedInt bits text = .ok (expectedInt bits text)
  exact : ∀ text integer, DenotesInt text.toList integer → FitsBits bits integer →
    expectedInt bits text = integer
  otherwise : ∀ text, (¬ ∃ integer, DenotesInt text.toList integer ∧ FitsBits bits integer) →
    expectedInt bits text = 0
  written : ∀ integer, FitsBits bits integer →
    ∃ text, writtenInt integer = .ok text ∧ expectedInt bits text = integer
  compared : ∀ (assertion : Assertion) (response : Response), assertion.subject? = some subject →
    (¬ ∃ integer, DenotesInt assertion.expected.toList integer ∧ FitsBits bits integer) →
      assertion.check response = ({ assertion with expected := "0" } : Assertion).check response

/-- Texts of up to 64 bits are read exactly, and compared exactly for a subject of which the checks
look at their integers only. -/
theorem expectedIntLaws {subject : Subject} (hbits : bits ≤ 64)
    (hcompared : ∀ (assertion : Assertion) (response : Response),
      assertion.subject? = some subject →
      expectedInt bits assertion.expected = expectedInt bits "0" →
        assertion.check response =
          ({ assertion with expected := "0" } : Assertion).check response) :
    ExpectedIntLaws bits subject where
  returns := readExpectedInt_eq bits
  exact text integer hdenotes hfits := by
    rw [expectedInt_of_denotes hdenotes hbits, if_pos hfits]
  otherwise text := expectedInt_eq_zero hbits
  written integer hfits := by
    refine ⟨_, writtenInt_of_fitsBits hfits hbits, ?_⟩
    rw [expectedInt_of_denotes (denotesInt_toString integer) hbits, if_pos hfits]
  compared assertion response hsubject hnone := by
    have hdenotes : DenotesInt "0".toList 0 := denotesInt_toString 0
    have hzero : expectedInt bits "0" = 0 := by
      rw [expectedInt_of_denotes hdenotes hbits, ite_self]
    exact hcompared assertion response hsubject ((expectedInt_eq_zero hbits hnone).trans hzero.symm)

/-- Status codes are compared to expected integers of 32 bits and times to those of 64 bits, and in
both widths an expected text is read without fail as exactly the integer that it denotes, or as
zero. -/
theorem expected_integers_are_read_exactly :
    ExpectedIntLaws 32 .status ∧ ExpectedIntLaws 64 .responseTime :=
  ⟨expectedIntLaws (by decide) fun _ _ hsubject hsame =>
      check_congr_expected (Or.inl ⟨hsubject, hsame⟩),
    expectedIntLaws (by decide) fun _ _ hsubject hsame =>
      check_congr_expected (Or.inr ⟨hsubject, hsame⟩)⟩

/-- The least integer of 32 bits is read behind many zeros, and a status code is compared to zero
where the one below it is expected. -/
theorem ends_of_range_are_told_apart :
    expectedInt 32 "-0000000000000000000002147483648" = -2147483648 ∧
      (⟨"a1", "status", "", "equals", "-2147483649", some true⟩ : Assertion).check
          ⟨0, [], "", 0⟩ =
        (⟨"a1", "status", "", "equals", "0", some true⟩ : Assertion).check ⟨0, [], "", 0⟩ := by
  have hdenotes : DenotesInt "-0000000000000000000002147483648".toList (-2147483648) :=
    denotesInt_iff.mpr (by decide)
  have hnone : ¬ ∃ integer, DenotesInt "-2147483649".toList integer ∧ FitsBits 32 integer := by
    rintro ⟨integer, hout, hfits⟩
    obtain rfl := (denotesInt_iff.mp hout).2
    exact absurd hfits (by decide)
  exact ⟨expected_integers_are_read_exactly.1.exact _ _ hdenotes (by decide),
    expected_integers_are_read_exactly.1.compared
      ⟨"a1", "status", "", "equals", "-2147483649", some true⟩ _ (by decide) hnone⟩

end Assay
