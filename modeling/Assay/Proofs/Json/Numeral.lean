import Assay.Json.Reader
import Assay.Proofs.Json.Token
import Assay.Proofs.Number.Digits

/-! # Reading numerals

The longest numeral at the start of a text is written as the grammar says. A numeral of the
grammar is read whole when the text behind it cannot continue it.
-/

namespace Assay.Json

open Number (Double ofDigits)

theorem areDigits_iff {text : List Char} :
    AreDigits text ↔ text ≠ [] ∧ ∀ c ∈ text, c.isDigit = true := by
  simp only [AreDigits, isDigit_iff]

def StartsNoDigit (text : List Char) : Prop := ∀ c ∈ text.head?, c.isDigit = false

/-- A text that does not continue a numeral before it. -/
def EndsNumeral (text : List Char) : Prop :=
  ∀ c ∈ text.head?, c.isDigit = false ∧ c ≠ '.' ∧ c ≠ 'e' ∧ c ≠ 'E'

theorem StartsNoDigit.cons {c : Char} (hc : c.isDigit = false) (rest : List Char) :
    StartsNoDigit (c :: rest) := by
  intro head hhead
  obtain rfl := Option.some.inj hhead
  exact hc

theorem EndsNumeral.startsNoDigit {text : List Char} (hend : EndsNumeral text) :
    StartsNoDigit text := fun c hhead => (hend c hhead).1

/-- A fraction starts with a point, so the digits before it end there. -/
theorem FractionText.startsNoDigit {fraction : Option (List Char)} {written rest : List Char}
    (hfraction : FractionText fraction written) (hrest : StartsNoDigit rest) :
    StartsNoDigit (written ++ rest) := by
  cases hfraction with
  | absent => exact hrest
  | present => exact .cons (by decide) _

theorem ExponentText.startsNoDigit {exponent : Option (Bool × List Char)}
    {written rest : List Char} (hexponent : ExponentText exponent written)
    (hrest : StartsNoDigit rest) : StartsNoDigit (written ++ rest) := by
  cases hexponent with
  | absent => exact hrest
  | present hmark => rcases hmark with rfl | rfl <;> exact .cons (by decide) _

/-! ## Digits -/

/-- Digits are read to their end, which is where no digit follows. -/
theorem spanDigits_append {digits rest : List Char} (hdigits : ∀ c ∈ digits, c.isDigit = true)
    (hrest : StartsNoDigit rest) : spanDigits (digits ++ rest) = (digits, rest) := by
  have hstop : rest.takeWhile Char.isDigit = [] ∧ rest.dropWhile Char.isDigit = rest := by
    cases rest with
    | nil => exact ⟨rfl, rfl⟩
    | cons c rest =>
        have hc := hrest c rfl
        exact ⟨List.takeWhile_cons_of_neg (by simp [hc]), List.dropWhile_cons_of_neg (by simp [hc])⟩
  rw [spanDigits, List.takeWhile_append_of_pos hdigits, List.dropWhile_append_of_pos hdigits,
    hstop.1, hstop.2, List.append_nil]

theorem spanDigits_spec {text digits rest : List Char} (hspan : spanDigits text = (digits, rest)) :
    text = digits ++ rest ∧ ∀ c ∈ digits, c.isDigit = true := by
  obtain ⟨rfl, rfl⟩ := Prod.mk.inj hspan
  exact ⟨List.takeWhile_append_dropWhile.symm, fun c hmem => List.mem_takeWhile_imp hmem⟩

/-! ## The parts of a numeral -/

theorem isWhole_of_readWhole {text digits rest : List Char}
    (hread : readWhole text = some (digits, rest)) : text = digits ++ rest ∧ IsWhole digits := by
  unfold readWhole at hread
  split at hread
  next behind =>
    simp only [Option.some.injEq, Prod.mk.injEq] at hread
    obtain ⟨rfl, rfl⟩ := hread
    exact ⟨rfl, .zero⟩
  next hzero =>
    split at hread
    next => simp at hread
    next hempty =>
      have hspan := Option.some.inj hread
      obtain ⟨rfl, hdigits⟩ := spanDigits_spec hspan
      cases digits with
      | nil => exact absurd hspan (hempty rest)
      | cons first others =>
          refine ⟨rfl, .digits ?_ (areDigits_iff.mpr ⟨List.cons_ne_nil _ _, hdigits⟩)⟩
          rintro rfl
          exact hzero _ rfl

theorem readWhole_append {whole rest : List Char} (hwhole : IsWhole whole)
    (hrest : StartsNoDigit rest) : readWhole (whole ++ rest) = some (whole, rest) := by
  cases hwhole with
  | zero => rfl
  | @digits first others hfirst hdigits =>
      have hspan := spanDigits_append (areDigits_iff.mp hdigits).2 hrest
      unfold readWhole
      split
      next heq => exact absurd (List.cons.inj heq).1 hfirst
      next => rw [hspan]

theorem fractionText_of_readFraction {text rest : List Char} {fraction : Option (List Char)}
    (hread : readFraction text = (fraction, rest)) :
    ∃ written, text = written ++ rest ∧ FractionText fraction written := by
  unfold readFraction at hread
  split at hread
  next behind =>
    split at hread
    next =>
      obtain ⟨rfl, rfl⟩ := Prod.mk.inj hread
      exact ⟨[], rfl, .absent⟩
    next digits others hempty hspan =>
      obtain ⟨rfl, rfl⟩ := Prod.mk.inj hread
      obtain ⟨rfl, hdigits⟩ := spanDigits_spec hspan
      exact ⟨_, rfl, .present (areDigits_iff.mpr ⟨hempty, hdigits⟩)⟩
  next =>
    obtain ⟨rfl, rfl⟩ := Prod.mk.inj hread
    exact ⟨[], rfl, .absent⟩

/-- A fraction is read as it is written, and none is read where no point follows. -/
theorem readFraction_append {written rest : List Char} {fraction : Option (List Char)}
    (hfraction : FractionText fraction written) (hdigit : StartsNoDigit rest)
    (hpoint : '.' ∉ rest.head?) : readFraction (written ++ rest) = (fraction, rest) := by
  cases hfraction with
  | absent =>
      unfold readFraction
      split
      next heq =>
        rw [List.nil_append] at heq
        simp [heq] at hpoint
      next => rfl
  | @present digits hdigits =>
      rw [areDigits_iff] at hdigits
      rw [List.cons_append, readFraction, spanDigits_append hdigits.2 hdigit]
      cases digits with
      | nil => exact absurd rfl hdigits.1
      | cons => rfl

theorem exponentSign_of_readSign {text rest : List Char} {negative : Bool}
    (hread : readSign text = (negative, rest)) :
    ∃ sign, text = sign ++ rest ∧ ExponentSign negative sign := by
  unfold readSign at hread
  split at hread <;> obtain ⟨rfl, rfl⟩ := Prod.mk.inj hread
  · exact ⟨['-'], rfl, .minus⟩
  · exact ⟨['+'], rfl, .plus⟩
  · exact ⟨[], rfl, .absent⟩

theorem readSign_append {negative : Bool} {sign : List Char} {first : Char}
    (hsign : ExponentSign negative sign) (hfirst : first.isDigit = true) (rest : List Char) :
    readSign (sign ++ first :: rest) = (negative, first :: rest) := by
  cases hsign with
  | absent =>
      unfold readSign
      split
      next heq =>
        obtain ⟨rfl, -⟩ := List.cons.inj heq
        exact absurd hfirst (by decide)
      next heq =>
        obtain ⟨rfl, -⟩ := List.cons.inj heq
        exact absurd hfirst (by decide)
      next => rfl
  | plus => rfl
  | minus => rfl

/-- What is read as an exponent is one, or there is none. -/
theorem exponentText_of_readExponent {text rest : List Char} {exponent : Option (Bool × List Char)}
    (hread : readExponent text = (exponent, rest)) :
    ∃ written, text = written ++ rest ∧ ExponentText exponent written := by
  cases text with
  | nil =>
      obtain ⟨rfl, rfl⟩ := Prod.mk.inj hread
      exact ⟨[], rfl, .absent⟩
  | cons mark text =>
      rw [readExponent] at hread
      split at hread
      next hmark =>
        rcases hread' : readSign text with ⟨negative, unsigned⟩
        obtain ⟨sign, rfl, hsign⟩ := exponentSign_of_readSign hread'
        rw [hread'] at hread
        dsimp only at hread
        split at hread
        next =>
          obtain ⟨rfl, rfl⟩ := Prod.mk.inj hread
          exact ⟨[], rfl, .absent⟩
        next digits others hempty hspan =>
          obtain ⟨rfl, rfl⟩ := Prod.mk.inj hread
          obtain ⟨rfl, hdigits⟩ := spanDigits_spec hspan
          refine ⟨mark :: sign ++ digits, ?_, .present (by simpa using hmark) hsign
            (areDigits_iff.mpr ⟨hempty, hdigits⟩)⟩
          rw [List.cons_append, List.cons_append, List.append_assoc]
      next =>
        obtain ⟨rfl, rfl⟩ := Prod.mk.inj hread
        exact ⟨[], rfl, .absent⟩

/-- An exponent is read as it is written, and none is read where the numeral ends. -/
theorem readExponent_append {written rest : List Char} {exponent : Option (Bool × List Char)}
    (hexponent : ExponentText exponent written) (hrest : EndsNumeral rest) :
    readExponent (written ++ rest) = (exponent, rest) := by
  cases hexponent with
  | absent =>
      cases rest with
      | nil => rfl
      | cons c rest =>
          obtain ⟨-, -, hsmall, hgreat⟩ := hrest c rfl
          rw [List.nil_append, readExponent, if_neg (by simp [hsmall, hgreat])]
  | @present mark negative sign digits hmark hsign hdigits =>
      rw [areDigits_iff] at hdigits
      have hspan := spanDigits_append hdigits.2 hrest.startsNoDigit
      cases digits with
      | nil => exact absurd rfl hdigits.1
      | cons first others =>
          have hfirst := readSign_append hsign (hdigits.2 first List.mem_cons_self) (others ++ rest)
          rw [List.append_assoc, List.cons_append, List.cons_append, readExponent,
            if_pos (by simpa using hmark), hfirst]
          dsimp only
          rw [← List.cons_append, hspan]

/-! ## Numerals -/

theorem minusText_of_readMinus {text rest : List Char} {negative : Bool}
    (hread : readMinus text = (negative, rest)) : text = minusText negative ++ rest := by
  unfold readMinus at hread
  split at hread <;> obtain ⟨rfl, rfl⟩ := Prod.mk.inj hread <;> rfl

/-- A whole part has no sign of its own, so one sign is read before it at most. -/
theorem readMinus_append (negative : Bool) {whole rest : List Char} (hwhole : IsWhole whole) :
    readMinus (minusText negative ++ (whole ++ rest)) = (negative, whole ++ rest) := by
  cases negative with
  | true => rfl
  | false =>
      cases hwhole with
      | zero => rfl
      | @digits first others hfirst hdigits =>
          have hdigit := (areDigits_iff.mp hdigits).2 first List.mem_cons_self
          unfold readMinus minusText
          split
          next heq =>
            obtain ⟨rfl, -⟩ := List.cons.inj heq
            exact absurd hdigit (by decide)
          next => rfl

/-- What is read as a numeral is written as the numeral. -/
theorem writtenAs_of_readNumeral {text rest : List Char} {numeral : Numeral}
    (hread : readNumeral text = some (numeral, rest)) :
    ∃ written, text = written ++ rest ∧ numeral.WrittenAs written := by
  rw [readNumeral] at hread
  rcases hminus : readMinus text with ⟨negative, unsigned⟩
  rw [hminus] at hread
  dsimp only at hread
  split at hread
  next => simp at hread
  next whole behindWhole hwhole =>
    rcases hfraction : readFraction behindWhole with ⟨fraction, behindFraction⟩
    rcases hexponent : readExponent behindFraction with ⟨exponent, behindExponent⟩
    rw [hfraction] at hread
    dsimp only at hread
    rw [hexponent] at hread
    simp only [Option.some.injEq, Prod.mk.injEq] at hread
    obtain ⟨rfl, rfl⟩ := hread
    obtain rfl := minusText_of_readMinus hminus
    obtain ⟨rfl, hiswhole⟩ := isWhole_of_readWhole hwhole
    obtain ⟨fractionText, rfl, hfractionText⟩ := fractionText_of_readFraction hfraction
    obtain ⟨exponentText, rfl, hexponentText⟩ := exponentText_of_readExponent hexponent
    refine ⟨_, ?_, .intro hiswhole hfractionText hexponentText⟩
    simp only [List.append_assoc]

/-- A numeral is read whole from any way to write it. -/
theorem readNumeral_append {numeral : Numeral} {written rest : List Char}
    (hwritten : numeral.WrittenAs written) (hrest : EndsNumeral rest) :
    readNumeral (written ++ rest) = some (numeral, rest) := by
  cases hwritten with
  | @intro negative whole fraction exponent fractionText exponentText hwhole hfraction hexponent =>
      have hbehindFraction := hexponent.startsNoDigit hrest.startsNoDigit
      have hpoint : '.' ∉ (exponentText ++ rest).head? := by
        cases hexponent with
        | absent => exact fun hhead => (hrest '.' hhead).2.1 rfl
        | present hmark => rcases hmark with rfl | rfl <;> simp
      simp only [List.append_assoc, readNumeral]
      rw [readMinus_append negative hwhole]
      simp only
      rw [readWhole_append hwhole (hfraction.startsNoDigit hbehindFraction)]
      simp only
      rw [readFraction_append hfraction hbehindFraction hpoint]
      simp only
      rw [readExponent_append hexponent hrest]

/-! ## Values of numerals -/

/-- The digits before and behind the point, read as one integer and scaled, give the size. -/
theorem Numeral.size_eq (numeral : Numeral) :
    numeral.size =
      (ofDigits (numeral.whole ++ numeral.fraction.getD []) : ℚ) * 10 ^ numeral.scale := by
  have hshift : ∀ (whole fraction : ℚ) (places : Nat) (exponent : Int),
      (whole + fraction / 10 ^ places) * 10 ^ exponent =
        (10 ^ places * whole + fraction) * 10 ^ (exponent - (places : Int)) := by
    intro whole fraction places exponent
    have hpower : (10 : ℚ) ^ places ≠ 0 := pow_ne_zero _ (by norm_num)
    rw [zpow_sub₀ (by norm_num), zpow_natCast]
    field_simp
  rw [Number.ofDigits_append]
  push_cast
  exact hshift _ _ _ _

theorem Numeral.double_eq_iff {numeral : Numeral} {number : Double} :
    numeral.double = number ↔ number.IsRounding numeral.negative numeral.size := by
  rw [Numeral.double, Double.ofDecimal_eq_iff, Numeral.size_eq]

theorem Numeral.isInteger_iff {numeral : Numeral} :
    numeral.isInteger = true ↔ numeral.fraction = none ∧ numeral.exponent = none := by
  simp [Numeral.isInteger]

theorem Numeral.integer_eq (numeral : Numeral) :
    numeral.integer =
      if Number.digitLimit < numeral.whole.length then .error ⟨numeral.whole.length⟩
      else .ok (if numeral.negative then -(ofDigits numeral.whole : Int)
        else ofDigits numeral.whole) := by
  unfold Numeral.integer Number.readDigits
  by_cases hlimit : Number.digitLimit < numeral.whole.length
  · rw [if_pos hlimit, if_pos hlimit]
    rfl
  · rw [if_neg hlimit, if_neg hlimit]
    rfl

/-- In strict reading a numeral has the value that it denotes. -/
theorem Numeral.denotes_of_value {numeral : Numeral} {written : List Char} {value : Value}
    (hvalue : numeral.value .strict written = .ok value) : numeral.Denotes value := by
  rcases numeral with ⟨negative, whole, fraction, exponent⟩
  unfold Numeral.value at hvalue
  split at hvalue
  next hinteger =>
    obtain ⟨rfl, rfl⟩ := Numeral.isInteger_iff.mp hinteger
    rw [Numeral.integer_eq] at hvalue
    dsimp only at hvalue
    by_cases hlimit : Number.digitLimit < whole.length
    · rw [if_pos hlimit] at hvalue
      simp at hvalue
    · rw [if_neg hlimit] at hvalue
      obtain rfl := Except.ok.inj hvalue
      exact .int (not_lt.mp hlimit)
  next hform =>
    dsimp only at hvalue
    split at hvalue
    next => simp at hvalue
    next hfinite =>
      obtain rfl := Except.ok.inj hvalue
      refine .double ?_ (Numeral.double_eq_iff.mp rfl) (by simpa using hfinite)
      rw [Numeral.isInteger_iff] at hform
      exact not_and_or.mp hform

/-- The value of a numeral is the number it denotes, in both modes. -/
theorem Numeral.value_of_denotes {numeral : Numeral} {value : Value}
    (hdenotes : numeral.Denotes value) (mode : Mode) (written : List Char) :
    numeral.value mode written = .ok value := by
  cases hdenotes with
  | @int negative whole hlength =>
      rw [Numeral.value, if_pos (Numeral.isInteger_iff.mpr ⟨rfl, rfl⟩), Numeral.integer_eq,
        if_neg (not_lt.mpr hlength)]
  | @double _ number hform hrounding hfinite =>
      rw [Numeral.value, if_neg (mt Numeral.isInteger_iff.mp (not_and_or.mpr hform)),
        Numeral.double_eq_iff.mpr hrounding]
      simp [hfinite]

end Assay.Json
