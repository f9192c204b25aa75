import Assay.Json.Refusal
import Assay.Json.Value

/-! # JSON numerals

The longest numeral at the start of a text, taken apart into its digits. A fraction or an
exponent makes it a binary64 number, otherwise it is an integer of any size.
-/

namespace Assay.Json

open Number (Double)

structure Numeral where
  negative : Bool
  whole : List Char
  fraction : Option (List Char)
  exponent : Option (Bool × List Char)
  deriving DecidableEq

def spanDigits (text : List Char) : List Char × List Char :=
  (text.takeWhile Char.isDigit, text.dropWhile Char.isDigit)

theorem length_spanDigits (text : List Char) :
    (spanDigits text).1.length + (spanDigits text).2.length = text.length := by
  rw [spanDigits, ← List.length_append, List.takeWhile_append_dropWhile]

/-- The digits before the point: a lone zero, or digits that do not start with one. -/
def readWhole : List Char → Option (List Char × List Char)
  | '0' :: rest => some (['0'], rest)
  | text => match spanDigits text with
    | ([], _) => none
    | digits => some digits

/-- The digits behind the point. A point without digits is no part of the numeral. -/
def readFraction : List Char → Option (List Char) × List Char
  | '.' :: rest => match spanDigits rest with
    | ([], _) => (none, '.' :: rest)
    | (digits, rest) => (some digits, rest)
  | text => (none, text)

/-- A sign, negative or not, and the text behind it. -/
def readSign : List Char → Bool × List Char
  | '-' :: rest => (true, rest)
  | '+' :: rest => (false, rest)
  | text => (false, text)

/-- The exponent. A mark without digits is no part of the numeral. -/
def readExponent : List Char → Option (Bool × List Char) × List Char
  | [] => (none, [])
  | mark :: text =>
    if mark = 'e' || mark = 'E' then
      let (negative, unsigned) := readSign text
      match spanDigits unsigned with
      | ([], _) => (none, mark :: text)
      | (digits, rest) => (some (negative, digits), rest)
    else
      (none, mark :: text)

/-- The sign of a numeral. -/
def readMinus : List Char → Bool × List Char
  | '-' :: rest => (true, rest)
  | text => (false, text)

def readNumeral (text : List Char) : Option (Numeral × List Char) :=
  let (negative, unsigned) := readMinus text
  match readWhole unsigned with
  | none => none
  | some (whole, behindWhole) =>
    let (fraction, behindFraction) := readFraction behindWhole
    let (exponent, rest) := readExponent behindFraction
    some (⟨negative, whole, fraction, exponent⟩, rest)

theorem length_of_readWhole {text digits rest : List Char}
    (hread : readWhole text = some (digits, rest)) : rest.length < text.length := by
  unfold readWhole at hread
  split at hread
  · simp_all
  · have hlength := length_spanDigits text
    split at hread
    · simp at hread
    · next hspan =>
      simp only [Option.some.injEq] at hread
      rw [hread] at hlength hspan
      cases digits with
      | nil => exact absurd rfl (hspan rest)
      | cons digit digits =>
        simp only [List.length_cons] at hlength
        omega

theorem length_readFraction_le (text : List Char) :
    (readFraction text).2.length ≤ text.length := by
  unfold readFraction
  split
  · next rest =>
    have hlength := length_spanDigits rest
    split
    · simp
    · next hspan =>
      simp only [hspan] at hlength
      simp only [List.length_cons]
      omega
  · simp

theorem length_readSign_le (text : List Char) : (readSign text).2.length ≤ text.length := by
  unfold readSign
  split <;> simp

theorem length_readExponent_le (text : List Char) :
    (readExponent text).2.length ≤ text.length := by
  cases text with
  | nil => simp [readExponent]
  | cons mark text =>
    have hsign := length_readSign_le text
    have hlength := length_spanDigits (readSign text).2
    simp only [readExponent]
    split
    · split
      · simp
      · next hspan =>
        simp only [hspan] at hlength
        simp only [List.length_cons]
        omega
    · simp

theorem length_readMinus_le (text : List Char) : (readMinus text).2.length ≤ text.length := by
  unfold readMinus
  split <;> simp

theorem length_of_readNumeral {text rest : List Char} {numeral : Numeral}
    (hread : readNumeral text = some (numeral, rest)) : rest.length < text.length := by
  simp only [readNumeral] at hread
  split at hread
  · simp at hread
  · next whole behindWhole hwhole =>
    simp only [Option.some.injEq, Prod.mk.injEq] at hread
    have hminus := length_readMinus_le text
    have hdigits := length_of_readWhole hwhole
    have hfraction := length_readFraction_le behindWhole
    have hexponent := length_readExponent_le (readFraction behindWhole).2
    rw [← hread.2]
    omega

namespace Numeral

def isInteger (numeral : Numeral) : Bool :=
  numeral.fraction.isNone && numeral.exponent.isNone

/-- The integer of a numeral without fraction and exponent. -/
def integer (numeral : Numeral) : Except Number.TooManyDigits Int :=
  (Number.readDigits numeral.whole).map fun size =>
    if numeral.negative then -(size : Int) else size

/-- The power of ten by which the digits of a numeral, read without the point, are scaled. -/
def scale (numeral : Numeral) : Int :=
  let written : Int := match numeral.exponent with
    | some (negative, digits) =>
      if negative then -(Number.ofDigits digits : Int) else Number.ofDigits digits
    | none => 0
  written - (numeral.fraction.getD []).length

def double (numeral : Numeral) : Double :=
  Double.ofDecimal numeral.negative
    (Number.ofDigits (numeral.whole ++ numeral.fraction.getD [])) numeral.scale

end Numeral

end Assay.Json
