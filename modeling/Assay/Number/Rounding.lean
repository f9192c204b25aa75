import Assay.Number.Double

/-! # Rounding to binary64

A non-negative fraction is rounded to the nearest binary64 number, a tie to the even
significand; a value that lies half a unit or more beyond the largest number becomes infinite.
Sums, products and decimal numerals are rounded once, from their exact value.
-/

namespace Assay.Number

/-- The quotient of a fraction by `2 ^ exponent`, as a fraction of natural numbers. -/
def scaleDown (numerator denominator : Nat) (exponent : Int) : Nat × Nat :=
  (numerator * Nat.pow 2 (-exponent).toNat, denominator * Nat.pow 2 exponent.toNat)

/-- The nearest natural number to a fraction, a tie to the even one. -/
def roundHalfEven (numerator denominator : Nat) : Nat :=
  let quotient := numerator / denominator
  let twice := 2 * (numerator % denominator)
  if twice < denominator then quotient
  else if denominator < twice then quotient + 1
  else if quotient % 2 = 0 then quotient
  else quotient + 1

/-- The least exponent of the format at which a positive fraction has a quotient of at most 53
bits. The bit lengths of the two parts leave two candidates. -/
def fittingExponent (numerator denominator : Nat) : Int :=
  let guess : Int := (numerator.log2 : Int) - denominator.log2 - 53
  let scaled := scaleDown numerator denominator guess
  let exponent := if scaled.1 < scaled.2 * Nat.pow 2 53 then guess else guess + 1
  max exponent (-1074)

/-- The number with a given significand of at most 53 bits or `2 ^ 53` itself, infinite when no
exponent of the format suits it. -/
def Double.ofParts (negative : Bool) (significand : Nat) (exponent : Int) : Double :=
  if hfits : InFormat significand exponent then
    .finite negative significand exponent hfits
  else if hcarry : InFormat (significand / 2) (exponent + 1) then
    .finite negative (significand / 2) (exponent + 1) hcarry
  else
    .infinite negative

/-- The nearest number to a fraction with a positive denominator. The fraction is reduced first,
so the result depends on its value alone. -/
def Double.ofRatio (negative : Bool) (numerator denominator : Nat) : Double :=
  if numerator = 0 then
    Double.zero negative
  else
    let divisor := Nat.gcd numerator denominator
    let numerator := numerator / divisor
    let denominator := denominator / divisor
    let exponent := fittingExponent numerator denominator
    let scaled := scaleDown numerator denominator exponent
    Double.ofParts negative (roundHalfEven scaled.1 scaled.2) exponent

/-- The number of decimal digits, none for zero. -/
def digitCount (number : Nat) : Nat :=
  if number = 0 then 0 else (Nat.toDigits 10 number).length

/-- The nearest number to `digits · 10 ^ exponent`. A value far outside the format is decided by
its order of magnitude, so the work does not grow with the exponent. -/
def Double.ofDecimal (negative : Bool) (digits : Nat) (exponent : Int) : Double :=
  if digits = 0 then
    Double.zero negative
  else
    let magnitude := exponent + digitCount digits
    if 400 < magnitude then .infinite negative
    else if magnitude < -400 then Double.zero negative
    else Double.ofRatio negative (digits * Nat.pow 10 exponent.toNat)
      (Nat.pow 10 (-exponent).toNat)

/-- The nearest number to a signed fraction; `zeroNegative` gives the sign of a zero. -/
def Double.ofSigned (zeroNegative : Bool) (numerator : Int) (denominator : Nat) : Double :=
  if numerator = 0 then Double.zero zeroNegative
  else Double.ofRatio (numerator < 0) numerator.natAbs denominator

/-- The rounded sum. -/
def Double.add : Double → Double → Double
  | .finite n₁ s₁ e₁ _, .finite n₂ s₂ e₂ _ =>
    let (numerator₁, denominator₁) := Double.ratio n₁ s₁ e₁
    let (numerator₂, denominator₂) := Double.ratio n₂ s₂ e₂
    Double.ofSigned (n₁ && n₂) (numerator₁ * denominator₂ + numerator₂ * denominator₁)
      (denominator₁ * denominator₂)
  | .infinite n₁, .infinite n₂ => if n₁ = n₂ then .infinite n₁ else .nan
  | .infinite negative, .finite .. | .finite .., .infinite negative => .infinite negative
  | _, _ => .nan

/-- The rounded product. -/
def Double.mul : Double → Double → Double
  | .finite n₁ s₁ e₁ _, .finite n₂ s₂ e₂ _ =>
    let (numerator₁, denominator₁) := Double.ratio n₁ s₁ e₁
    let (numerator₂, denominator₂) := Double.ratio n₂ s₂ e₂
    Double.ofSigned (n₁ != n₂) (numerator₁ * numerator₂) (denominator₁ * denominator₂)
  | .infinite n₁, .infinite n₂ => .infinite (n₁ != n₂)
  | .infinite n₁, .finite n₂ significand _ _ | .finite n₂ significand _ _, .infinite n₁ =>
    if significand = 0 then .nan else .infinite (n₁ != n₂)
  | _, _ => .nan

def Double.ofInt (integer : Int) : Double := Double.ofSigned false integer 1

end Assay.Number
