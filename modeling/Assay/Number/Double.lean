/-! # Binary64 numbers

A finite number is kept as sign, significand and exponent, in the one form that the binary64
format gives it, so two finite numbers other than the zeros are equal exactly when their fields
are. Nothing here depends on the machine's own floating point.
-/

namespace Assay.Number

/-- The pairs `(significand, exponent)` that stand for `significand · 2 ^ exponent` in binary64:
the significand has 53 bits with its top bit set, unless the exponent is already the least. -/
def InFormat (significand : Nat) (exponent : Int) : Prop :=
  significand < Nat.pow 2 53 ∧ -1074 ≤ exponent ∧ exponent ≤ 971 ∧
    (Nat.pow 2 52 ≤ significand ∨ exponent = -1074)

instance (significand : Nat) (exponent : Int) : Decidable (InFormat significand exponent) :=
  inferInstanceAs (Decidable (_ ∧ _ ∧ _ ∧ _))

/-- A binary64 number. -/
inductive Double where
  | finite (negative : Bool) (significand : Nat) (exponent : Int)
      (inFormat : InFormat significand exponent)
  | infinite (negative : Bool)
  | nan
  deriving DecidableEq

namespace Double

def zero (negative : Bool) : Double := .finite negative 0 (-1074) (by decide)

instance : Inhabited Double := ⟨zero false⟩

/-- Whether the number is neither infinite nor undefined. -/
def isFinite : Double → Bool
  | .finite .. => true
  | _ => false

/-- The number with the opposite sign. -/
def neg : Double → Double
  | .finite negative significand exponent inFormat =>
    .finite (!negative) significand exponent inFormat
  | .infinite negative => .infinite (!negative)
  | .nan => .nan

/-- A finite number as a fraction: a signed numerator over a positive denominator. -/
def ratio (negative : Bool) (significand : Nat) (exponent : Int) : Int × Nat :=
  let size := significand * Nat.pow 2 exponent.toNat
  (if negative then -(size : Int) else size, Nat.pow 2 (-exponent).toNat)

/-- Equality of values: the two zeros are equal, and an undefined number equals nothing. -/
def eqv : Double → Double → Bool
  | .finite n₁ s₁ e₁ _, .finite n₂ s₂ e₂ _ =>
    (s₁ = 0 && s₂ = 0) || (n₁ = n₂ && s₁ = s₂ && e₁ = e₂)
  | .infinite n₁, .infinite n₂ => n₁ = n₂
  | _, _ => false

/-- Whether a number has exactly the value of an integer. -/
def eqvInt : Double → Int → Bool
  | .finite negative significand exponent _, integer =>
    let (numerator, denominator) := ratio negative significand exponent
    numerator = integer * denominator
  | _, _ => false

end Double

end Assay.Number
