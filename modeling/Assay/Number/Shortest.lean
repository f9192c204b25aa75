import Assay.Number.Rounding

/-! # Shortest decimals

The decimal that stands for a binary64 number in a text: of all decimals that round to the
number those with the fewest digits, of these the nearest, and of two equally near ones the one
with the even last digit.
-/

namespace Assay.Number

/-- The value `digits · 10 ^ exponent`. -/
structure Decimal where
  digits : Nat
  exponent : Int
  deriving DecidableEq

/-- The exact value of `significand · 2 ^ exponent`, which always has a finite decimal. -/
def Decimal.exact (significand : Nat) (exponent : Int) : Decimal :=
  ⟨significand * Nat.pow 2 exponent.toNat * Nat.pow 5 (-exponent).toNat, min exponent 0⟩

/-- The grid of decimals with `count` digits around a positive decimal: the neighbour below, and
the remainder above it as a fraction of a unit of the grid. -/
def Decimal.cut (decimal : Decimal) (count : Nat) : Decimal × Nat × Nat :=
  let surplus := digitCount decimal.digits - count
  let unit := Nat.pow 10 surplus
  (⟨decimal.digits / unit, decimal.exponent + surplus⟩, decimal.digits % unit, unit)

/-- The decimals with at most `count` digits next to a positive decimal, the nearer first. -/
def Decimal.neighbours (decimal : Decimal) (count : Nat) : List Decimal :=
  let (below, remainder, unit) := decimal.cut count
  let above : Decimal := ⟨below.digits + 1, below.exponent⟩
  if remainder = 0 then [below]
  else if 2 * remainder < unit || (2 * remainder = unit && below.digits % 2 = 0) then
    [below, above]
  else
    [above, below]

/-- Whether a decimal rounds to the positive number `significand · 2 ^ exponent`. -/
def Decimal.roundsTo (decimal : Decimal) (significand : Nat) (exponent : Int) : Bool :=
  match Double.ofDecimal false decimal.digits decimal.exponent with
  | .finite _ s e _ => s = significand && e = exponent
  | _ => false

/-- The shortest decimal that rounds to a positive number, found by trying one digit, two
digits and so on. Seventeen always suffice; the exact value stands behind them. -/
def Decimal.shortest (significand : Nat) (exponent : Int) : Decimal :=
  let exact := Decimal.exact significand exponent
  let candidates := (List.range 17).flatMap fun index => exact.neighbours (index + 1)
  (candidates.find? fun decimal => decimal.roundsTo significand exponent).getD exact

/-- The same value without zeros at the end of the digits. The measure is the number of steps
still allowed, and a number has fewer trailing zeros than its own size. -/
def Decimal.dropZeros : Nat → Decimal → Decimal
  | 0, decimal => decimal
  | steps + 1, decimal =>
    if decimal.digits % 10 = 0 then dropZeros steps ⟨decimal.digits / 10, decimal.exponent + 1⟩
    else decimal

end Assay.Number
