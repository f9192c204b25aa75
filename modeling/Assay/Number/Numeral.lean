import Assay.Number.Rounding

/-! # Numerals

Digits as they stand in a text. A decimal integer may be read only up to a limit of digits,
leading zeros included, and is written only up to this limit; the other numerals have no limit.
-/

namespace Assay.Number

/-- The greatest number of digits of a decimal integer that is read. -/
def digitLimit : Nat := 4300

/-- A decimal integer has more digits than are read. -/
structure TooManyDigits where
  count : Nat
  deriving DecidableEq

def TooManyDigits.message (refusal : TooManyDigits) : String :=
  s!"Exceeds the limit ({digitLimit} digits) for integer string conversion: " ++
    s!"value has {refusal.count} digits; " ++
    "use sys.set_int_max_str_digits() to increase the limit"

/-- Whether an integer has no more digits than are read or written. -/
def fitsLimit (value : Int) : Bool := digitCount value.natAbs ≤ digitLimit

/-- The wording of the refusal to write an integer with too many digits. -/
def unwritableMessage : String :=
  s!"Exceeds the limit ({digitLimit} digits) for integer string conversion; " ++
    "use sys.set_int_max_str_digits() to increase the limit"

def digitValue (c : Char) : Nat := c.toNat - 0x30

def ofDigits (digits : List Char) : Nat :=
  digits.foldl (fun value digit => 10 * value + digitValue digit) 0

/-- The number that a run of ASCII digits denotes, unless the run is too long. -/
def readDigits (digits : List Char) : Except TooManyDigits Nat :=
  if digitLimit < digits.length then .error ⟨digits.length⟩ else .ok (ofDigits digits)

def hexValue? (c : Char) : Option Nat :=
  if c.isDigit then some (c.toNat - 0x30)
  else if 'a' ≤ c && c ≤ 'f' then some (c.toNat - 0x61 + 10)
  else if 'A' ≤ c && c ≤ 'F' then some (c.toNat - 0x41 + 10)
  else none

/-- The number that a list of hexadecimal digits denotes. -/
def readHex? (digits : List Char) : Option Nat :=
  digits.foldlM (fun value digit => (hexValue? digit).map (16 * value + ·)) 0

end Assay.Number
