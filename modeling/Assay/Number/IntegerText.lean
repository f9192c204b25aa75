import Assay.Number.Numeral
import Assay.Text.Alphanumeric
import Assay.Text.Basic

/-! # Integers as people write them

An integer in a free text may have blanks around it, a sign before it and single underscores
between its digits, which may be decimal digits of any script.
-/

namespace Assay.Number

/-- Why a text gives no integer. -/
inductive IntegerFault where
  | malformed
  | tooManyDigits (refusal : TooManyDigits)
  deriving DecidableEq

/-- The values of digits between which single underscores may stand. -/
def digitValues? : List Char → Option (List Nat)
  | [] => none
  | [c] => (Text.decimalValue? c).map ([·])
  | c :: '_' :: rest => do return (← Text.decimalValue? c) :: (← digitValues? rest)
  | c :: rest => do return (← Text.decimalValue? c) :: (← digitValues? rest)

def ofDigitValues (digits : List Nat) : Nat :=
  digits.foldl (fun value digit => 10 * value + digit) 0

def readInteger (text : List Char) : Except IntegerFault Int :=
  let (negative, unsigned) := match Text.trim text with
    | '-' :: rest => (true, rest)
    | '+' :: rest => (false, rest)
    | rest => (false, rest)
  match digitValues? unsigned with
  | none => .error .malformed
  | some digits =>
    if digitLimit < digits.length then
      .error (.tooManyDigits ⟨digits.length⟩)
    else
      let size : Int := ofDigitValues digits
      .ok (if negative then -size else size)

/-- The letter that may stand behind a zero to tell a base that is a power of two. -/
def baseLetter? : Nat → Option Char
  | 2 => some 'b'
  | 8 => some 'o'
  | 16 => some 'x'
  | _ => none

def withoutBaseMark (base : Nat) : List Char → List Char
  | '0' :: letter :: rest =>
    if baseLetter? base = some letter.toLower then rest else '0' :: letter :: rest
  | digits => digits

/-- The value of a digit or of a letter that is used as one. -/
def valueInBase? (base : Nat) (c : Char) : Option Nat :=
  ((Text.decimalValue? c).orElse fun _ => hexValue? c).filter (· < base)

/-- The integer that a text denotes in a base that is a power of two. -/
def readInBase? (base : Nat) (text : List Char) : Option Int :=
  let (negative, unsigned) := match Text.trim text with
    | '-' :: rest => (true, rest)
    | '+' :: rest => (false, rest)
    | rest => (false, rest)
  match withoutBaseMark base unsigned with
  | [] => none
  | digits => do
    let size ← digits.foldlM (fun value c => (valueInBase? base c).map (base * value + ·)) 0
    return if negative then -(size : Int) else size

end Assay.Number
