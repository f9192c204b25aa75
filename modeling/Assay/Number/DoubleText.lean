import Assay.Number.Numeral
import Assay.Text.Alphanumeric
import Assay.Text.Basic

/-! # Binary64 numbers as people write them

A number in a free text may have blanks around it and a sign before it, digits on one side of the
point only, decimal digits of any script, or be one of the words for infinity and for no number.
-/

namespace Assay.Number

def asciiDigit (c : Char) : Char :=
  match Text.decimalValue? c with
  | some value => Char.ofNat (0x30 + value)
  | none => c

/-- An exponent of ten: a mark, a sign that may be left out, and digits. No text is no power. -/
def exponentOf? : List Char → Option Int
  | [] => some 0
  | mark :: rest =>
    if mark.toLower ≠ 'e' then none
    else
      let (negative, digits) := match rest with
        | '-' :: digits => (true, digits)
        | '+' :: digits => (false, digits)
        | digits => (false, digits)
      if digits.isEmpty || !digits.all Char.isDigit then none
      else some (if negative then -(ofDigits digits : Int) else ofDigits digits)

/-- The number that a text without sign denotes by digits. -/
def ofDecimalText? (negative : Bool) (text : List Char) : Option Double :=
  let whole := text.takeWhile Char.isDigit
  let behind := text.dropWhile Char.isDigit
  let (fraction, behind) := match behind with
    | '.' :: rest => (rest.takeWhile Char.isDigit, rest.dropWhile Char.isDigit)
    | _ => ([], behind)
  if whole.isEmpty && fraction.isEmpty then none
  else (exponentOf? behind).map fun exponent =>
    Double.ofDecimal negative (ofDigits (whole ++ fraction)) (exponent - fraction.length)

def infinityWords : List (List Char) :=
  [['i', 'n', 'f'], ['i', 'n', 'f', 'i', 'n', 'i', 't', 'y']]

def readDouble? (text : List Char) : Option Double :=
  let (negative, unsigned) := match Text.trim text with
    | '-' :: rest => (true, rest)
    | '+' :: rest => (false, rest)
    | rest => (false, rest)
  let word := unsigned.map Char.toLower
  if infinityWords.contains word then some (.infinite negative)
  else if word = ['n', 'a', 'n'] then some .nan
  else ofDecimalText? negative (unsigned.map asciiDigit)

end Assay.Number
