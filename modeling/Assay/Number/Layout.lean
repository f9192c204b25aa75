import Assay.Number.Shortest

/-! # The text of a number

An integer is written with all its digits. A binary64 number is written by its shortest decimal:
positionally, with a digit on both sides of the point, when its first digit stands between four
places behind the point and sixteen places before it, otherwise with an exponent of at least two
digits.
-/

namespace Assay.Number

def digitsOf (number : Nat) : List Char := Nat.toDigits 10 number

/-- An integer in decimal digits. -/
def intText : Int → List Char
  | .ofNat number => digitsOf number
  | .negSucc number => '-' :: digitsOf (number + 1)

/-- The exponent part of a text: sign and at least two digits. -/
def exponentText (exponent : Int) : List Char :=
  let digits := digitsOf exponent.natAbs
  let padded := if digits.length < 2 then '0' :: digits else digits
  'e' :: (if exponent < 0 then '-' else '+') :: padded

/-- The digits of a positive value with the point after the first `place` of them. A place that
is not positive puts zeros behind the point. -/
def positional (digits : List Char) (place : Int) : List Char :=
  if place ≤ 0 then
    '0' :: '.' :: List.replicate (-place).toNat '0' ++ digits
  else if digits.length ≤ place then
    digits ++ List.replicate (place.toNat - digits.length) '0' ++ ['.', '0']
  else
    digits.take place.toNat ++ '.' :: digits.drop place.toNat

/-- The digits of a positive value in scientific notation. -/
def scientific (digits : List Char) (place : Int) : List Char :=
  match digits with
  | [] => []
  | [digit] => digit :: exponentText (place - 1)
  | digit :: others => digit :: '.' :: others ++ exponentText (place - 1)

/-- The least and the greatest place of the point for which the notation is positional. -/
def positionalPlaces : Int × Int := (-3, 16)

def Decimal.text (decimal : Decimal) : List Char :=
  let reduced := Decimal.dropZeros decimal.digits.log2 decimal
  let digits := digitsOf reduced.digits
  let place : Int := reduced.exponent + digits.length
  if positionalPlaces.1 ≤ place && place ≤ positionalPlaces.2 then positional digits place
  else scientific digits place

/-- The text of a binary64 number, with the given words for the values that have no digits. -/
def Double.textWith (infinity notNumber : List Char) : Double → List Char
  | .finite negative significand exponent _ =>
    let size :=
      if significand = 0 then ['0', '.', '0']
      else (Decimal.shortest significand exponent).text
    if negative then '-' :: size else size
  | .infinite negative => if negative then '-' :: infinity else infinity
  | .nan => notNumber

def Double.text (number : Double) : List Char :=
  number.textWith ['i', 'n', 'f'] ['n', 'a', 'n']

end Assay.Number
