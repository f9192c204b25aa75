import Assay.Text.Quoted

/-! # Ids of runs

A fresh run is told apart from others by 128 bits, of which six mark the bits as random. They are
written as 32 hexadecimal digits in five groups.
-/

namespace Assay

/-- The bits of a random id, from those of any number: the digit that tells the version is 4, and
the two bits that tell the variant are 10. -/
def identityBits (random : Nat) : Nat :=
  let above := random / Nat.pow 2 80 % Nat.pow 2 48
  let between := random / Nat.pow 2 64 % Nat.pow 2 12
  let below := random % Nat.pow 2 62
  above * Nat.pow 2 80 + 4 * Nat.pow 2 76 + between * Nat.pow 2 64 + Nat.pow 2 63 + below

/-- The sizes of the groups in which an id is written. -/
def identityGroups : List Nat := [8, 4, 4, 4, 12]

/-- Digits in groups of given sizes with hyphens between them. -/
def hyphenated : List Nat → List Char → List Char
  | [], digits => digits
  | [_], digits => digits
  | size :: sizes, digits => digits.take size ++ '-' :: hyphenated sizes (digits.drop size)

def identityText (random : Nat) : String :=
  String.ofList (hyphenated identityGroups (Text.hexDigits 32 (identityBits random)))

end Assay
