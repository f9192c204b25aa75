/-! # Base 64

Bytes written with 64 characters, four for three bytes. Characters that do not belong to the
alphabet are passed over, and reading ends where padding completes a group of four.
-/

namespace Assay.Yaml

/-- The value of a character of the alphabet. -/
def sextet? (c : Char) : Option Nat :=
  if 'A' ≤ c && c ≤ 'Z' then some (c.toNat - 0x41)
  else if 'a' ≤ c && c ≤ 'z' then some (c.toNat - 0x61 + 26)
  else if '0' ≤ c && c ≤ '9' then some (c.toNat - 0x30 + 52)
  else if c = '+' then some 62
  else if c = '/' then some 63
  else none

/-- The values of the characters, up to the padding that completes a group, and whether there is
such padding. The arguments count the values and the padding characters in the group so far. -/
def sextets (values padding : Nat) : List Char → List Nat × Bool
  | [] => ([], false)
  | c :: rest =>
    if c = '=' then
      if values < 2 then sextets values padding rest
      else if 4 ≤ values + padding + 1 then ([], true)
      else sextets values (padding + 1) rest
    else match sextet? c with
      | none => sextets values padding rest
      | some value =>
        let (others, padded) := sextets ((values + 1) % 4) 0 rest
        (value :: others, padded)

/-- The bytes of groups of values. A group that is not complete gives a byte less than it has
values. -/
def bytesOf : List Nat → List UInt8
  | a :: b :: c :: d :: rest =>
    UInt8.ofNat (a * 4 + b / 16) :: UInt8.ofNat (b % 16 * 16 + c / 4) ::
      UInt8.ofNat (c % 4 * 64 + d) :: bytesOf rest
  | [a, b, c] => [UInt8.ofNat (a * 4 + b / 16), UInt8.ofNat (b % 16 * 16 + c / 4)]
  | [a, b] => [UInt8.ofNat (a * 4 + b / 16)]
  | _ => []

/-- The bytes of a text in base 64. The last group must be complete or padded. -/
def readBinary? (text : List Char) : Option (List UInt8) :=
  if !text.all fun c => c.toNat < 0x80 then none
  else
    let (values, padded) := sextets 0 0 text
    if padded || values.length % 4 = 0 then some (bytesOf values) else none

end Assay.Yaml
