import Assay.Text.Alphanumeric
import Assay.Text.Basic
import Assay.Text.Case

/-! # Sets of characters in patterns

What a pattern may ask of one character: to be any character, to be a given one, or to belong to
a set of characters, ranges and classes. A comparison that ignores case is made on the
lower-case form and counts the lower-case forms that share an upper-case one as alike.
-/

namespace Assay.Pattern

/-- The characters for which letters, digits and blanks are told apart. -/
inductive Alphabet where
  | ascii
  | unicode
  deriving DecidableEq

inductive ClassName where
  | digit
  | space
  | word
  deriving DecidableEq

def ClassName.holds (name : ClassName) (alphabet : Alphabet) (c : Char) : Bool :=
  match name, alphabet with
  | digit, .ascii => c.isDigit
  | digit, .unicode => Text.isDecimal c
  | space, .ascii => c = ' ' || (0x9 ≤ c.toNat && c.toNat ≤ 0xD)
  | space, .unicode => Text.isBlank c
  | word, .ascii => c.isAlphanum || c = '_'
  | word, .unicode => Text.isAlphanumeric c || c = '_'

/-- A member of a set. Code points may name what is no character; such a member holds nothing. -/
inductive SetItem where
  | single (code : Nat)
  | range (low high : Nat)
  | named (name : ClassName) (negated : Bool)
  deriving DecidableEq

/-- The lower-case forms that share an upper-case form with another one. -/
def caseSiblings : List (List Nat) := [
  [0x69, 0x131], [0x73, 0x17F], [0xB5, 0x3BC], [0x345, 0x3B9, 0x1FBE], [0x390, 0x1FD3],
  [0x3B0, 0x1FE3], [0x3B2, 0x3D0], [0x3B5, 0x3F5], [0x3B8, 0x3D1], [0x3BA, 0x3F0],
  [0x3C0, 0x3D6], [0x3C1, 0x3F1], [0x3C2, 0x3C3], [0x3C6, 0x3D5], [0x432, 0x1C80],
  [0x434, 0x1C81], [0x43E, 0x1C82], [0x441, 0x1C83], [0x442, 0x1C84, 0x1C85], [0x44A, 0x1C86],
  [0x463, 0x1C87], [0x1C88, 0xA64B], [0x1E61, 0x1E9B], [0xFB05, 0xFB06]]

/-- A lower-case form with those that count as alike. -/
def siblings (code : Nat) : List Nat :=
  (caseSiblings.find? fun alike => alike.contains code).getD [code]

def lowerCode (alphabet : Alphabet) (code : Nat) : Nat :=
  match alphabet with
  | .ascii => if 0x41 ≤ code && code ≤ 0x5A then code + 0x20 else code
  | .unicode =>
    if code < 0x80 then
      if 0x41 ≤ code && code ≤ 0x5A then code + 0x20 else code
    else
      (Text.lowercaseRuns.findSome? fun run => run.apply? code).getD code

/-- The first code point of the upper-case form. -/
def upperCode (code : Nat) : Nat :=
  (Text.uppercaseRuns.findSome? fun run => run.apply? code).getD code

/-- The code points that count as alike in an alphabet, given a lower-case form. -/
def alike (alphabet : Alphabet) (code : Nat) : List Nat :=
  match alphabet with
  | .ascii => [code]
  | .unicode => siblings code

/-- The code points with a given lower-case form. -/
def raised (alphabet : Alphabet) (code : Nat) : List Nat :=
  let candidates := match alphabet with
    | .ascii => [code, code - 0x20]
    | .unicode =>
      code :: Text.lowercaseRuns.map fun (run : Text.CaseRun) => Int.toNat (code - run.shift)
  candidates.filter fun candidate => lowerCode alphabet candidate = code

/-- The last code point of the basic plane. -/
def basicPlaneEnd : Nat := 0xFFFF

/-- Whether a member of a set takes a lower-case form when case is ignored. Outside the basic
plane a single character is compared as it is written, and a range takes a character or the
upper-case form of it. -/
def SetItem.holdsFolded (alphabet : Alphabet) (code : Nat) : SetItem → Bool
  | single listed =>
    if basicPlaneEnd < listed then code = listed
    else (alike alphabet (lowerCode alphabet listed)).contains code
  | range low high =>
    ((alike alphabet code).any fun sibling => (raised alphabet sibling).any fun origin =>
        low ≤ origin && origin ≤ min high basicPlaneEnd) ||
      (basicPlaneEnd < high &&
        ((low ≤ code && code ≤ high) || (low ≤ upperCode code && upperCode code ≤ high)))
  | named name negated => name.holds alphabet (Char.ofNat code) != negated

def SetItem.holds (alphabet : Alphabet) (c : Char) : SetItem → Bool
  | single code => c.toNat = code
  | range low high => low ≤ c.toNat && c.toNat ≤ high
  | named name negated => name.holds alphabet c != negated

/-- A demand on one character. -/
inductive CharTest where
  | anyChar (lineBreaks : Bool)
  | literal (ignoreCase : Bool) (alphabet : Alphabet) (negated : Bool) (code : Nat)
  | oneOf (ignoreCase : Bool) (alphabet : Alphabet) (negated : Bool) (items : List SetItem)
  deriving DecidableEq

/-- Whether a character meets a demand. -/
def CharTest.holds (c : Char) : CharTest → Bool
  | anyChar lineBreaks => lineBreaks || c ≠ '\n'
  | literal ignoreCase alphabet negated code =>
    let same :=
      if ignoreCase then
        (alike alphabet (lowerCode alphabet code)).contains (lowerCode alphabet c.toNat)
      else
        c.toNat = code
    same != negated
  | oneOf ignoreCase alphabet negated items =>
    let member :=
      if ignoreCase then items.any (SetItem.holdsFolded alphabet (lowerCode alphabet c.toNat))
      else items.any (SetItem.holds alphabet c)
    member != negated

end Assay.Pattern
