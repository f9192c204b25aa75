/-! # Codes and characters

A character beyond the first plane can be written as two codes, the halves of a surrogate pair.
A half that stands alone names no character. It is kept as one of the characters from U+DD800 to
U+DDFFF, in a plane in which none is assigned, so that it stays apart from all text that is in use.

A file holds UTF-8. The three conventions for the end of a line are read alike.
-/

namespace Assay.Text

/-! ## Surrogates -/

/-- The first half of a pair of codes that together name one character. -/
def isHighSurrogate (code : Nat) : Bool := 0xD800 ≤ code && code < 0xDC00

/-- The second half of such a pair. -/
def isLowSurrogate (code : Nat) : Bool := 0xDC00 ≤ code && code < 0xE000

/-- The distance between a half and the character for it. -/
def surrogateShift : Nat := 0xD0000

def charOfCode (code : Nat) : Char :=
  if isHighSurrogate code || isLowSurrogate code then Char.ofNat (surrogateShift + code)
  else Char.ofNat code

def codeOfChar (c : Char) : Nat :=
  let code := c.toNat - surrogateShift
  if isHighSurrogate code || isLowSurrogate code then code else c.toNat

/-- The characters of a list of codes, the halves of a pair joined. -/
def joinSurrogates : List Nat → List Char
  | high :: low :: codes =>
    if isHighSurrogate high && isLowSurrogate low then
      Char.ofNat (0x10000 + (high - 0xD800) * 0x400 + (low - 0xDC00)) :: joinSurrogates codes
    else
      charOfCode high :: joinSurrogates (low :: codes)
  | [code] => [charOfCode code]
  | [] => []

/-! ## Texts in files -/

def withLineFeeds : List Char → List Char
  | '\r' :: '\n' :: rest => '\n' :: withLineFeeds rest
  | '\r' :: rest => '\n' :: withLineFeeds rest
  | c :: rest => c :: withLineFeeds rest
  | [] => []

/-- The text of a file, if it is one. -/
def decode? (content : ByteArray) : Option String :=
  (String.fromUTF8? content).map fun text => String.ofList (withLineFeeds text.toList)

end Assay.Text
