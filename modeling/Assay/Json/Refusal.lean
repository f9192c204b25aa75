import Assay.Number.Numeral

/-! # Refused JSON texts

Why a text is not a JSON document, and how that is said. A fault of the grammar has a place in
the text; the other causes have none.
-/

namespace Assay.Json

/-- A place in a text: the characters before it, its line and its column, the latter two counted
from one. Only a line feed ends a line. -/
structure Position where
  offset : Nat
  line : Nat
  column : Nat
  deriving DecidableEq

/-- The place behind the first `offset` characters of a text. -/
def Position.ofOffset (text : List Char) (offset : Nat) : Position :=
  let before := text.take offset
  ⟨offset, before.count '\n' + 1, (before.reverse.takeWhile (· ≠ '\n')).length + 1⟩

inductive Fault where
  | byteOrderMark
  | expectedValue
  | expectedName
  | expectedColon
  | expectedComma
  | extraData
  | unterminatedString
  | controlCharacter
  | invalidEscape
  | invalidUnicodeEscape
  deriving DecidableEq

def Fault.description : Fault → String
  | byteOrderMark => "Unexpected UTF-8 BOM (decode using utf-8-sig)"
  | expectedValue => "Expecting value"
  | expectedName => "Expecting property name enclosed in double quotes"
  | expectedColon => "Expecting ':' delimiter"
  | expectedComma => "Expecting ',' delimiter"
  | extraData => "Extra data"
  | unterminatedString => "Unterminated string starting at"
  | controlCharacter => "Invalid control character at"
  | invalidEscape => "Invalid \\escape"
  | invalidUnicodeEscape => "Invalid \\uXXXX escape"

/-- The words for numbers that JSON does not have. -/
inductive Constant where
  | nan
  | infinity
  | negativeInfinity
  deriving DecidableEq

def Constant.word : Constant → String
  | nan => "NaN"
  | infinity => "Infinity"
  | negativeInfinity => "-Infinity"

/-- A reason to stop reading, with the number of characters left at the place of a fault. -/
inductive Stop where
  | fault (kind : Fault) (remaining : Nat)
  | constant (word : Constant)
  | outOfRange (numeral : String)
  | digits (refusal : Number.TooManyDigits)
  | tooManyOpen
  deriving DecidableEq

/-- The levels of nesting from which on a document is refused. -/
def nestingLimit : Nat := 128

/-- Why there is no document. -/
inductive Refusal where
  | malformed (fault : Fault) (position : Position)
  | nonStandardConstant (constant : Constant)
  | outOfRange (numeral : String)
  | tooManyDigits (refusal : Number.TooManyDigits)
  | tooDeep
  | tooManyOpen
  | notText (kind : String)
  deriving DecidableEq

def Stop.toRefusal (text : List Char) : Stop → Refusal
  | .fault kind remaining => .malformed kind (Position.ofOffset text (text.length - remaining))
  | .constant word => .nonStandardConstant word
  | .outOfRange numeral => .outOfRange numeral
  | .digits refusal => .tooManyDigits refusal
  | .tooManyOpen => .tooManyOpen

def Refusal.message : Refusal → String
  | .malformed fault position =>
    s!"{fault.description}: line {position.line} column {position.column} " ++
      s!"(char {position.offset})"
  | .nonStandardConstant constant => s!"Non-standard JSON constant: {constant.word}"
  | .outOfRange numeral => s!"Number out of range: {numeral}"
  | .tooManyDigits refusal => refusal.message
  | .tooDeep => s!"Document is nested {nestingLimit} or more levels deep"
  | .tooManyOpen => "Document is nested too deeply"
  | .notText kind => s!"Expected JSON text, got {kind}"

end Assay.Json
