import Assay.Text.Printable
import Assay.Text.Encoding

/-! # Quoted text

A text as it is shown in a diagnostic: between apostrophes, or between quotation marks when it
holds an apostrophe and no quotation mark. The delimiter and the backslash are escaped, tab and
line breaks have short escapes, and a character that is not printable is shown by its number.
-/

namespace Assay.Text

/-- The lower-case hexadecimal digits of a number, padded with zeros to a width. -/
def hexDigits (width number : Nat) : List Char :=
  let digits := Nat.toDigits 16 number
  List.replicate (width - digits.length) '0' ++ digits

/-- A character by its number, in the shortest of the three widths. -/
def escapeByNumber (c : Char) : List Char :=
  let code := codeOfChar c
  if code < 0x100 then '\\' :: 'x' :: hexDigits 2 code
  else if code < 0x10000 then '\\' :: 'u' :: hexDigits 4 code
  else '\\' :: 'U' :: hexDigits 8 code

/-- One character inside a quoted text with the given delimiter. -/
def quoteChar (delimiter c : Char) : List Char :=
  if c = delimiter || c = '\\' then ['\\', c]
  else if c = '\n' then ['\\', 'n']
  else if c = '\r' then ['\\', 'r']
  else if c = '\t' then ['\\', 't']
  else if isPrintable c then [c]
  else escapeByNumber c

def quoteMark (text : List Char) : Char :=
  if text.contains '\x27' && !text.contains '"' then '"' else '\x27'

def quoted (text : List Char) : List Char :=
  let mark := quoteMark text
  mark :: text.flatMap (quoteChar mark) ++ [mark]

end Assay.Text
