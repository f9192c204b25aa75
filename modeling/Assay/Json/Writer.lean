import Assay.Json.Value
import Assay.Number.Layout
import Assay.Text.Quoted

/-! # Writing JSON text

The canonical text has no blanks between tokens. The indented text puts every child of a
container that is not empty on a line of its own. Both keep the order of members and every
character that need not be escaped.
-/

namespace Assay.Json

open Number (Double)

/-- One character of a string in JSON text. -/
def escapeChar (c : Char) : List Char :=
  if c = '"' then ['\\', '"']
  else if c = '\\' then ['\\', '\\']
  else if c = '\n' then ['\\', 'n']
  else if c = '\r' then ['\\', 'r']
  else if c = '\t' then ['\\', 't']
  else if c = '\x08' then ['\\', 'b']
  else if c = '\x0c' then ['\\', 'f']
  else if c.toNat < 0x20 then '\\' :: 'u' :: Text.hexDigits 4 c.toNat
  else [c]

def stringText (value : String) : List Char :=
  '"' :: value.toList.flatMap escapeChar ++ ['"']

/-- A binary64 number in JSON text, with words for the numbers that JSON does not have. -/
def doubleText (number : Double) : List Char :=
  number.textWith ['I', 'n', 'f', 'i', 'n', 'i', 't', 'y'] ['N', 'a', 'N']

/-- A value that has no children, and nothing for a container. -/
def scalarText : Value → List Char
  | .null => ['n', 'u', 'l', 'l']
  | .bool true => ['t', 'r', 'u', 'e']
  | .bool false => ['f', 'a', 'l', 's', 'e']
  | .int value => Number.intText value
  | .double value => doubleText value
  | .string value => stringText value
  | .array _ | .object _ => []

mutual

def canonicalText : Value → List Char
  | .array items => '[' :: canonicalItems items ++ [']']
  | .object members => '{' :: canonicalMembers members ++ ['}']
  | scalar => scalarText scalar

def canonicalItems : List Value → List Char
  | [] => []
  | [item] => canonicalText item
  | item :: next :: rest => canonicalText item ++ ',' :: canonicalItems (next :: rest)

def canonicalMembers : List (String × Value) → List Char
  | [] => []
  | [(name, value)] => stringText name ++ ':' :: canonicalText value
  | (name, value) :: next :: rest =>
    stringText name ++ ':' :: canonicalText value ++ ',' :: canonicalMembers (next :: rest)

end

/-- The line break before a child at some distance from the margin. -/
def lineStart (margin : Nat) : List Char := '\n' :: List.replicate margin ' '

mutual

/-- The indented text of a value that starts at some distance from the margin. -/
def indentedText (indent margin : Nat) : Value → List Char
  | .array [] => ['[', ']']
  | .array items =>
    '[' :: indentedItems indent (margin + indent) items ++ lineStart margin ++ [']']
  | .object [] => ['{', '}']
  | .object members =>
    '{' :: indentedMembers indent (margin + indent) members ++ lineStart margin ++ ['}']
  | scalar => scalarText scalar

def indentedItems (indent margin : Nat) : List Value → List Char
  | [] => []
  | [item] => lineStart margin ++ indentedText indent margin item
  | item :: next :: rest =>
    lineStart margin ++ indentedText indent margin item ++
      ',' :: indentedItems indent margin (next :: rest)

def indentedMembers (indent margin : Nat) : List (String × Value) → List Char
  | [] => []
  | [(name, value)] =>
    lineStart margin ++ stringText name ++ ':' :: ' ' :: indentedText indent margin value
  | (name, value) :: next :: rest =>
    lineStart margin ++ stringText name ++ ':' :: ' ' :: indentedText indent margin value ++
      ',' :: indentedMembers indent margin (next :: rest)

end

def canonical (value : Value) : String := String.ofList (canonicalText value)

/-- The text of a value with a given indentation for each level. -/
def indented (indent : Nat) (value : Value) : String :=
  String.ofList (indentedText indent 0 value)

/-- The text of a value with two blanks for each level. -/
def pretty (value : Value) : String := indented 2 value

end Assay.Json
