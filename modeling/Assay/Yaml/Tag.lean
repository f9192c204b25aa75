import Assay.Yaml.Character

/-! # Tags

The tag of a node says what kind of datum it is. A plain scalar without a tag gets one from the
form of its text, and every other node without a tag from its own kind.
-/

namespace Assay.Yaml

/-- A tag that has a meaning, or any other one. -/
inductive Tag where
  | null
  | bool
  | int
  | float
  | binary
  | timestamp
  | omap
  | pairs
  | set
  | str
  | seq
  | map
  | merge
  | value
  | other
  deriving DecidableEq

def standardStart : String := "tag:yaml.org,2002:"

/-- The tags that have a meaning, by the rest of their texts. -/
def standardTags : List (String × Tag) :=
  [("null", .null), ("bool", .bool), ("int", .int), ("float", .float), ("binary", .binary),
    ("timestamp", .timestamp), ("omap", .omap), ("pairs", .pairs), ("set", .set), ("str", .str),
    ("seq", .seq), ("map", .map), ("merge", .merge), ("value", .value)]

def Tag.ofText (text : String) : Tag :=
  ((standardTags.find? fun entry => standardStart ++ entry.1 = text).map Prod.snd).getD .other

/-! ## The forms of plain scalars -/

/-- Whether a text is not empty and all its characters satisfy a condition. -/
def isRun (condition : Char → Bool) (text : List Char) : Bool :=
  !text.isEmpty && text.all condition

def withoutSign : List Char → List Char
  | '-' :: rest | '+' :: rest => rest
  | text => text

def isSpacedDigit (c : Char) : Bool := c.isDigit || c = '_'

def isSpacedDigitBelow (bound : Char) (c : Char) : Bool := ('0' ≤ c && c < bound) || c = '_'

/-- Whether a character is a hexadecimal digit or a separator. -/
def isSpacedHexDigit (c : Char) : Bool :=
  isSpacedDigit c || ('a' ≤ c && c ≤ 'f') || ('A' ≤ c && c ≤ 'F')

/-- Whether a text is a number in base 60 behind its first part: groups of a colon and one or two
digits, of which the first is less than six. At the end of the groups stands what satisfies a
condition. -/
def isSexagesimal (ends : List Char → Bool) : List Char → Bool
  | ':' :: tens :: ones :: rest =>
    if ones.isDigit then
      '0' ≤ tens && tens ≤ '5' && (ends rest || isSexagesimal ends rest)
    else
      tens.isDigit && (ends (ones :: rest) || isSexagesimal ends (ones :: rest))
  | [':', digit] => digit.isDigit && ends []
  | _ => false

def isIntForm (text : List Char) : Bool :=
  match withoutSign text with
  | ['0'] => true
  | '0' :: 'b' :: digits => isRun (isSpacedDigitBelow '2') digits
  | '0' :: 'x' :: digits => isRun isSpacedHexDigit digits
  | '0' :: digits => isRun (isSpacedDigitBelow '8') digits
  | first :: rest =>
    first.isDigit &&
      (rest.all isSpacedDigit || isSexagesimal List.isEmpty (rest.dropWhile isSpacedDigit))
  | [] => false

/-- Whether a text is an exponent, which has a sign, or nothing. -/
def isExponentForm : List Char → Bool
  | [] => true
  | mark :: sign :: digits =>
    (mark = 'e' || mark = 'E') && (sign = '+' || sign = '-') && isRun Char.isDigit digits
  | _ => false

/-- Whether a text is the end of a number in base 60 with a point. -/
def isPointForm : List Char → Bool
  | '.' :: digits => digits.all isSpacedDigit
  | _ => false

/-- Whether a text is one of the spellings of a word, which is given in lower case: in lower
case, with a capital at the start, or in capitals. -/
def isSpelling (word text : List Char) : Bool :=
  text = word || text = word.map Char.toUpper ||
    text = (word.take 1).map Char.toUpper ++ word.drop 1

/-- Whether a text has the form of a number with a point. -/
def isFloatForm (text : List Char) : Bool :=
  let unsigned := withoutSign text
  match unsigned with
  | '.' :: word =>
    isSpelling ['i', 'n', 'f'] word ||
      (text = unsigned &&
        ([['n', 'a', 'n'], ['N', 'a', 'N'], ['N', 'A', 'N']].contains word ||
          match word with
          | digit :: rest => digit.isDigit && isExponentForm (rest.dropWhile isSpacedDigit)
          | [] => false))
  | digit :: rest =>
    digit.isDigit &&
      match rest.dropWhile isSpacedDigit with
      | '.' :: fraction => isExponentForm (fraction.dropWhile isSpacedDigit)
      | others => isSexagesimal isPointForm others
  | [] => false

def isBoolForm (text : List Char) : Bool :=
  ["yes", "no", "true", "false", "on", "off"].any fun word => isSpelling word.toList text

def isNullForm (text : List Char) : Bool :=
  text.isEmpty || text = ['~'] || isSpelling ['n', 'u', 'l', 'l'] text

end Assay.Yaml
