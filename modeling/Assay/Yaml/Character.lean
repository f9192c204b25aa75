/-! # Characters of YAML

Line breaks, gaps between tokens, and the characters that names and tags are made of. The end of
a text reads as NUL, a character that no text holds.
-/

namespace Assay.Yaml

/-- What is read at the end of a text. -/
def endMark : Char := '\x00'

/-- Whether a character may stand in a text at all. -/
def isAdmitted (c : Char) : Bool :=
  let code := c.toNat
  code = 0x09 || code = 0x0A || code = 0x0D || code = 0x85 ||
    (0x20 ≤ code && code ≤ 0x7E) || (0xA0 ≤ code && code ≤ 0xD7FF) ||
    (0xE000 ≤ code && code ≤ 0xFFFD) || (0x10000 ≤ code && code ≤ 0x10FFFF)

/-- The mark of a text that some writers put before its first character. -/
def byteOrderMark : Char := '\ufeff'

/-- Whether a character ends a line. -/
def isBreak (c : Char) : Bool :=
  c = '\n' || c = '\r' || c = '\x85' || c = '\u2028' || c = '\u2029'

def isLineEnd (c : Char) : Bool := isBreak c || c = endMark

def isBlankOrEnd (c : Char) : Bool := c = ' ' || isLineEnd c

def isGap (c : Char) : Bool := c = '\t' || isBlankOrEnd c

def isWhite (c : Char) : Bool := c = ' ' || c = '\t'

def isNameChar (c : Char) : Bool := c.isAlphanum || c = '-' || c = '_'

def isTagChar (c : Char) : Bool :=
  isNameChar c || ";/?:@&=+$,.!~*'()[]%".toList.contains c

/-- Whether a character opens or closes a collection in brackets or separates its items. -/
def isFlowMark (c : Char) : Bool :=
  c = ',' || c = '[' || c = ']' || c = '\x7b' || c = '\x7d'

/-- Whether a character has a meaning of its own at the start of a token. -/
def isIndicator (c : Char) : Bool :=
  isFlowMark c || "-?:#&*!|>'\"%@\x60".toList.contains c

end Assay.Yaml
