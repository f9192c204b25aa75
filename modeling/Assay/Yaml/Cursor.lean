import Assay.Yaml.Character
import Assay.Yaml.Fault

/-! # Positions in a text

A cursor holds what is still to be read, and where that stands: its index in the text, its line
and its column. Columns count characters other than the byte order mark.
-/

namespace Assay.Yaml

/-- A position in a text. -/
structure Cursor where
  rest : List Char
  index : Nat := 0
  line : Nat := 0
  column : Nat := 0

namespace Cursor

def peekAt (cursor : Cursor) (ahead : Nat) : Char := (cursor.rest.drop ahead).headD endMark

/-- The next character. -/
def peek (cursor : Cursor) : Char := cursor.rest.headD endMark

/-- The cursor behind the next character. A line ends behind a break; between the two characters
of a pair of breaks it does not. -/
def next (cursor : Cursor) : Cursor :=
  match cursor.rest with
  | [] => cursor
  | c :: rest =>
    if isBreak c && !(c = '\r' && rest.head? = some '\n') then
      ⟨rest, cursor.index + 1, cursor.line + 1, 0⟩
    else
      ⟨rest, cursor.index + 1, cursor.line,
        if c = byteOrderMark then cursor.column else cursor.column + 1⟩

theorem rest_next (cursor : Cursor) : cursor.next.rest = cursor.rest.tail := by
  unfold next
  split
  · simp [*]
  · split <;> simp [*]

def skip (cursor : Cursor) : Nat → Cursor
  | 0 => cursor
  | count + 1 => cursor.next.skip count

/-- The characters that satisfy a condition, and the cursor behind them. -/
def span (cursor : Cursor) (condition : Char → Bool) : List Char × Cursor :=
  match _hrest : cursor.rest with
  | [] => ([], cursor)
  | c :: _ =>
    if condition c then
      let (taken, behind) := cursor.next.span condition
      (c :: taken, behind)
    else ([], cursor)
termination_by cursor.rest.length
decreasing_by simp [rest_next, *]

/-- The cursor behind the characters that satisfy a condition. -/
def skipWhile (cursor : Cursor) (condition : Char → Bool) : Cursor := (cursor.span condition).2

def skipBlanks (cursor : Cursor) : Cursor := cursor.skipWhile (· = ' ')

def skipLine (cursor : Cursor) : Cursor := cursor.skipWhile fun c => !isLineEnd c

/-- The line break at the cursor, and the cursor behind it. All breaks but the two separators of
lines and of paragraphs read as a line feed. -/
def lineBreak? (cursor : Cursor) : Option (Char × Cursor) :=
  let c := cursor.peek
  if c = '\r' && cursor.peekAt 1 = '\n' then some ('\n', cursor.skip 2)
  else if c = '\r' || c = '\n' || c = '\x85' then some ('\n', cursor.next)
  else if isBreak c then some (c, cursor.next)
  else none

/-- Whether a given mark of three characters stands here, with a gap behind it. -/
def isAtMark (cursor : Cursor) (c : Char) : Bool :=
  cursor.peek = c && cursor.peekAt 1 = c && cursor.peekAt 2 = c && isGap (cursor.peekAt 3)

/-- Whether a document starts or ends here, at the start of a line. -/
def isAtSeparator (cursor : Cursor) : Bool := cursor.isAtMark '-' || cursor.isAtMark '.'

/-- The cursor at the end of a line on which only a comment may follow, and behind its break. -/
def endLine? (cursor : Cursor) : Option Cursor :=
  let cursor := cursor.skipBlanks
  let cursor := if cursor.peek = '#' then cursor.skipLine else cursor
  if isLineEnd cursor.peek then some ((cursor.lineBreak?.map Prod.snd).getD cursor) else none

/-- A bound on the rounds of a loop that reads at least one character in each round. -/
def rounds (cursor : Cursor) : Nat := cursor.rest.length + 1

end Cursor

/-- A line break inside a scalar that is folded, with the empty lines behind it: alone it becomes
a blank, and with empty lines it vanishes, unless it is a separator. -/
def folded (lineBreak : Char) (emptyLines : List Char) : List Char :=
  if lineBreak ≠ '\n' then lineBreak :: emptyLines
  else if emptyLines.isEmpty then [' ']
  else emptyLines

end Assay.Yaml
