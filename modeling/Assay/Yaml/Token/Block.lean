import Assay.Yaml.Cursor

/-! # Block scalars

A block scalar is the lines below its header that are indented far enough. Kept as they are, or
folded: then a single break between two lines that do not start with white space is a blank. The
header may say how far the lines are indented and what becomes of the breaks at the end.
-/

namespace Assay.Yaml

/-- What becomes of the line breaks at the end of a block scalar. -/
inductive Chomping where
  | strip
  | clip
  | keep
  deriving DecidableEq

structure BlockHeader where
  chomping : Chomping := .clip
  increment : Option Nat := none

def chomping? : Char → Option Chomping
  | '+' => some .keep
  | '-' => some .strip
  | _ => none

/-- The increment that a character stands for. A zero is no increment. -/
def increment? (c : Char) : Option (Except Fault Nat) :=
  if c = '0' then some (.error .malformed)
  else if c.isDigit then some (.ok (Number.digitValue c))
  else none

def readIndicators (cursor : Cursor) : Except Fault (BlockHeader × Cursor) := do
  match chomping? cursor.peek with
  | some chomping =>
    match increment? (cursor.peekAt 1) with
    | none => return (⟨chomping, none⟩, cursor.next)
    | some increment => return (⟨chomping, some (← increment)⟩, cursor.skip 2)
  | none =>
    match increment? cursor.peek with
    | none => return ({}, cursor)
    | some increment =>
      match chomping? (cursor.peekAt 1) with
      | none => return (⟨.clip, some (← increment)⟩, cursor.next)
      | some chomping => return (⟨chomping, some (← increment)⟩, cursor.skip 2)

def readHeader (cursor : Cursor) : Except Fault (BlockHeader × Cursor) := do
  let (header, behind) ← readIndicators cursor
  if !isBlankOrEnd behind.peek then .error .malformed
  else match behind.endLine? with
    | none => .error .malformed
    | some behind => return (header, behind)

/-- The empty lines before the first line with text, and the greatest column that blanks reach
there. -/
def leadingLines (widest : Nat) (cursor : Cursor) : Nat → (List Char × Nat) × Cursor
  | 0 => (([], widest), cursor)
  | rounds + 1 =>
    if cursor.peek = ' ' then leadingLines (max widest cursor.next.column) cursor.next rounds
    else match cursor.lineBreak? with
      | none => (([], widest), cursor)
      | some (c, behind) =>
        let ((others, widest), behind) := leadingLines widest behind rounds
        ((c :: others, widest), behind)

/-- The cursor behind the blanks before some column. -/
def skipIndent (indent : Nat) (cursor : Cursor) : Nat → Cursor
  | 0 => cursor
  | rounds + 1 =>
    if cursor.column < indent && cursor.peek = ' ' then skipIndent indent cursor.next rounds
    else cursor

/-- The empty lines at a cursor, and the indentation of the next line. -/
def blockBreaks (indent : Nat) (cursor : Cursor) : Nat → List Char × Cursor
  | 0 => ([], cursor)
  | rounds + 1 =>
    let cursor := skipIndent indent cursor indent
    match cursor.lineBreak? with
    | none => ([], cursor)
    | some (c, behind) =>
      let (others, behind) := blockBreaks indent behind rounds
      (c :: others, behind)

/-- The break between two lines of a block scalar, where empty lines may stand between them. -/
def blockJoin (isFolded plainBefore plainBehind : Bool) (lineBreak : List Char)
    (emptyLines : List Char) : List Char :=
  if isFolded && lineBreak = ['\n'] && plainBefore && plainBehind then
    if emptyLines.isEmpty then [' '] else []
  else lineBreak

def blockEnd (chomping : Chomping) (lineBreak emptyLines : List Char) : List Char :=
  match chomping with
  | .strip => []
  | .clip => lineBreak
  | .keep => lineBreak ++ emptyLines

def blockLines (isFolded : Bool) (chomping : Chomping) (indent : Nat) (emptyLines : List Char)
    (cursor : Cursor) : Nat → List Char × Cursor
  | 0 => ([], cursor)
  | rounds + 1 =>
    let (line, behind) := cursor.span fun c => !isLineEnd c
    let (lineBreak, behind) := match behind.lineBreak? with
      | some (c, behind) => ([c], behind)
      | none => ([], behind)
    let (following, behind) := blockBreaks indent behind behind.rounds
    if behind.column = indent && !behind.rest.isEmpty then
      let join :=
        blockJoin isFolded (!isWhite cursor.peek) (!isWhite behind.peek) lineBreak following
      let (others, behind) := blockLines isFolded chomping indent following behind rounds
      (emptyLines ++ line ++ join ++ others, behind)
    else
      (emptyLines ++ line ++ blockEnd chomping lineBreak following, behind)

/-- The block scalar at a cursor, in a collection that starts in a given column, if it is in
one. -/
def blockScalar (parent : Int) (cursor : Cursor) : Except Fault (String × Cursor) := do
  let isFolded := cursor.peek = '>'
  let (header, cursor) ← readHeader cursor.next
  let least := max (parent + 1).toNat 1
  let (indent, emptyLines, cursor) := match header.increment with
    | none =>
      let ((lines, widest), behind) := leadingLines 0 cursor cursor.rounds
      (max least widest, lines, behind)
    | some increment =>
      let indent := least + increment - 1
      let (lines, behind) := blockBreaks indent cursor cursor.rounds
      (indent, lines, behind)
  if cursor.column = indent && !cursor.rest.isEmpty then
    let (chars, behind) :=
      blockLines isFolded header.chomping indent emptyLines cursor cursor.rounds
    return (String.ofList chars, behind)
  else
    return (String.ofList (blockEnd header.chomping [] emptyLines), cursor)

end Assay.Yaml
