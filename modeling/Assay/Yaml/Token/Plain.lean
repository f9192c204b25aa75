import Assay.Yaml.Cursor

/-! # Plain scalars

A plain scalar ends before a comment, before a colon with a gap behind it, and where a line is
indented too little. Between brackets the marks of collections end it as well.
-/

namespace Assay.Yaml

/-- Whether a plain scalar ends before a character, which another one follows. -/
def endsPlain (inFlow : Bool) (c following : Char) : Bool :=
  isGap c || (c = ':' && (isGap following || (inFlow && isFlowMark following))) ||
    (inFlow && (isFlowMark c || c = '?'))

/-- The part of a plain scalar at a cursor that holds no gap. -/
def plainWord (inFlow : Bool) : List Char → List Char
  | [] => []
  | c :: rest =>
    if endsPlain inFlow c (rest.headD endMark) then [] else c :: plainWord inFlow rest

/-- What is found in the gap behind a word of a plain scalar. -/
structure PlainGap where
  /-- What the gap becomes if the scalar goes on. -/
  text : List Char
  /-- Whether the gap holds a line break. -/
  broken : Bool
  /-- Whether the scalar cannot go on, because the document ends. -/
  final : Bool

/-- The empty lines and the blanks behind a line break, or nothing where the document ends. -/
def plainLines (cursor : Cursor) : Nat → Option (List Char) × Cursor
  | 0 => (none, cursor)
  | rounds + 1 =>
    if cursor.peek = ' ' then plainLines cursor.next rounds
    else match cursor.lineBreak? with
      | none => (some [], cursor)
      | some (c, behind) =>
        if behind.isAtSeparator then (none, behind)
        else
          let (others, behind) := plainLines behind rounds
          (others.map (c :: ·), behind)

def plainGap (cursor : Cursor) : PlainGap × Cursor :=
  let (blanks, behind) := cursor.span (· = ' ')
  match behind.lineBreak? with
  | none => (⟨blanks, false, blanks.isEmpty⟩, behind)
  | some (c, behind) =>
    if behind.isAtSeparator then (⟨[], true, true⟩, behind)
    else match plainLines behind behind.rounds with
      | (none, behind) => (⟨[], true, true⟩, behind)
      | (some others, behind) => (⟨folded c others, true, false⟩, behind)

structure PlainText where
  chars : List Char
  /-- Whether a line break follows or stands inside behind the last word. -/
  broken : Bool

/-- A plain scalar whose further lines are indented by at least some columns. The gap is what
stands before the cursor since the last word. -/
def readPlain (inFlow : Bool) (indent : Nat) (gap : PlainGap) (cursor : Cursor) :
    Nat → PlainText × Cursor
  | 0 => (⟨[], gap.broken⟩, cursor)
  | rounds + 1 =>
    match if cursor.peek = '#' then [] else plainWord inFlow cursor.rest with
    | [] => (⟨[], gap.broken⟩, cursor)
    | word =>
      let (following, behind) := plainGap (cursor.skip word.length)
      if following.final || behind.peek = '#' || (!inFlow && behind.column < indent) then
        (⟨gap.text ++ word, following.broken⟩, behind)
      else
        let (others, behind) := readPlain inFlow indent following behind rounds
        (⟨gap.text ++ word ++ others.chars, others.broken⟩, behind)

/-- The plain scalar at a cursor, and whether a line break stands behind its last word. -/
def plainScalar (inFlow : Bool) (indent : Nat) (cursor : Cursor) : (String × Bool) × Cursor :=
  let (text, behind) := readPlain inFlow indent ⟨[], false, false⟩ cursor cursor.rounds
  ((String.ofList text.chars, text.broken), behind)

end Assay.Yaml
