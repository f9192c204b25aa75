import Assay.Console.Emoji
import Assay.Console.Style

/-! # Markup

A text for the console may hold tags in brackets, which set a style and are not shown, and names
of emoji. A backslash before a tag makes it text. Closing tags must answer to tags that are open.
-/

namespace Assay.Console

/-- Whether a character may follow the bracket of a tag. -/
def beginsTag (c : Char) : Bool := c.isLower || c = '#' || c = '/' || c = '@'

/-- The text up to the next closing bracket, if no bracket opens before it, and the text behind
it. -/
def closing? : List Char → Option (List Char × List Char)
  | [] => none
  | c :: rest =>
    if c = ']' then some ([], rest)
    else if c = '[' then none
    else (closing? rest).map fun (inside, behind) => (c :: inside, behind)

theorem length_of_closing? {text inside behind : List Char}
    (hclosing : closing? text = some (inside, behind)) :
    behind.length < text.length := by
  induction text generalizing inside with
  | nil => simp [closing?] at hclosing
  | cons c rest ih =>
    simp only [closing?] at hclosing
    split at hclosing
    · simp only [Option.some.injEq, Prod.mk.injEq] at hclosing
      simp [← hclosing.2]
    · split at hclosing
      · simp at hclosing
      · obtain ⟨⟨before, after⟩, hrest, heq⟩ := Option.map_eq_some_iff.1 hclosing
        simp only [Prod.mk.injEq] at heq
        have hlength := ih (heq.2 ▸ hrest)
        simp only [List.length_cons]
        omega

/-- The inside of the tag with which a text begins, and the text behind the tag. -/
def tag? : List Char → Option (List Char × List Char)
  | '[' :: first :: rest =>
    if beginsTag first then
      (closing? rest).map fun (inside, behind) => (first :: inside, behind)
    else none
  | _ => none

theorem length_of_tag? {text inside behind : List Char} (htag : tag? text = some (inside, behind)) :
    behind.length < text.length := by
  unfold tag? at htag
  split at htag
  · split at htag
    · obtain ⟨⟨before, after⟩, hrest, heq⟩ := Option.map_eq_some_iff.1 htag
      simp only [Prod.mk.injEq] at heq
      have hlength := length_of_closing? (heq.2 ▸ hrest)
      simp only [List.length_cons]
      omega
    · simp at htag
  · simp at htag

/-! ## Writing -/

def backslashes (count : Nat) : List Char := List.replicate count '\\'

/-- A text with each tag turned into text: the backslashes before it are doubled and one is added.
`count` backslashes stand before the text. -/
def escapedAfter (count : Nat) (text : List Char) : List Char :=
  match _htag : tag? text with
  | some (inside, behind) =>
    backslashes (count + count + 1) ++ ('[' :: inside ++ [']']) ++ escapedAfter 0 behind
  | none => match text with
    | [] => backslashes count
    | c :: rest =>
      if c = '\\' then escapedAfter (count + 1) rest
      else backslashes count ++ c :: escapedAfter 0 rest
termination_by text.length
decreasing_by
  · exact length_of_tag? ‹_›
  · simp
  · simp

def endsWithSingleBackslash (text : List Char) : Bool :=
  match text.reverse with
  | '\\' :: '\\' :: _ => false
  | '\\' :: _ => true
  | _ => false

/-- A text as markup that shows it. A backslash at the very end is doubled. -/
def escape (text : String) : String :=
  let escaped := escapedAfter 0 text.toList
  String.ofList (if endsWithSingleBackslash escaped then escaped ++ ['\\'] else escaped)

/-! ## Reading -/

/-- A part of a marked text. -/
inductive Piece where
  | text (chunk : List Char)
  | tag (inside : List Char)
  deriving DecidableEq

/-- The parts of a marked text. `chunk` is what has been read of the current part in reverse order,
and `count` backslashes follow it. Of the backslashes before a tag every second one is shown; an odd
one makes the tag text. -/
def piecesAfter (chunk : List Char) (count : Nat) (text : List Char) : List Piece :=
  match _htag : tag? text with
  | some (inside, behind) =>
    .text chunk.reverse :: .text (backslashes (count / 2)) ::
      (if count % 2 = 1 then .text ('[' :: inside ++ [']']) else .tag inside) ::
      piecesAfter [] 0 behind
  | none => match text with
    | [] => [.text (chunk.reverse ++ backslashes count)]
    | c :: rest =>
      if c = '\\' then piecesAfter chunk (count + 1) rest
      else piecesAfter (c :: (backslashes count ++ chunk)) 0 rest
termination_by text.length
decreasing_by
  · exact length_of_tag? ‹_›
  · simp
  · simp

def pieces (text : String) : List Piece := piecesAfter [] 0 text.toList

/-- A text without the backslashes before opening brackets. -/
def unescaped : List Char → List Char
  | '\\' :: '[' :: rest => '[' :: unescaped rest
  | c :: rest => c :: unescaped rest
  | [] => []

/-- Whether a character rings, or moves the cursor other than to a new line. -/
def movesCursor (c : Char) : Bool :=
  c = '\x07' || c = '\x08' || c = '\x0B' || c = '\x0C' || c = '\r'

def shownChunk (chunk : List Char) : List Char :=
  (withEmoji (unescaped chunk)).filter fun c => !movesCursor c

/-- The name of a tag is what stands before the first equals sign. -/
def tagName (inside : List Char) : List Char := inside.takeWhile (· ≠ '=')

/-- The tags that remain open after one is closed, the latest first. Without a name the latest one
is closed. -/
def closeTag (name : List Char) (openTags : List (List Char)) : Option (List (List Char)) :=
  if (Text.trim name).isEmpty then
    match openTags with
    | [] => none
    | _ :: others => some others
  else
    let name := normalName name
    if openTags.contains name then some (openTags.erase name) else none

/-- What is shown of the parts of a marked text while some tags are open. -/
def shownPieces (openTags : List (List Char)) : List Piece → Option (List Char)
  | [] => some []
  | .text chunk :: rest => (shownPieces openTags rest).map (shownChunk chunk ++ ·)
  | .tag inside :: rest =>
    match tagName inside with
    | '/' :: name => (closeTag name openTags).bind fun openTags => shownPieces openTags rest
    | name => shownPieces (normalName name :: openTags) rest

/-- What is shown of a marked text, unless it closes a tag that is not open. -/
def shown? (markup : String) : Option (List Char) := shownPieces [] (pieces markup)

end Assay.Console
