import Assay.Json.Token
import Assay.Yaml.Cursor

/-! # Quoted scalars

Between apostrophes only the apostrophe is special, and is written twice. Between quotation
marks the backslash starts an escape. In both, a line break with the white space around it is
folded.
-/

namespace Assay.Yaml

/-- The character that an escape of one character stands for. -/
def simpleEscape? : Char → Option Char
  | '0' => some '\x00'
  | 'a' => some '\x07'
  | 'b' => some '\x08'
  | 't' | '\t' => some '\t'
  | 'n' => some '\n'
  | 'v' => some '\x0b'
  | 'f' => some '\x0c'
  | 'r' => some '\r'
  | 'e' => some '\x1b'
  | ' ' => some ' '
  | '"' => some '"'
  | '\\' => some '\\'
  | '/' => some '/'
  | 'N' => some '\x85'
  | '_' => some '\xa0'
  | 'L' => some '\u2028'
  | 'P' => some '\u2029'
  | _ => none

/-- The number of digits of an escape that names a character by its number. -/
def escapeWidth? : Char → Option Nat
  | 'x' => some 2
  | 'u' => some 4
  | 'U' => some 8
  | _ => none

def characterOf (code : Nat) : Except Fault Char :=
  if Nat.pow 2 31 ≤ code then .error .hugeCharacter
  else if 0x110000 ≤ code then .error .noCharacter
  else .ok (Text.charOfCode code)

/-- The character that an escape with a given number of digits names. -/
def numberedEscape (cursor : Cursor) (width : Nat) : Except Fault (Char × Cursor) := do
  let digits := cursor.rest.take width
  match if digits.length = width then Number.readHex? digits else none with
  | none => .error .malformed
  | some code => return (← characterOf code, cursor.skip width)

/-- The empty lines behind a line break, and the white space before the next text. -/
def emptyLines (cursor : Cursor) : Nat → Except Fault (List Char × Cursor)
  | 0 => .error .malformed
  | rounds + 1 =>
    if cursor.isAtSeparator then .error .malformed
    else
      let cursor := cursor.skipWhile isWhite
      match cursor.lineBreak? with
      | none => .ok ([], cursor)
      | some (c, behind) => do
        let (others, behind) ← emptyLines behind rounds
        return (c :: others, behind)

/-- What stands for the escape at a cursor behind its backslash. An escaped line break vanishes
together with the white space behind it. -/
def readEscape (cursor : Cursor) : Except Fault (List Char × Cursor) :=
  let c := cursor.peek
  match simpleEscape? c, escapeWidth? c, cursor.lineBreak? with
  | some value, _, _ => .ok ([value], cursor.next)
  | _, some width, _ => (numberedEscape cursor.next width).map fun (value, behind) =>
      ([value], behind)
  | _, _, some (_, behind) => emptyLines behind behind.rounds
  | _, _, none => .error .malformed

/-- The white space at a cursor, folded if it holds a line break. -/
def readWhite (cursor : Cursor) : Except Fault (List Char × Cursor) :=
  let (white, behind) := cursor.span isWhite
  match behind.lineBreak? with
  | none => .ok (white, behind)
  | some (c, behind) => do
    let (others, behind) ← emptyLines behind behind.rounds
    return (folded c others, behind)

/-- A quoted scalar from behind its opening mark. -/
def readQuoted (quote : Char) (cursor : Cursor) : Nat → Except Fault (List Char × Cursor)
  | 0 => .error .malformed
  | rounds + 1 =>
    let c := cursor.peek
    let goOn (read : Except Fault (List Char × Cursor)) : Except Fault (List Char × Cursor) := do
      let (chars, behind) ← read
      let (others, behind) ← readQuoted quote behind rounds
      return (chars ++ others, behind)
    if cursor.rest.isEmpty then .error .malformed
    else if c = quote then
      if quote = '\x27' && cursor.peekAt 1 = quote then goOn (.ok ([quote], cursor.skip 2))
      else .ok ([], cursor.next)
    else if c = '\\' && quote = '"' then goOn (readEscape cursor.next)
    else if isWhite c || isBreak c then goOn (readWhite cursor)
    else goOn (.ok ([c], cursor.next))

def quotedScalar (cursor : Cursor) : Except Fault (String × Cursor) :=
  (readQuoted cursor.peek cursor.next cursor.rounds).map fun (chars, behind) =>
    (String.ofList chars, behind)

end Assay.Yaml
