import Assay.Yaml.Token.Block
import Assay.Yaml.Token.Plain
import Assay.Yaml.Token.Property
import Assay.Yaml.Token.Quoted

/-! # From text to tokens

Outside brackets, the columns at which collections start are kept in a stack, and a collection
ends where a line starts in a smaller column. Whether something is the key of a mapping is known
only when a colon follows, so the place where a key may have started is kept until then, and the
mark of the key is put there afterwards. Such a key stands on one line and is not longer than
1024 characters.
-/

namespace Assay.Yaml

/-- A place where a key may have started. -/
structure PossibleKey where
  /-- The number of tokens before it. -/
  place : Nat
  /-- Whether nothing but a key can stand there. -/
  required : Bool
  index : Nat
  line : Nat
  column : Nat

/-- The state in which a text is scanned. -/
structure Scanner where
  cursor : Cursor
  /-- The tokens so far, the latest first. -/
  tokens : List Token := []
  /-- The columns at which the open collections start, the innermost first. -/
  columns : List Nat := []
  /-- Whether a key may start here. -/
  keyAllowed : Bool := true
  /-- The possible key outside all brackets and inside each of those that are open, the innermost
  first. There is one more than brackets. -/
  keys : List (Option PossibleKey) := [none]

/-- The greatest number of characters between the start of a key and its colon. -/
def longestKey : Nat := 1024

namespace Scanner

/-- Whether the cursor stands inside brackets. -/
def inFlow (scanner : Scanner) : Bool := 1 < scanner.keys.length

/-- The column at which the innermost collection starts, one less than zero if there is none. -/
def column (scanner : Scanner) : Int := (scanner.columns.head?.map Int.ofNat).getD (-1)

def emit (scanner : Scanner) (token : Token) : Scanner :=
  { scanner with tokens := token :: scanner.tokens }

def count (scanner : Scanner) : Nat := scanner.tokens.length

/-- Puts a token behind the first tokens of a given number. -/
def insert (scanner : Scanner) (place : Nat) (token : Token) : Scanner :=
  let later := scanner.count - place
  { scanner with tokens := scanner.tokens.take later ++ token :: scanner.tokens.drop later }

def mark (scanner : Scanner) (token : Token) (width : Nat := 1) : Scanner :=
  { scanner.emit token with cursor := scanner.cursor.skip width }

/-- Whether a possible key cannot become one any more. -/
def isStale (cursor : Cursor) (key : PossibleKey) : Bool :=
  key.line ≠ cursor.line || longestKey < cursor.index - key.index

/-- Forgets the keys for which it is too late. -/
def dropStale (scanner : Scanner) : Except Fault Scanner :=
  let isLate (key : Option PossibleKey) := key.any (isStale scanner.cursor)
  if scanner.keys.any fun key => isLate key && key.any PossibleKey.required then
    .error .malformed
  else
    .ok { scanner with keys := scanner.keys.map fun key => if isLate key then none else key }

/-- Forgets the innermost possible key. -/
def dropKey (scanner : Scanner) : Except Fault Scanner :=
  match scanner.keys with
  | some key :: outer =>
    if key.required then .error .malformed else .ok { scanner with keys := none :: outer }
  | _ => .ok scanner

/-- Keeps the cursor as the place where a key may have started. -/
def saveKey (scanner : Scanner) : Except Fault Scanner :=
  if scanner.keyAllowed then do
    let scanner ← scanner.dropKey
    let cursor := scanner.cursor
    let key : PossibleKey :=
      { place := scanner.count
        required := !scanner.inFlow && scanner.column = cursor.column
        index := cursor.index
        line := cursor.line
        column := cursor.column }
    return { scanner with keys := some key :: scanner.keys.tail }
  else .ok scanner

/-- Ends the collections that start behind a column. -/
def unwind (scanner : Scanner) (column : Int) : Scanner :=
  if scanner.inFlow then scanner
  else
    let closed := scanner.columns.takeWhile fun start : Nat => column < start
    { scanner with
      columns := scanner.columns.drop closed.length
      tokens := closed.map (fun _ => Token.blockEnd) ++ scanner.tokens }

/-- Starts a collection in a column, unless one has started there or behind it. The mark of its
start is put at a place among the tokens. -/
def indentTo (scanner : Scanner) (column place : Nat) (start : Token) : Scanner :=
  if scanner.column < column then
    { scanner.insert place start with columns := column :: scanner.columns }
  else scanner

/-- Allows a key to start behind the cursor, or forbids it. -/
def allowKey (scanner : Scanner) (allowed : Bool) : Scanner :=
  { scanner with keyAllowed := allowed }

/-- The scanner before the next token, behind blanks, comments and line breaks. -/
def skipToToken (scanner : Scanner) : Nat → Scanner
  | 0 => scanner
  | rounds + 1 =>
    let cursor := scanner.cursor.skipBlanks
    let cursor := if cursor.peek = '#' then cursor.skipLine else cursor
    match cursor.lineBreak? with
    | none => { scanner with cursor }
    | some (_, behind) =>
      let keyAllowed := scanner.keyAllowed || !scanner.inFlow
      skipToToken { scanner with cursor := behind, keyAllowed } rounds

/-- A scanner behind something that reads on from the cursor and gives a token. -/
def reading (scanner : Scanner) (result : Except Fault (Token × Cursor)) : Except Fault Scanner :=
  result.map fun (token, behind) => { scanner.emit token with cursor := behind }

/-- A mark outside the structure of nodes ends all collections. -/
def outside (scanner : Scanner) : Except Fault Scanner :=
  ((scanner.unwind (-1)).allowKey false).dropKey

/-- The start of a collection in brackets. -/
def openFlow (scanner : Scanner) (token : Token) : Except Fault Scanner := do
  let scanner ← scanner.saveKey
  return ({ scanner with keys := none :: scanner.keys }.allowKey true).mark token

/-- The end of a collection in brackets. -/
def closeFlow (scanner : Scanner) (token : Token) : Except Fault Scanner := do
  let scanner ← scanner.dropKey
  if scanner.inFlow then
    return ({ scanner with keys := scanner.keys.tail }.allowKey false).mark token
  else .error .malformed

/-- The start of an entry of a sequence without brackets. -/
def blockEntry (scanner : Scanner) : Except Fault Scanner := do
  if !scanner.inFlow && !scanner.keyAllowed then .error .malformed
  else
    let scanner :=
      if scanner.inFlow then scanner
      else scanner.indentTo scanner.cursor.column scanner.count .blockSequenceStart
    let scanner ← (scanner.allowKey true).dropKey
    return scanner.mark .blockEntry

def explicitKey (scanner : Scanner) : Except Fault Scanner := do
  if !scanner.inFlow && !scanner.keyAllowed then .error .malformed
  else
    let scanner :=
      if scanner.inFlow then scanner
      else scanner.indentTo scanner.cursor.column scanner.count .blockMappingStart
    let scanner ← (scanner.allowKey (!scanner.inFlow)).dropKey
    return scanner.mark .key

/-- The mark of a value. If a key has started before it, the mark of that key is put there. -/
def valueMark (scanner : Scanner) : Except Fault Scanner := do
  match scanner.keys with
  | some key :: outer =>
    let scanner := { scanner.insert key.place .key with keys := none :: outer }
    let scanner :=
      if scanner.inFlow then scanner
      else scanner.indentTo key.column key.place .blockMappingStart
    return (scanner.allowKey false).mark .value
  | _ =>
    if !scanner.inFlow && !scanner.keyAllowed then .error .malformed
    else
      let scanner :=
        if scanner.inFlow then scanner
        else scanner.indentTo scanner.cursor.column scanner.count .blockMappingStart
      let scanner ← (scanner.allowKey (!scanner.inFlow)).dropKey
      return scanner.mark .value

/-- A part of a node before which a key may start, but not behind it. -/
def nodePart (scanner : Scanner) (read : Cursor → Except Fault (Token × Cursor)) :
    Except Fault Scanner := do
  let scanner ← scanner.saveKey
  (scanner.allowKey false).reading (read scanner.cursor)

/-- A plain scalar. A key may start behind it if a line break follows. -/
def plain (scanner : Scanner) : Except Fault Scanner := do
  let scanner ← scanner.saveKey
  let indent := (scanner.column + 1).toNat
  let ((text, broken), behind) := plainScalar scanner.inFlow indent scanner.cursor
  return { (scanner.allowKey broken).emit (.scalar text true) with cursor := behind }

/-- A scalar in the lines below its header. -/
def block (scanner : Scanner) : Except Fault Scanner := do
  let scanner ← (scanner.allowKey true).dropKey
  scanner.reading <|
    (blockScalar scanner.column scanner.cursor).map fun (text, behind) =>
      (.scalar text false, behind)

def startsPlain (inFlow : Bool) (cursor : Cursor) : Bool :=
  let c := cursor.peek
  !(isGap c || isIndicator c) ||
    (!isGap (cursor.peekAt 1) && (c = '-' || (!inFlow && (c = '?' || c = ':'))))

/-- Scans the token at the cursor, which is not the end of the text. -/
def token (scanner : Scanner) : Except Fault Scanner :=
  let cursor := scanner.cursor
  let c := cursor.peek
  let gapBehind := isGap (cursor.peekAt 1)
  if c = '%' && cursor.column = 0 then do
    let scanner ← scanner.outside
    scanner.reading ((readDirective cursor).map fun (read, behind) => (.directive read, behind))
  else if cursor.column = 0 && cursor.isAtMark '-' then
    scanner.outside.map fun scanner => scanner.mark .documentStart 3
  else if cursor.column = 0 && cursor.isAtMark '.' then
    scanner.outside.map fun scanner => scanner.mark .documentEnd 3
  else if c = '[' then scanner.openFlow .flowSequenceStart
  else if c = '\x7b' then scanner.openFlow .flowMappingStart
  else if c = ']' then scanner.closeFlow .flowSequenceEnd
  else if c = '\x7d' then scanner.closeFlow .flowMappingEnd
  else if c = ',' then
    (scanner.allowKey true).dropKey.map fun scanner => scanner.mark .flowEntry
  else if c = '-' && gapBehind then scanner.blockEntry
  else if c = '?' && (scanner.inFlow || gapBehind) then scanner.explicitKey
  else if c = ':' && (scanner.inFlow || gapBehind) then scanner.valueMark
  else if c = '*' then scanner.nodePart fun cursor =>
    (readName cursor).map fun (name, behind) => (.alias name, behind)
  else if c = '&' then scanner.nodePart fun cursor =>
    (readName cursor).map fun (name, behind) => (.anchor name, behind)
  else if c = '!' then scanner.nodePart fun cursor =>
    (readTag cursor).map fun (tag, behind) => (.tag tag, behind)
  else if (c = '|' || c = '>') && !scanner.inFlow then scanner.block
  else if c = '\x27' || c = '"' then scanner.nodePart fun cursor =>
    (quotedScalar cursor).map fun (text, behind) => (.scalar text false, behind)
  else if startsPlain scanner.inFlow cursor then scanner.plain
  else .error .malformed

/-- The tokens that are still to come, behind those that there are. The last one is the end of
the stream or a fault. -/
def finish (scanner : Scanner) : Nat → List Token
  | 0 => (Token.fault .malformed :: scanner.tokens).reverse
  | rounds + 1 =>
    let scanner := scanner.skipToToken scanner.cursor.rounds
    let result : Except Fault (Scanner × Bool) := do
      let scanner ← scanner.dropStale
      let scanner := scanner.unwind scanner.cursor.column
      if scanner.cursor.rest.isEmpty then
        let scanner ← scanner.outside
        return (scanner.emit .streamEnd, true)
      else return (← scanner.token, false)
    match result with
    | .error fault => (Token.fault fault :: scanner.tokens).reverse
    | .ok (scanner, true) => scanner.tokens.reverse
    | .ok (scanner, false) => finish scanner rounds

end Scanner

def withoutMark : List Char → List Char
  | c :: rest => if c = byteOrderMark then rest else c :: rest
  | [] => []

def tokens (text : String) : List Token :=
  if text.toList.all isAdmitted then
    let cursor : Cursor := { rest := withoutMark text.toList }
    Scanner.finish { cursor } cursor.rounds
  else [.fault .malformed]

end Assay.Yaml
