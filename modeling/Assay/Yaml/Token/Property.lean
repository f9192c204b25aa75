import Assay.Yaml.Token.Basic

/-! # Names, tags and directives

The parts of a text that say something about a node or about a whole document.
-/

namespace Assay.Yaml

/-- The name behind an anchor or alias mark, which stands at the cursor. -/
def readName (cursor : Cursor) : Except Fault (String × Cursor) :=
  let (name, behind) := cursor.next.span isNameChar
  let ends := isGap behind.peek || "?:,]\x7d%@\x60".toList.contains behind.peek
  if name.isEmpty || !ends then .error .malformed else .ok (String.ofList name, behind)

/-- The bytes that a run of escapes in a tag gives. -/
def tagBytes (cursor : Cursor) : Nat → Except Fault (List UInt8 × Cursor)
  | 0 => .error .malformed
  | rounds + 1 =>
    if cursor.peek ≠ '%' then .ok ([], cursor)
    else
      let digits := cursor.next.rest.take 2
      match if digits.length = 2 then Number.readHex? digits else none with
      | none => .error .malformed
      | some code => do
        let (others, behind) ← tagBytes (cursor.skip 3) rounds
        return (UInt8.ofNat code :: others, behind)

/-- The characters of a tag. Escaped bytes are UTF-8. -/
def tagChars (cursor : Cursor) : Nat → Except Fault (List Char × Cursor)
  | 0 => .error .malformed
  | rounds + 1 =>
    let c := cursor.peek
    if cursor.rest.isEmpty || !isTagChar c then .ok ([], cursor)
    else if c = '%' then do
      let (bytes, behind) ← tagBytes cursor cursor.rounds
      match String.fromUTF8? ⟨bytes.toArray⟩ with
      | none => .error .malformed
      | some text =>
        let (others, behind) ← tagChars behind rounds
        return (text.toList ++ others, behind)
    else do
      let (others, behind) ← tagChars cursor.next rounds
      return (c :: others, behind)

def readTagText (cursor : Cursor) : Except Fault (String × Cursor) := do
  let (chars, behind) ← tagChars cursor cursor.rounds
  if chars.isEmpty && behind.index = cursor.index then .error .malformed
  else return (String.ofList chars, behind)

/-- The handle at a cursor: an exclamation mark alone, or a name between two of them. -/
def readHandle (cursor : Cursor) : Except Fault (String × Cursor) :=
  if cursor.peek ≠ '!' then .error .malformed
  else if cursor.peekAt 1 = ' ' then .ok ("!", cursor.next)
  else
    let (name, behind) := cursor.next.span isNameChar
    if behind.peek ≠ '!' then .error .malformed
    else .ok (String.ofList ('!' :: name ++ ['!']), behind.next)

/-- Whether another exclamation mark stands in the word at a cursor. -/
def hasHandle (cursor : Cursor) : Bool :=
  (cursor.span fun c => !isBlankOrEnd c).1.contains '!'

def readTag (cursor : Cursor) : Except Fault (WrittenTag × Cursor) := do
  let (tag, behind) ←
    if cursor.peekAt 1 = '<' then do
      let (suffix, behind) ← readTagText (cursor.skip 2)
      if behind.peek ≠ '>' then .error .malformed
      else .ok (⟨none, suffix⟩, behind.next)
    else if isGap (cursor.peekAt 1) then .ok (⟨none, "!"⟩, cursor.next)
    else do
      let (handle, behind) ←
        if hasHandle cursor.next then readHandle cursor else .ok ("!", cursor.next)
      let (suffix, behind) ← readTagText behind
      .ok (⟨some handle, suffix⟩, behind)
  if isBlankOrEnd behind.peek then return (tag, behind) else .error .malformed

def readVersionNumber (cursor : Cursor) : Except Fault (Nat × Cursor) :=
  let (digits, behind) := cursor.span Char.isDigit
  if digits.isEmpty then .error .malformed
  else match Number.readDigits digits with
    | .error refusal => .error (.tooManyDigits refusal)
    | .ok number => .ok (number, behind)

def readVersion (cursor : Cursor) : Except Fault (Directive × Cursor) := do
  let (major, behind) ← readVersionNumber cursor.skipBlanks
  if behind.peek ≠ '.' then .error .malformed
  else
    let (_, behind) ← readVersionNumber behind.next
    if isBlankOrEnd behind.peek then return (.version major, behind) else .error .malformed

/-- What a tag directive says. -/
def readHandleDirective (cursor : Cursor) : Except Fault (Directive × Cursor) := do
  let (handle, behind) ← readHandle cursor.skipBlanks
  if behind.peek ≠ ' ' then .error .malformed
  else
    let (start, behind) ← readTagText behind.skipBlanks
    if isBlankOrEnd behind.peek then return (.handle handle start, behind) else .error .malformed

def readDirective (cursor : Cursor) : Except Fault (Directive × Cursor) := do
  let (name, behind) := cursor.next.span isNameChar
  if name.isEmpty || !isBlankOrEnd behind.peek then .error .malformed
  else
    let (directive, behind) ←
      if name = ['Y', 'A', 'M', 'L'] then readVersion behind
      else if name = ['T', 'A', 'G'] then readHandleDirective behind
      else .ok (.other, behind.skipLine)
    match behind.endLine? with
    | none => .error .malformed
    | some behind => return (directive, behind)

end Assay.Yaml
