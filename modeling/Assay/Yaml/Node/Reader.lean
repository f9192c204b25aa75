import Assay.Yaml.Node.Basic
import Assay.Yaml.Token.Scan

/-! # From tokens to nodes

A name must be new where it is given, and must have been given where it is used; a collection may
use its own name. The handles of tags are those of the document, and nodes may be nested to a
limit only.
-/

namespace Assay.Yaml

/-- The handles that every document has. -/
def standardHandles : Table String String := [("!", "!"), ("!!", standardStart)]

/-- The greatest depth to which collections are nested. -/
def nestingLimit : Nat := 485

/-- The tokens that are still to be read, and the names met so far. -/
structure Stream where
  tokens : List Token
  /-- The names that have been given. -/
  given : List String := []
  /-- The nodes that are complete and have a name. -/
  named : Table String Node := []

namespace Stream

/-- The next token. A fault of the text takes effect when it is looked at. -/
def peek (stream : Stream) : Except Fault Token :=
  match stream.tokens with
  | [] => .error .malformed
  | .fault fault :: _ => .error fault
  | token :: _ => .ok token

def next (stream : Stream) : Stream := { stream with tokens := stream.tokens.tail }

/-- The stream after a name has been given. -/
def give (stream : Stream) : Option String → Except Fault Stream
  | none => .ok stream
  | some name =>
    if stream.given.contains name then .error .malformed
    else .ok { stream with given := name :: stream.given }

def complete (stream : Stream) (name : Option String) (node : Node) : Stream :=
  match name with
  | none => stream
  | some name => { stream with named := stream.named.put name node }

end Stream

/-- What may stand before the content of a node. -/
structure Properties where
  name : Option String := none
  tag : Option WrittenTag := none

/-- The name at the start of a stream, if there is one. -/
def readAnchor (stream : Stream) : Except Fault (Option String × Stream) := do
  match ← stream.peek with
  | .anchor name => return (some name, stream.next)
  | _ => return (none, stream)

def readTagMark (stream : Stream) : Except Fault (Option WrittenTag × Stream) := do
  match ← stream.peek with
  | .tag tag => return (some tag, stream.next)
  | _ => return (none, stream)

/-- Name and tag, in either order. -/
def readProperties (stream : Stream) : Except Fault (Properties × Stream) := do
  let (name, stream) ← readAnchor stream
  let (tag, stream) ← readTagMark stream
  match name, tag with
  | none, some _ =>
    let (name, stream) ← readAnchor stream
    return (⟨name, tag⟩, stream)
  | _, _ => return (⟨name, tag⟩, stream)

def tagText (handles : Table String String) (tag : WrittenTag) : Except Fault String :=
  match tag.handle with
  | none => .ok tag.suffix
  | some handle => match handles.get? handle with
    | none => .error .malformed
    | some start => .ok (start ++ tag.suffix)

/-- The tag of a node that is no scalar. -/
def collectionTag (tag : Option String) (default : Tag) : Tag :=
  match tag with
  | none => default
  | some text => if text = "!" then default else .ofText text

def scalarTag (tag : Option String) (plain : Bool) (text : String) : Tag :=
  match tag with
  | none => if plain then .ofPlain text.toList else .str
  | some tagText => if tagText = "!" then .ofPlain text.toList else .ofText tagText

/-- Where a node stands, which says what may be one. -/
inductive Position where
  /-- Between brackets. -/
  | flow
  | block
  /-- In a mapping, where the entries of a sequence may stand in the column of the mapping. -/
  | inMapping
  deriving DecidableEq

def endsBlockPart : Token → Bool
  | .key | .value | .blockEnd => true
  | _ => false

def endsFlowPart (close token : Token) : Bool := token = .flowEntry || token = close

/-- What stays the same inside a document or gets less. -/
structure Nesting where
  handles : Table String String
  /-- How much deeper collections may be nested. -/
  levels : Nat

/-- The nesting inside one more collection. -/
def Nesting.deeper (nesting : Nesting) : Except Fault Nesting :=
  match nesting.levels with
  | 0 => .error .tooDeep
  | levels + 1 => .ok { nesting with levels }

/-- Reads the comma before an item that is not the first. -/
def readSeparator (first : Bool) (stream : Stream) : Except Fault Stream := do
  if first then return stream
  else if (← stream.peek) = .flowEntry then return stream.next
  else .error .malformed

mutual

def readNode (nesting : Nesting) (position : Position) (stream : Stream) :
    Nat → Except Fault (Node × Stream)
  | 0 => .error .malformed
  | rounds + 1 => do
    match ← stream.peek with
    | .alias name =>
      if stream.given.contains name then return (.alias name, stream.next)
      else .error .malformed
    | _ =>
      let (properties, stream) ← readProperties stream
      let tag ← match properties.tag with
        | none => pure none
        | some tag => some <$> tagText nesting.handles tag
      let (node, stream) ← readContent nesting position properties.name tag stream rounds
      return (node, stream.complete properties.name node)

def readContent (nesting : Nesting) (position : Position) (name tag : Option String)
    (stream : Stream) : Nat → Except Fault (Node × Stream)
  | 0 => .error .malformed
  | rounds + 1 => do
    let place := stream.tokens.length
    let token ← stream.peek
    match token, decide (position ≠ .flow) with
    | .scalar text plain, _ =>
      return (.scalar (scalarTag tag plain text) text, (← stream.give name).next)
    | .flowSequenceStart, _ =>
      let (items, stream) ←
        readFlowItems (← nesting.deeper) true (← stream.give name).next rounds
      return (.sequence place (collectionTag tag .seq) items, stream)
    | .flowMappingStart, _ =>
      let (entries, stream) ←
        readFlowEntries (← nesting.deeper) true (← stream.give name).next rounds
      return (.mapping place (collectionTag tag .map) entries, stream)
    | .blockSequenceStart, true =>
      let (items, stream) ←
        readBlockItems (← nesting.deeper) false (← stream.give name).next rounds
      return (.sequence place (collectionTag tag .seq) items, stream)
    | .blockMappingStart, true =>
      let (entries, stream) ←
        readBlockEntries (← nesting.deeper) (← stream.give name).next rounds
      return (.mapping place (collectionTag tag .map) entries, stream)
    | _, _ =>
      if token = .blockEntry && position = .inMapping then
        let (items, stream) ← readBlockItems (← nesting.deeper) true (← stream.give name) rounds
        return (.sequence place (collectionTag tag .seq) items, stream)
      else if name.isSome || tag.isSome then
        return (.scalar (scalarTag tag true "") "", ← stream.give name)
      else .error .malformed

/-- Reads the entries of a sequence without brackets. Entries in the column of a mapping have no
mark at their end. -/
def readBlockItems (nesting : Nesting) (inMapping : Bool) (stream : Stream) :
    Nat → Except Fault (List Node × Stream)
  | 0 => .error .malformed
  | rounds + 1 => do
    match ← stream.peek with
    | .blockEntry =>
      let stream := stream.next
      let token ← stream.peek
      let isEmpty := token = .blockEntry || token = .blockEnd ||
        (inMapping && endsBlockPart token)
      let (item, stream) ←
        if isEmpty then .ok (Node.empty, stream) else readNode nesting .block stream rounds
      let (items, stream) ← readBlockItems nesting inMapping stream rounds
      return (item :: items, stream)
    | .blockEnd => return ([], if inMapping then stream else stream.next)
    | _ => if inMapping then return ([], stream) else .error .malformed

def readBlockEntries (nesting : Nesting) (stream : Stream) :
    Nat → Except Fault (List (Node × Node) × Stream)
  | 0 => .error .malformed
  | rounds + 1 => do
    match ← stream.peek with
    | .key =>
      let (key, stream) ← readBlockPart nesting stream.next rounds
      let (value, stream) ← match ← stream.peek with
        | .value => readBlockPart nesting stream.next rounds
        | _ => .ok (Node.empty, stream)
      let (entries, stream) ← readBlockEntries nesting stream rounds
      return ((key, value) :: entries, stream)
    | .blockEnd => return ([], stream.next)
    | _ => .error .malformed

/-- Reads a key or a value of a mapping without brackets, which may be left out. -/
def readBlockPart (nesting : Nesting) (stream : Stream) : Nat → Except Fault (Node × Stream)
  | 0 => .error .malformed
  | rounds + 1 => do
    if endsBlockPart (← stream.peek) then return (Node.empty, stream)
    else readNode nesting .inMapping stream rounds

/-- Reads the items of a sequence in brackets. A key among them starts a mapping of one entry. -/
def readFlowItems (nesting : Nesting) (first : Bool) (stream : Stream) :
    Nat → Except Fault (List Node × Stream)
  | 0 => .error .malformed
  | rounds + 1 => do
    if (← stream.peek) = .flowSequenceEnd then return ([], stream.next)
    else
      let stream ← readSeparator first stream
      match ← stream.peek with
      | .flowSequenceEnd => return ([], stream.next)
      | .key =>
        let place := stream.tokens.length
        let (key, stream) ← readFlowPart (← nesting.deeper) .flowSequenceEnd stream.next rounds
        let (value, stream) ← readFlowValue (← nesting.deeper) .flowSequenceEnd stream rounds
        let (items, stream) ← readFlowItems nesting false stream rounds
        return (.mapping place .map [(key, value)] :: items, stream)
      | _ =>
        let (item, stream) ← readNode nesting .flow stream rounds
        let (items, stream) ← readFlowItems nesting false stream rounds
        return (item :: items, stream)

def readFlowEntries (nesting : Nesting) (first : Bool) (stream : Stream) :
    Nat → Except Fault (List (Node × Node) × Stream)
  | 0 => .error .malformed
  | rounds + 1 => do
    if (← stream.peek) = .flowMappingEnd then return ([], stream.next)
    else
      let stream ← readSeparator first stream
      match ← stream.peek with
      | .flowMappingEnd => return ([], stream.next)
      | .key =>
        let (key, stream) ← readFlowPart nesting .flowMappingEnd stream.next rounds
        let (value, stream) ← readFlowValue nesting .flowMappingEnd stream rounds
        let (entries, stream) ← readFlowEntries nesting false stream rounds
        return ((key, value) :: entries, stream)
      | _ =>
        let (key, stream) ← readNode nesting .flow stream rounds
        let (entries, stream) ← readFlowEntries nesting false stream rounds
        return ((key, Node.empty) :: entries, stream)

/-- Reads a key or a value between brackets, which may be left out. -/
def readFlowPart (nesting : Nesting) (close : Token) (stream : Stream) :
    Nat → Except Fault (Node × Stream)
  | 0 => .error .malformed
  | rounds + 1 => do
    let token ← stream.peek
    if token = .value || endsFlowPart close token then return (Node.empty, stream)
    else readNode nesting .flow stream rounds

/-- Reads a value with its mark between brackets, which may be left out. -/
def readFlowValue (nesting : Nesting) (close : Token) (stream : Stream) :
    Nat → Except Fault (Node × Stream)
  | 0 => .error .malformed
  | rounds + 1 => do
    if (← stream.peek) = .value then
      let stream := stream.next
      if endsFlowPart close (← stream.peek) then return (Node.empty, stream)
      else readNode nesting .flow stream rounds
    else return (Node.empty, stream)

end

/-- A bound on the rounds in which a stream is read: each token is looked at by a few readers. -/
def Stream.rounds (stream : Stream) : Nat := 4 * stream.tokens.length + 4

/-- The directives of a document: whether there was one about the version, and the handles. -/
def readDirectives (versioned : Bool) (handles : Table String String) :
    List Token → Except Fault (Table String String × List Token)
  | .directive (.version major) :: rest =>
    if versioned || major ≠ 1 then .error .malformed else readDirectives true handles rest
  | .directive (.handle handle start) :: rest =>
    if (handles.get? handle).isSome then .error .malformed
    else readDirectives versioned (handles.put handle start) rest
  | .directive .other :: rest => readDirectives versioned handles rest
  | rest => .ok (handles, rest)

/-- The root of a document that starts with directives or with a mark. -/
def readMarkedRoot (tokens : List Token) : Except Fault (Node × Stream) := do
  let (handles, tokens) ← readDirectives false [] tokens
  let handles := Table.putAll standardHandles handles
  let stream : Stream := { tokens }
  if (← stream.peek) ≠ .documentStart then .error .malformed
  else
    let stream := stream.next
    match ← stream.peek with
    | .directive _ | .documentStart | .documentEnd | .streamEnd => return (Node.empty, stream)
    | _ => readNode ⟨handles, nestingLimit⟩ .block stream stream.rounds

def readRoot (tokens : List Token) : Except Fault (Node × Stream) := do
  let stream : Stream := { tokens }
  match ← stream.peek with
  | .directive _ | .documentStart => readMarkedRoot tokens
  | _ => readNode ⟨standardHandles, nestingLimit⟩ .block stream stream.rounds

/-- Checks that nothing but the marks of its end follows a document. -/
def readEnd : List Token → Except Fault Unit
  | .documentEnd :: rest => readEnd rest
  | .streamEnd :: _ => .ok ()
  | .fault fault :: _ => .error fault
  | _ => .error .malformed

/-- The only document of a list of tokens, or nothing if there is none. -/
def Document.ofTokens (tokens : List Token) : Except Fault (Option Document) :=
  match tokens with
  | .streamEnd :: _ => .ok none
  | _ => do
    let (root, stream) ← readRoot tokens
    readEnd stream.tokens
    return some ⟨root, stream.named⟩

end Assay.Yaml
