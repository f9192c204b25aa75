import Assay.Json.Numeral
import Assay.Json.Token
import Assay.Json.Walk

/-! # Reading JSON text

A reader takes a text and gives a result with the rest of the text, which is always shorter.
Arrays and objects are read by loops over a reader of their children, and the number of brackets
that may be open at once bounds the nesting. The strict reading refuses the words and the
overflowing numerals for numbers that JSON does not have; the lenient reading takes them.

A document is refused for its depth only after all of its text has been read, and the depth is
that of the value: a member that a later one of the same name replaces does not count.
-/

namespace Assay.Json

open Number (Double)

/-- The part of a text that is left when a reader is done: strictly shorter. -/
abbrev Rest (text : List Char) : Type := { rest : List Char // rest.length < text.length }

abbrev Reader (α : Type) : Type := (text : List Char) → Except Stop (α × Rest text)

/-- How numbers outside JSON are taken. -/
inductive Mode where
  | strict
  | lenient
  deriving DecidableEq

def scalarWords : List (List Char × Value) :=
  [(['n', 'u', 'l', 'l'], .null), (['t', 'r', 'u', 'e'], .bool true),
    (['f', 'a', 'l', 's', 'e'], .bool false)]

/-- The words for the numbers that JSON does not have. -/
def constantWords : List (List Char × Constant) :=
  [(['N', 'a', 'N'], .nan), (['I', 'n', 'f', 'i', 'n', 'i', 't', 'y'], .infinity),
    (['-', 'I', 'n', 'f', 'i', 'n', 'i', 't', 'y'], .negativeInfinity)]

def Constant.value : Constant → Value
  | .nan => .double .nan
  | .infinity => .double (.infinite false)
  | .negativeInfinity => .double (.infinite true)

/-- The choice whose word stands at the start of a text, and the text behind the word. -/
def findWord? {α : Type} (choices : List (List Char × α)) (text : List Char) :
    Option (α × List Char) :=
  choices.findSome? fun choice => (dropWord choice.1 text).map fun rest => (choice.2, rest)

theorem length_of_findWord? {α : Type} {choices : List (List Char × α)} {text rest : List Char}
    {value : α} (hwords : choices.all (fun choice => !choice.1.isEmpty) = true)
    (hfind : findWord? choices text = some (value, rest)) : rest.length < text.length := by
  obtain ⟨choice, hmem, hchoice⟩ := List.exists_of_findSome?_eq_some hfind
  obtain ⟨behind, hdrop, hpair⟩ := Option.map_eq_some_iff.mp hchoice
  have hlength := length_of_dropWord hdrop
  have hnonempty := List.all_eq_true.mp hwords choice hmem
  have hpositive : 0 < choice.1.length :=
    List.length_pos_iff.mpr fun hempty => by simp [hempty] at hnonempty
  obtain ⟨-, rfl⟩ := Prod.mk.inj hpair
  omega

def Numeral.value (mode : Mode) (numeral : Numeral) (written : List Char) : Except Stop Value :=
  if numeral.isInteger then
    match numeral.integer with
    | .ok integer => .ok (.int integer)
    | .error refusal => .error (.digits refusal)
  else
    let number := numeral.double
    if mode = .strict && !number.isFinite then .error (.outOfRange (String.ofList written))
    else .ok (.double number)

/-- Reads a value that is neither a string nor a container. -/
def readScalar (mode : Mode) (text : List Char) : Except Stop (Value × Rest text) :=
  match hword : findWord? scalarWords text with
  | some (value, rest) => .ok (value, ⟨rest, length_of_findWord? (by decide) hword⟩)
  | none =>
    match hconstant : findWord? constantWords text with
    | some (constant, rest) => match mode with
      | .strict => .error (.constant constant)
      | .lenient => .ok (constant.value, ⟨rest, length_of_findWord? (by decide) hconstant⟩)
    | none =>
      match hread : readNumeral text with
      | none => .error (.fault .expectedValue text.length)
      | some (numeral, rest) =>
        match numeral.value mode (text.take (text.length - rest.length)) with
        | .ok value => .ok (value, ⟨rest, length_of_readNumeral hread⟩)
        | .error stop => .error stop

/-- The items of an array from the first one on, up to the closing bracket. -/
def readItems (readItem : Reader Value) (text : List Char) :
    Except Stop (List Value × Rest text) :=
  match readItem text with
  | .error stop => .error stop
  | .ok (item, ⟨behindItem, hitem⟩) =>
    match hnext : skipBlanks behindItem with
    | ']' :: rest => .ok ([item], ⟨rest, Nat.lt_trans (length_of_skipBlanks hnext) hitem⟩)
    | ',' :: others =>
      have hothers : (skipBlanks others).length < text.length :=
        Nat.lt_of_le_of_lt (length_skipBlanks_le others)
          (Nat.lt_trans (length_of_skipBlanks hnext) hitem)
      match readItems readItem (skipBlanks others) with
      | .error stop => .error stop
      | .ok (items, ⟨rest, hrest⟩) => .ok (item :: items, ⟨rest, Nat.lt_trans hrest hothers⟩)
    | other => .error (.fault .expectedComma other.length)
termination_by text.length
decreasing_by exact hothers

/-- The name of a member with the colon and the blanks behind it. -/
def readName (text : List Char) : Except Stop (String × Rest text) :=
  match text with
  | '"' :: opened =>
    match hname : readString opened with
    | .error stop => .error stop
    | .ok (name, behindName) =>
      match hnext : skipBlanks behindName with
      | ':' :: behindColon =>
        have hcolon : (skipBlanks behindColon).length < behindName.length :=
          Nat.lt_of_le_of_lt (length_skipBlanks_le behindColon) (length_of_skipBlanks hnext)
        .ok (name, ⟨skipBlanks behindColon,
          Nat.lt_succ_of_lt (Nat.lt_trans hcolon (length_of_readString hname))⟩)
      | other => .error (.fault .expectedColon other.length)
  | other => .error (.fault .expectedName other.length)

/-- The members of an object from the first one on, up to the closing brace. -/
def readMembers (readItem : Reader Value) (text : List Char) :
    Except Stop (List (String × Value) × Rest text) :=
  match readName text with
  | .error stop => .error stop
  | .ok (name, ⟨behindName, hname⟩) =>
    match readItem behindName with
    | .error stop => .error stop
    | .ok (value, ⟨behindValue, hvalue⟩) =>
      match hnext : skipBlanks behindValue with
      | '}' :: rest =>
        .ok ([(name, value)],
          ⟨rest, Nat.lt_trans (length_of_skipBlanks hnext) (Nat.lt_trans hvalue hname)⟩)
      | ',' :: others =>
        have hothers : (skipBlanks others).length < text.length :=
          Nat.lt_of_le_of_lt (length_skipBlanks_le others)
            (Nat.lt_trans (length_of_skipBlanks hnext) (Nat.lt_trans hvalue hname))
        match readMembers readItem (skipBlanks others) with
        | .error stop => .error stop
        | .ok (members, ⟨rest, hrest⟩) =>
          .ok ((name, value) :: members, ⟨rest, Nat.lt_trans hrest hothers⟩)
      | other => .error (.fault .expectedComma other.length)
termination_by text.length
decreasing_by exact hothers

def readArray (readItem : Reader Value) (text : List Char) :
    Except Stop (Value × { rest : List Char // rest.length ≤ text.length }) :=
  match hnext : skipBlanks text with
  | ']' :: rest => .ok (.array [], ⟨rest, Nat.le_of_lt (length_of_skipBlanks hnext)⟩)
  | items => match readItems readItem items with
    | .error stop => .error stop
    | .ok (items, ⟨rest, hrest⟩) =>
      .ok (.array items,
        ⟨rest, Nat.le_trans (Nat.le_of_lt hrest) (hnext ▸ length_skipBlanks_le text)⟩)

/-- Reads the members of an object behind its opening brace. A repeated name keeps its first
place and its last value. -/
def readObject (readItem : Reader Value) (text : List Char) :
    Except Stop (Value × { rest : List Char // rest.length ≤ text.length }) :=
  match hnext : skipBlanks text with
  | '}' :: rest => .ok (.object [], ⟨rest, Nat.le_of_lt (length_of_skipBlanks hnext)⟩)
  | members => match readMembers readItem members with
    | .error stop => .error stop
    | .ok (members, ⟨rest, hrest⟩) =>
      .ok (.object (Table.ofEntries members),
        ⟨rest, Nat.le_trans (Nat.le_of_lt hrest) (hnext ▸ length_skipBlanks_le text)⟩)

/-- Reads a value from its first character on; `allowed` brackets may still be opened. -/
def readValue (mode : Mode) (allowed : Nat) (text : List Char) :
    Except Stop (Value × Rest text) :=
  match text with
  | '"' :: opened =>
    match hread : readString opened with
    | .error stop => .error stop
    | .ok (value, rest) =>
      .ok (.string value, ⟨rest, Nat.lt_succ_of_lt (length_of_readString hread)⟩)
  | '[' :: opened =>
    match allowed with
    | 0 => .error .tooManyOpen
    | allowed + 1 =>
      match readArray (readValue mode allowed) opened with
      | .error stop => .error stop
      | .ok (value, ⟨rest, hrest⟩) => .ok (value, ⟨rest, Nat.lt_succ_of_le hrest⟩)
  | '{' :: opened =>
    match allowed with
    | 0 => .error .tooManyOpen
    | allowed + 1 =>
      match readObject (readValue mode allowed) opened with
      | .error stop => .error stop
      | .ok (value, ⟨rest, hrest⟩) => .ok (value, ⟨rest, Nat.lt_succ_of_le hrest⟩)
  | other => readScalar mode other

/-- The number of brackets that may be open at once while a text is read. -/
def openLimit : Nat := 985

def readDocument (mode : Mode) (text : List Char) : Except Stop Value :=
  if text.head? = some '\uFEFF' then
    .error (.fault .byteOrderMark text.length)
  else
    match readValue mode openLimit (skipBlanks text) with
    | .error stop => .error stop
    | .ok (value, ⟨rest, _⟩) =>
      match skipBlanks rest with
      | [] => .ok value
      | extra => .error (.fault .extraData extra.length)

/-- The value of a text without a limit on its depth other than that on open brackets. -/
def read (mode : Mode) (text : String) : Except Refusal Value :=
  match readDocument mode text.toList with
  | .ok value => .ok value
  | .error stop => .error (stop.toRefusal text.toList)

def parse (text : String) : Except Refusal Value :=
  match read .strict text with
  | .error refusal => .error refusal
  | .ok value => if nestingLimit ≤ value.measuredDepth then .error .tooDeep else .ok value

end Assay.Json
