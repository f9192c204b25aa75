import Assay.Json.Reader
import Assay.Json.Writer
import Assay.Text.Basic

/-! # Paths into documents

A path is a list of segments separated by points. A segment names a member; when it ends with a
decimal index in brackets and something stands before these, it names an item of the array that
is that member. The empty path is the document itself.
-/

namespace Assay.Json

open Number (TooManyDigits)

inductive Segment where
  | field (key : List Char)
  | indexed (key digits : List Char)
  deriving DecidableEq

/-- The digits of an index at the end of a reversed segment, with the key before it. -/
def Segment.splitIndex? (reversed : List Char) : Option (List Char × List Char) :=
  match reversed with
  | ']' :: behind =>
    match behind.takeWhile Char.isDigit, behind.dropWhile Char.isDigit with
    | [], _ => none
    | digits, '[' :: key => some (key.reverse, digits.reverse)
    | _, _ => none
  | _ => none

/-- A segment of a path. A key before an index is not empty and has no line break. -/
def Segment.ofText (text : List Char) : Segment :=
  match Segment.splitIndex? text.reverse with
  | some (key, digits) =>
    if key.isEmpty || key.contains '\n' then .field text else .indexed key digits
  | none => .field text

def segments (path : String) : List Segment :=
  if path.isEmpty then [] else (Text.splitOn '.' path.toList).map Segment.ofText

/-- The child that a segment names. An index is read only when its key has been found. -/
def Segment.step (segment : Segment) (value : Value) : Except TooManyDigits (Option Value) :=
  match segment with
  | .field key => .ok (value.field? (String.ofList key))
  | .indexed key digits =>
    match value.field? (String.ofList key) with
    | none => .ok none
    | some child => (Number.readDigits digits).map child.item?

def follow (value : Value) : List Segment → Except TooManyDigits (Option Value)
  | [] => .ok (some value)
  | segment :: rest =>
    match segment.step value with
    | .error refusal => .error refusal
    | .ok none => .ok none
    | .ok (some child) => follow child rest

def resolve (document : Value) (path : String) : Except TooManyDigits (Option Value) :=
  follow document (segments path)

/-- The name of the node that is not there. -/
def absentName : String := "MISSING"

/-- What is written for a node that is not there. -/
def undefinedText : String := "undefined"

/-- The canonical text of a node, or the text for a node that is not there. -/
def render : Option Value → String
  | some value => canonical value
  | none => undefinedText

def extract (text path : String) : Except TooManyDigits String :=
  match parse text with
  | .error _ => .ok undefinedText
  | .ok document => (resolve document path).map render

/-- The nodes at several paths, by path. Paths that lead nowhere are left out. -/
def extractAll (document : Value) (paths : List String) :
    Except TooManyDigits (Table String Value) :=
  paths.foldlM (fun found path =>
    (resolve document path).map fun node => match node with
      | some value => found.put path value
      | none => found) []

end Assay.Json
