import Assay.Json.Value
import Assay.Text.Basic

/-! # Templates

A placeholder is a name between two opening and two closing braces. A text is read from left to
right as single characters and placeholders; the interior of a placeholder runs to the first
closing brace and is not empty. Names are looked up without the blanks around them, a
placeholder without a value stays as it is, and values are not read again.
-/

namespace Assay.Template

inductive Piece where
  | literal (c : Char)
  | placeholder (interior : List Char)
  deriving DecidableEq

/-- The interior of a placeholder at the start of a text, and the text behind it. -/
def openPlaceholder? : List Char → Option (List Char × List Char)
  | '{' :: '{' :: body =>
    match body.takeWhile (· ≠ '}'), body.dropWhile (· ≠ '}') with
    | [], _ => none
    | interior, '}' :: '}' :: rest => some (interior, rest)
    | _, _ => none
  | _ => none

theorem length_of_openPlaceholder? {text interior rest : List Char}
    (hopen : openPlaceholder? text = some (interior, rest)) : rest.length < text.length := by
  unfold openPlaceholder? at hopen
  split at hopen
  · next body =>
    have hlength := (List.dropWhile_sublist (l := body) (· ≠ '}')).length_le
    split at hopen
    · simp at hopen
    · next hdrop _ =>
      obtain ⟨-, rfl⟩ := Prod.mk.inj (Option.some.inj hopen)
      rw [hdrop] at hlength
      simp only [List.length_cons] at hlength ⊢
      omega
    · simp at hopen
  · simp at hopen

def pieces (text : List Char) : List Piece :=
  match text with
  | [] => []
  | c :: others =>
    match _hopen : openPlaceholder? (c :: others) with
    | some (interior, rest) => .placeholder interior :: pieces rest
    | none => .literal c :: pieces others
termination_by text.length
decreasing_by
  · exact length_of_openPlaceholder? ‹_›
  · simp

def nameOf (interior : List Char) : String := String.ofList (Text.trim interior)

def Piece.name? : Piece → Option String
  | literal _ => none
  | placeholder interior => some (nameOf interior)

def Piece.written : Piece → List Char
  | literal c => [c]
  | placeholder interior => '{' :: '{' :: interior ++ ['}', '}']

/-- A piece with the value of its name in place of a placeholder. -/
def Piece.filled (bindings : Table String String) (piece : Piece) : List Char :=
  match piece.name?.bind bindings.get? with
  | some value => value.toList
  | none => piece.written

/-- Whether two opening braces stand side by side in a text. Without them there is no
placeholder. -/
def mayHold (text : String) : Bool := Text.contains ['{', '{'] text.toList

def fill (bindings : Table String String) (text : String) : String :=
  String.ofList ((pieces text.toList).flatMap (Piece.filled bindings))

/-- A text with every placeholder replaced that has a value. A text in which no placeholder can
be, and any text under an empty table, is returned as it is. -/
def substitute (bindings : Table String String) (text : String) : String :=
  if text.isEmpty || !mayHold text || bindings.isEmpty then text else fill bindings text

/-- Several texts with their placeholders replaced. Under an empty table they are returned as they
are. -/
def substituteAll (bindings : Table String String) (texts : List String) : List String :=
  if bindings.isEmpty then texts else texts.map (substitute bindings)

/-- The names of the placeholders of a text, in order and with repetitions. -/
def names (text : List Char) : List String := (pieces text).filterMap Piece.name?

/-- The names of the placeholders, each once, in order of first occurrence. -/
def findVariables (text : String) : List String :=
  if text.isEmpty || !mayHold text then [] else (names text.toList).eraseDups

/-- Whether a placeholder starts somewhere in a text. -/
def holdsPlaceholder : List Char → Bool
  | [] => false
  | c :: rest => (openPlaceholder? (c :: rest)).isSome || holdsPlaceholder rest

def hasVariables (text : String) : Bool := !text.isEmpty && holdsPlaceholder text.toList

open Json (Value)

mutual

/-- A value with the placeholders in all its strings replaced. Names of members stay. -/
def interpolate (bindings : Table String String) : Value → Value
  | .string text => .string (substitute bindings text)
  | .array items => .array (interpolateItems bindings items)
  | .object members => .object (interpolateMembers bindings members)
  | other => other

def interpolateItems (bindings : Table String String) : List Value → List Value
  | [] => []
  | item :: rest => interpolate bindings item :: interpolateItems bindings rest

def interpolateMembers (bindings : Table String String) :
    List (String × Value) → List (String × Value)
  | [] => []
  | (name, value) :: rest => (name, interpolate bindings value) :: interpolateMembers bindings rest

end

end Assay.Template
