import Assay.Datum.Basic
import Assay.Json.Writer
import Assay.Number.Numeral

/-! # Data as JSON

The data that have JSON text: those built from null, truth values, finite numbers, texts, lists,
pairs and maps, without a collection that contains itself. An integer must not have more digits
than are read back, and a key that is a scalar becomes its text.

The writer of JSON text calls itself for every level of collections, so it needs room on the stack.
How much there is depends on who calls it, and is a parameter here: the number of levels that can
still be written.
-/

namespace Assay.Datum

open Number (Double fitsLimit)

def memberName? : Datum → Option String
  | text value => some value
  | null => some "null"
  | bool value => some (if value then "true" else "false")
  | int value => if fitsLimit value then some (String.ofList (Number.intText value)) else none
  | double value => if value.isFinite then some (String.ofList value.text) else none
  | _ => none

mutual

def json? : Datum → Option Json.Value
  | null => some .null
  | bool value => some (.bool value)
  | int value => if fitsLimit value then some (.int value) else none
  | double value => if value.isFinite then some (.double value) else none
  | text value => some (.string value)
  | pair left right => do return .array [← json? left, ← json? right]
  | list items => (jsonItems? items).map .array
  | map entries => (jsonMembers? entries).map .object
  | _ => none

def jsonItems? : List Datum → Option (List Json.Value)
  | [] => some []
  | item :: rest => do return (← json? item) :: (← jsonItems? rest)

def jsonMembers? : List (Datum × Datum) → Option (List (String × Json.Value))
  | [] => some []
  | (key, value) :: rest => do
    return (← memberName? key, ← json? value) :: (← jsonMembers? rest)

end

/-- Whether a datum has JSON text that a writer with some room can write. -/
def isJson (room : Nat) (datum : Datum) : Bool := datum.json?.any fun value => value.depth ≤ room

/-- Whether a writer with some room can write a datum, if it has JSON text. -/
def fits (room : Nat) (datum : Datum) : Bool := datum.json?.all fun value => value.depth ≤ room

/-- Whether a datum is a scalar that has JSON text. -/
def isScalar : Datum → Bool
  | null | bool _ | text _ => true
  | int value => fitsLimit value
  | double value => value.isFinite
  | _ => false

theorem isJson_of_isScalar {room : Nat} (datum : Datum) (hscalar : datum.isScalar = true) :
    datum.isJson room = true := by
  cases datum <;> simp_all [isScalar, isJson, json?, Json.Value.depth]

/-- A writer with some room has tried to write a datum, and the stack has been exhausted. -/
structure Exhausted where
  deriving DecidableEq

/-- The text that stands for a datum: a text stays as it is, and any other datum becomes its
JSON text, for which the stack is taken to have room. -/
def rendered? : Datum → Option String
  | text value => some value
  | other => other.json?.map Json.canonical

def renderedJson : Json.Value → String
  | .string value => value
  | other => Json.canonical other

end Assay.Datum
