import Assay.Json.Value

/-! # Equality of JSON values

Two values are equal when they denote the same data: numbers by their exact value across
integers and binary64 numbers, booleans only with booleans, and objects whatever the order of
their members.
-/

namespace Assay.Json

open Number (Double)

/-- Equality of two values that are neither arrays nor objects. -/
def scalarEqual : Value → Value → Bool
  | .null, .null => true
  | .bool left, .bool right => left = right
  | .int left, .int right => left = right
  | .int left, .double right => right.eqvInt left
  | .double left, .int right => left.eqvInt right
  | .double left, .double right => left.eqv right
  | .string left, .string right => left = right
  | _, _ => false

mutual

def equal : Value → Value → Bool
  | .array left, .array right => itemsEqual left right
  | .object left, .object right =>
    left.length = right.length && membersEqual left right
  | left, right => scalarEqual left right

def itemsEqual : List Value → List Value → Bool
  | [], [] => true
  | left :: lefts, right :: rights => equal left right && itemsEqual lefts rights
  | _, _ => false

/-- Whether each member of one object has an equal counterpart in another. -/
def membersEqual : List (String × Value) → List (String × Value) → Bool
  | [], _ => true
  | (name, left) :: lefts, rights =>
    (match Table.get? rights name with
      | some right => equal left right
      | none => false) && membersEqual lefts rights

end

end Assay.Json
