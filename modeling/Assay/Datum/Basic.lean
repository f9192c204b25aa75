import Assay.Calendar
import Assay.Json.Value

/-! # Data

What a suite file or a response file holds before anything is asked of it. Beside the values of
JSON there are bytes, dates, moments, sets and pairs, and a map may have keys of any kind. A
collection that contains itself carries a label and is unrolled some way down.
-/

namespace Assay

open Number (Double)

inductive Datum where
  | null
  | bool (value : Bool)
  | int (value : Int)
  | double (value : Double)
  | text (value : String)
  | bytes (value : List UInt8)
  | date (value : Date)
  | moment (value : Moment)
  | set (members : List Datum)
  | pair (left right : Datum)
  | list (items : List Datum)
  | map (entries : List (Datum × Datum))
  /-- A list or a map that contains itself. Below a label that has been met before, the body
  need not be complete. -/
  | knot (label : Nat) (body : Datum)

namespace Datum

instance : Inhabited Datum := ⟨null⟩

def kind : Datum → String
  | null => "NoneType"
  | bool _ => "bool"
  | int _ => "int"
  | double _ => "float"
  | text _ => "str"
  | bytes _ => "bytes"
  | date _ => "date"
  | moment _ => "datetime"
  | set _ => "set"
  | pair _ _ => "tuple"
  | list _ => "list"
  | map _ => "dict"
  | knot _ body => body.kind

/-- Whether a datum counts as given: it is neither null, nor false, zero or empty. -/
def isGiven : Datum → Bool
  | null => false
  | bool value => value
  | int value => value ≠ 0
  | double value => !value.eqv (Double.zero false)
  | text value => !value.isEmpty
  | bytes value => !value.isEmpty
  | set members => !members.isEmpty
  | list items => !items.isEmpty
  | map entries => !entries.isEmpty
  | knot _ body => body.isGiven
  | date _ | moment _ | pair _ _ => true

def isNull : Datum → Bool
  | null => true
  | _ => false

def text? : Datum → Option String
  | text value => some value
  | _ => none

def int? : Datum → Option Int
  | int value => some value
  | _ => none

def bool? : Datum → Option Bool
  | bool value => some value
  | _ => none

def items? : Datum → Option (List Datum)
  | list items => some items
  | knot _ body => body.items?
  | _ => none

def entries? : Datum → Option (List (Datum × Datum))
  | map entries => some entries
  | knot _ body => body.entries?
  | _ => none

def fieldOf? (entries : List (Datum × Datum)) (name : String) : Option Datum :=
  (entries.find? fun entry => entry.1.text? = some name).map Prod.snd

/-- The value that some entries give to a text, where a missing one counts as null. -/
def fieldOf (entries : List (Datum × Datum)) (name : String) : Datum :=
  (fieldOf? entries name).getD null

/-- Whether a datum may be the key of a map or the member of a set. -/
def isKey : Datum → Bool
  | set _ | list _ | map _ | knot _ _ => false
  | pair left right => left.isKey && right.isKey
  | _ => true

/-- A number as an integer, where the truth values are the numbers zero and one. -/
def count? : Datum → Option Int
  | bool value => some (if value then 1 else 0)
  | int value => some value
  | _ => none

/-- Whether two data are the same key. Numbers are compared by value. -/
def sameKey (left right : Datum) : Bool :=
  match left, right with
  | null, null => true
  | text l, text r => l = r
  | bytes l, bytes r => l = r
  | date l, date r => l = r
  | moment l, moment r => l.eqv r
  | double l, double r => l.eqv r
  | double l, r => r.count?.any l.eqvInt
  | l, double r => l.count?.any r.eqvInt
  | l, r => l.count?.isSome && l.count? = r.count?

/-- Writes an entry. A key that is there already stays as it is and takes the new value. -/
def putEntry (entries : List (Datum × Datum)) (key value : Datum) : List (Datum × Datum) :=
  match entries with
  | [] => [(key, value)]
  | entry :: rest =>
    if entry.1.sameKey key then (entry.1, value) :: rest else entry :: putEntry rest key value

def addMember (members : List Datum) (member : Datum) : List Datum :=
  if members.any fun other => other.sameKey member then members else members ++ [member]

mutual

def ofJson : Json.Value → Datum
  | .null => null
  | .bool value => bool value
  | .int value => int value
  | .double value => double value
  | .string value => text value
  | .array items => list (ofJsonItems items)
  | .object members => map (ofJsonMembers members)

def ofJsonItems : List Json.Value → List Datum
  | [] => []
  | item :: rest => ofJson item :: ofJsonItems rest

def ofJsonMembers : List (String × Json.Value) → List (Datum × Datum)
  | [] => []
  | (name, value) :: rest => (text name, ofJson value) :: ofJsonMembers rest

end

end Datum

end Assay
