import Assay.Number.Double
import Assay.Table

/-! # JSON values

Objects keep their members in order. Integers and binary64 numbers are different values even
when they are numerically equal. A binary64 number may be infinite or undefined here, since a
lenient reading of JSON text admits these; the strict reading never produces them.
-/

namespace Assay.Json

open Number (Double)

inductive Value where
  | null
  | bool (value : Bool)
  | int (value : Int)
  | double (value : Double)
  | string (value : String)
  | array (items : List Value)
  | object (members : List (String × Value))

namespace Value

instance : Inhabited Value := ⟨null⟩

def typeName : Value → String
  | null => "null"
  | bool _ => "boolean"
  | int _ | double _ => "number"
  | string _ => "string"
  | array _ => "array"
  | object _ => "object"

mutual

/-- The nesting depth: none for a scalar, and one more than the deepest child for a container. -/
def depth : Value → Nat
  | array items => depthOfItems items + 1
  | object members => depthOfMembers members + 1
  | _ => 0

def depthOfItems : List Value → Nat
  | [] => 0
  | item :: rest => max item.depth (depthOfItems rest)

def depthOfMembers : List (String × Value) → Nat
  | [] => 0
  | (_, value) :: rest => max value.depth (depthOfMembers rest)

end

def field? (key : String) : Value → Option Value
  | object members => Table.get? members key
  | _ => none

def item? (index : Nat) : Value → Option Value
  | array items => items[index]?
  | _ => none

def asString? : Value → Option String
  | string value => some value
  | _ => none

def asStrings? : Value → Option (List String)
  | array items => items.mapM asString?
  | _ => none

def asStringTable? : Value → Option (Table String String)
  | object members => members.mapM fun entry => entry.2.asString?.map fun text => (entry.1, text)
  | _ => none

end Value

end Assay.Json
