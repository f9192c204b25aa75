import Assay.Json.Reader
import Assay.Json.Writer

/-! # Describing and reformatting JSON text

Each function works on any text. A text that is no document is left as it is.
-/

namespace Assay.Json

structure Shape where
  typeName : String
  depth : Nat
  keys : Nat
  length : Nat
  deriving DecidableEq

/-- The shape of a value. Keys are counted in objects and items in arrays. -/
def Shape.ofValue (value : Value) : Shape where
  typeName := value.typeName
  depth := value.measuredDepth
  keys := match value with
    | .object members => members.length
    | _ => 0
  length := match value with
    | .array items => items.length
    | _ => 0

/-- What is known about a text: its size in bytes of UTF-8, and its shape if it is a document. -/
structure Profile where
  size : Nat
  shape : Option Shape
  deriving DecidableEq

def profile (text : String) : Profile where
  size := text.utf8ByteSize
  shape := match parse text with
    | .ok value => some (Shape.ofValue value)
    | .error _ => none

def Profile.toValue (profile : Profile) : Value :=
  match profile.shape with
  | none => .object [("valid", .bool false), ("size", .int profile.size)]
  | some shape => .object [("valid", .bool true), ("size", .int profile.size),
      ("type", .string shape.typeName), ("depth", .int shape.depth), ("keys", .int shape.keys),
      ("length", .int shape.length)]

def format (text : String) : String :=
  match parse text with
  | .ok value => pretty value
  | .error _ => text

def minify (text : String) : String :=
  match parse text with
  | .ok value => canonical value
  | .error _ => text

def isDocument (text : String) : Bool :=
  match parse text with
  | .ok _ => true
  | .error _ => false

end Assay.Json
