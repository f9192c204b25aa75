import Assay.Failure
import Assay.Json.Path
import Assay.Query.Reader

/-! # Searching with queries

A query is searched from a node, which remembers the nodes above it. The nodes that it selects
come in document order; the descendants of a node come after the node itself. A step from where
there is no node takes its absence for the null value.
-/

namespace Assay.Query

open Json (Value)

/-- A value with the values above it, the innermost first. -/
structure Node where
  value : Value
  above : List Value

/-- A node that may be missing: the parent of the root is. -/
abbrev Place : Type := Option Node

def nodeAt (place : Place) : Node := place.getD ⟨.null, []⟩

def Node.child (node : Node) (value : Value) : Node := ⟨value, node.value :: node.above⟩

def Node.top (node : Node) : Node := ⟨node.above.getLast?.getD node.value, []⟩

def Node.parent (node : Node) : Place :=
  match node.above with
  | [] => none
  | value :: above => some ⟨value, above⟩

/-- The names under which scalars without a length are known in a failure. -/
def lengthlessName : Value → String
  | .bool _ => "bool"
  | .int _ => "int"
  | .double _ => "float"
  | _ => ""

/-- Whether a value is empty, zero, false or null. -/
def isEmptyValue : Value → Bool
  | .null => true
  | .bool value => !value
  | .int value => value = 0
  | .double value => value.eqvInt 0
  | .string value => value.isEmpty
  | .array items => items.isEmpty
  | .object members => members.isEmpty

/-! ## Steps -/

def selectFields (names : List String) (node : Node) : List Node :=
  match node.value with
  | .object members =>
    let wanted := if names.contains "*" then members.map Prod.fst else names
    wanted.filterMap fun name => (Table.get? members name).map node.child
  | _ => []

/-- The item of a sequence at an index, which counts from the end when it is negative. -/
def pickItem {α : Type} (kind : String) (items : List α) (index : Int) :
    Except Failure (Option α) :=
  if items.length ≤ index then .ok none
  else
    let position := if index < 0 then items.length + index else index
    if position < 0 then .error (.beforeStart kind) else .ok items[position.toNat]?

/-- The items of a node at a list of indices. An empty value has none. -/
def selectIndices (indices : List Int) (node : Node) : Except Failure (List Node) :=
  if isEmptyValue node.value then .ok []
  else do
    let picked ← indices.mapM fun index => match node.value with
      | .array items => pickItem "list" items index
      | .string text =>
        (pickItem "string" text.toList index).map fun c =>
          c.map fun c => Value.string (String.ofList [c])
      | .object members =>
        if members.length ≤ index then .ok none else .error (.indexIntoObject index)
      | scalar => .error (.noLength (lengthlessName scalar))
    return picked.filterMap fun item => item.map node.child

/-- A bound of a slice within a length: counted from the end when negative, then clamped between
two limits. -/
def clampBound (length low high : Int) (bound : Int) : Int :=
  max low (min high (if bound < 0 then bound + length else bound))

def Slice.positions (slice : Slice) (length : Nat) : Except Failure (List Nat) :=
  let step := slice.step.getD 1
  if step = 0 then .error .zeroStep
  else
    let size : Int := length
    let (low, high) := if step < 0 then (-1, size - 1) else (0, size)
    let start := (slice.start.map (clampBound size low high)).getD (if step < 0 then high else low)
    let stop := (slice.stop.map (clampBound size low high)).getD (if step < 0 then low else high)
    let distance := if step < 0 then start - stop else stop - start
    let count := if distance ≤ 0 then 0 else ((distance - 1) / step.natAbs + 1).toNat
    .ok <| (List.range count).map fun (turn : Nat) => (start + (turn : Int) * step).toNat

def sliceItems (slice : Slice) (node : Node) (items : List Value) : Except Failure (List Node) :=
  (slice.positions items.length).map fun positions =>
    (positions.filterMap fun position => items[position]?).map node.child

/-- The items of a node at a slice. An empty value has none, and an object, a string, an integer
or a boolean counts as a sequence of itself. -/
def selectSlice (slice : Slice) (node : Node) : Except Failure (List Node) :=
  if isEmptyValue node.value then .ok []
  else match node.value with
    | .array items => sliceItems slice node items
    | .double _ => .error (.noLength (lengthlessName node.value))
    | value => sliceItems slice ⟨.array [value], node.above⟩ [value]

mutual

def withDescendants (value : Value) (above : List Value) : List Node :=
  match value with
  | .array items => ⟨.array items, above⟩ :: descendantsOfItems items (.array items :: above)
  | .object members =>
    ⟨.object members, above⟩ :: descendantsOfMembers members (.object members :: above)
  | scalar => [⟨scalar, above⟩]

def descendantsOfItems (items : List Value) (above : List Value) : List Node :=
  match items with
  | [] => []
  | item :: rest => withDescendants item above ++ descendantsOfItems rest above

def descendantsOfMembers (members : List (String × Value)) (above : List Value) : List Node :=
  match members with
  | [] => []
  | (_, value) :: rest => withDescendants value above ++ descendantsOfMembers rest above

end

/-! ## Queries -/

/-- The results for each of a list of places, one after the other. -/
def collect {α : Type} (select : α → Except Failure (List α)) (places : List α) :
    Except Failure (List α) :=
  (places.mapM select).map List.flatten

def Expr.find : Expr → Place → Except Failure (List Place)
  | .root, place => .ok [some (nodeAt place).top]
  | .this, place => .ok [some (nodeAt place)]
  | .parent, place => .ok [(nodeAt place).parent]
  | .fields names, place => .ok ((selectFields names (nodeAt place)).map some)
  | .index indices, place => (selectIndices indices (nodeAt place)).map (List.map some)
  | .slice bounds, place => (selectSlice bounds (nodeAt place)).map (List.map some)
  | .join .child left right, place => do collect right.find (← left.find place)
  | .join .descendants left right, place => do
    collect (fun start => match start with
      | none => do
        let _ ← right.find none
        .error .noParent
      | some node => collect right.find ((withDescendants node.value node.above).map some))
      (← left.find place)
  | .join .filter left right, place => do
    (← left.find place).filterM fun found => return !(← right.find found).isEmpty
  | .join .exclusion left right, place => do
    (← left.find place).filterM fun found => return (← right.find found).isEmpty
  | .join .union left right, place => do return (← left.find place) ++ (← right.find place)
  | .join .intersection _ _, _ => .error .intersection

end Assay.Query
