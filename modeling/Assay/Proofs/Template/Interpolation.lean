import Assay.Proofs.Json.Path
import Assay.Template

/-! # Filling the texts of a value

The strings of a value are filled from a table and nothing else of it is touched. So a path leads
to the filled node where it led to the node, and at every place of the value the names of members,
the number of items and what is no string are as they were.
-/

namespace Assay.Json.Value

/-- The node at a place of a value: each number of the place chooses one of the children. -/
def nodeAt? (value : Value) : List Nat → Option Value
  | [] => some value
  | number :: rest => value.children[number]?.bind (nodeAt? · rest)

end Assay.Json.Value

namespace Assay.Template

open Json (Value Segment follow resolve segments)
open Number (TooManyDigits)

variable {bindings : Table String String}

theorem interpolateItems_eq_map (bindings : Table String String) (items : List Value) :
    interpolateItems bindings items = items.map (interpolate bindings) := by
  induction items with
  | nil => rfl
  | cons item rest ih => rw [interpolateItems, ih, List.map_cons]

theorem interpolateMembers_eq_map (bindings : Table String String)
    (members : List (String × Value)) :
    interpolateMembers bindings members =
      members.map fun member => (member.1, interpolate bindings member.2) := by
  induction members with
  | nil => rfl
  | cons member rest ih => rw [interpolateMembers, ih, List.map_cons]

theorem interpolate_array (bindings : Table String String) (items : List Value) :
    interpolate bindings (.array items) = .array (items.map (interpolate bindings)) := by
  rw [interpolate, interpolateItems_eq_map]

theorem interpolate_object (bindings : Table String String) (members : List (String × Value)) :
    interpolate bindings (.object members) =
      .object (members.map fun member => (member.1, interpolate bindings member.2)) := by
  rw [interpolate, interpolateMembers_eq_map]

/-! ## Paths -/

/-- Names are left alone, so members are found by the same names. -/
theorem field?_interpolate (bindings : Table String String) (key : String) (value : Value) :
    (interpolate bindings value).field? key = (value.field? key).map (interpolate bindings) := by
  cases value with
  | object members =>
      rw [interpolate_object]
      exact Table.get?_map_value (interpolate bindings) members key
  | array items =>
      rw [interpolate_array]
      rfl
  | _ => rfl

theorem item?_interpolate (bindings : Table String String) (index : Nat) (value : Value) :
    (interpolate bindings value).item? index = (value.item? index).map (interpolate bindings) := by
  cases value with
  | object members =>
      rw [interpolate_object]
      rfl
  | array items =>
      rw [interpolate_array]
      exact List.getElem?_map
  | _ => rfl

/-- One segment leads from the filled value to the filled child. -/
theorem step_interpolate (bindings : Table String String) (segment : Segment) (value : Value) :
    segment.step (interpolate bindings value) =
      (segment.step value).map (Option.map (interpolate bindings)) := by
  cases segment with
  | field key =>
      rw [Segment.step, field?_interpolate]
      rfl
  | indexed key digits =>
      rw [Segment.step, Segment.step, field?_interpolate]
      cases value.field? (String.ofList key) with
      | none => rfl
      | some child =>
          rw [Option.map_some]
          dsimp only
          cases Number.readDigits digits with
          | error refusal => rfl
          | ok index => exact congrArg Except.ok (item?_interpolate bindings index child)

theorem follow_interpolate (bindings : Table String String) (path : List Segment) (value : Value) :
    follow (interpolate bindings value) path =
      (follow value path).map (Option.map (interpolate bindings)) := by
  induction path generalizing value with
  | nil => rfl
  | cons segment rest ih =>
      rw [follow, follow, step_interpolate]
      rcases segment.step value with refusal | _ | child
      · rfl
      · rfl
      · exact ih child

/-! ## Form -/

theorem children_interpolate (bindings : Table String String) (value : Value) :
    (interpolate bindings value).children = value.children.map (interpolate bindings) := by
  cases value with
  | array items =>
      rw [interpolate_array]
      rfl
  | object members =>
      rw [interpolate_object, Value.children, Value.children, List.map_map, List.map_map]
      rfl
  | _ => rfl

/-- Interpolating and going down to a node may be done in either order. -/
theorem nodeAt?_interpolate (bindings : Table String String) (place : List Nat) (value : Value) :
    (interpolate bindings value).nodeAt? place =
      (value.nodeAt? place).map (interpolate bindings) := by
  induction place generalizing value with
  | nil => rfl
  | cons number rest ih =>
      rw [Value.nodeAt?, Value.nodeAt?, children_interpolate, List.getElem?_map]
      cases value.children[number]? with
      | none => rfl
      | some child => exact ih child

/-- A node and what it becomes: the text of a string is filled, and all else is as it was but for
what is below. -/
inductive NodeFilled (bindings : Table String String) : Value → Value → Prop
  | null : NodeFilled bindings .null .null
  | bool (value : Bool) : NodeFilled bindings (.bool value) (.bool value)
  | int (value : Int) : NodeFilled bindings (.int value) (.int value)
  | double (value : Number.Double) : NodeFilled bindings (.double value) (.double value)
  | string (text : String) :
      NodeFilled bindings (.string text) (.string (substitute bindings text))
  | array {items others : List Value} (hlength : others.length = items.length) :
      NodeFilled bindings (.array items) (.array others)
  | object {members others : Table String Value} (hkeys : others.keys = members.keys) :
      NodeFilled bindings (.object members) (.object others)

/-- A string is filled in, and any other node keeps its kind and its scalar. -/
theorem nodeFilled_interpolate (bindings : Table String String) (value : Value) :
    NodeFilled bindings value (interpolate bindings value) := by
  cases value with
  | null => exact .null
  | bool value => exact .bool value
  | int value => exact .int value
  | double value => exact .double value
  | string text => exact .string text
  | array items =>
      rw [interpolate_array]
      exact .array (List.length_map _)
  | object members =>
      rw [interpolate_object]
      refine .object ?_
      rw [Table.keys, Table.keys, List.map_map]
      rfl

/-- Interpolation leaves the depth alone. -/
theorem depth_interpolate (bindings : Table String String) (value : Value) :
    (interpolate bindings value).depth = value.depth := by
  induction value with
  | array items hitems =>
      rw [interpolate_array, Value.depth, Value.depth, Nat.add_right_cancel_iff]
      induction items with
      | nil => rfl
      | cons item rest ih =>
          obtain ⟨hitem, hrest⟩ := List.forall_mem_cons.mp hitems
          rw [List.map_cons, Value.depthOfItems, Value.depthOfItems, hitem, ih hrest]
  | object members hmembers =>
      rw [interpolate_object, Value.depth, Value.depth, Nat.add_right_cancel_iff]
      induction members with
      | nil => rfl
      | cons member rest ih =>
          obtain ⟨hmember, hrest⟩ := List.forall_mem_cons.mp hmembers
          rw [List.map_cons, Value.depthOfMembers, Value.depthOfMembers, hmember, ih hrest]
  | _ => rfl

/-- A path without an overlong index leads to the filled node where it led to the node, and nowhere
where it led nowhere. At every place of the value the node is filled, with the same names of
members in their order, as many items, and what is no string as it was; and the depth stays. -/
theorem interpolation_commutes_with_paths (bindings : Table String String) (value : Value) :
    (∀ path, (∀ segment ∈ segments path, segment.IndexFits) →
      ∃ found, resolve value path = .ok found ∧
        resolve (interpolate bindings value) path = .ok (found.map (interpolate bindings))) ∧
      (∀ place, Option.Rel (NodeFilled bindings) (value.nodeAt? place)
        ((interpolate bindings value).nodeAt? place)) ∧
      (interpolate bindings value).depth = value.depth := by
  refine ⟨fun path hfits => ?_, fun place => ?_, depth_interpolate bindings value⟩
  · obtain ⟨found, hfound⟩ := Json.exists_follow_of_indexFits hfits value
    refine ⟨found, hfound, ?_⟩
    rw [resolve, follow_interpolate, hfound]
    rfl
  · rw [nodeAt?_interpolate]
    cases value.nodeAt? place with
    | none => exact .none
    | some node => exact .some (nodeFilled_interpolate bindings node)

/-- The laws at a path through a member and an item to a string. -/
theorem interpolation_commutes_below_item :
    (∀ segment ∈ segments "a[1].b", segment.IndexFits) ∧
      ∃ found, resolve (.object [("a", .array [.null,
          .object [("b", .string "\x7b\x7b x \x7d\x7d!")]])]) "a[1].b" = .ok found ∧
        resolve (interpolate [("x", "y")] (.object [("a", .array [.null,
          .object [("b", .string "\x7b\x7b x \x7d\x7d!")]])])) "a[1].b" =
            .ok (found.map (interpolate [("x", "y")])) := by
  have hsegments : segments "a[1].b" = [.indexed ['a'] ['1'], .field ['b']] := by cbv
  have hfits : ∀ segment ∈ segments "a[1].b", segment.IndexFits := by
    rw [hsegments, List.forall_mem_cons, List.forall_mem_singleton]
    exact ⟨(by decide : 1 ≤ Number.digitLimit), trivial⟩
  exact ⟨hfits, (interpolation_commutes_with_paths _ _).1 _ hfits⟩

end Assay.Template
