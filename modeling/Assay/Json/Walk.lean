import Assay.Json.Value

/-! # Measuring the depth of a value

The depth of a value is measured by a walk that does not recur on the value. The values still to be
looked at wait on a stack, each with the number of containers around it, and the walk notes how deep
the deepest container was. A document is refused for its depth, and described by it, as measured.
-/

namespace Assay.Json

/-! ## Children and size -/

namespace Value

/-- The items of an array, or the values of an object's members. -/
def children : Value → List Value
  | array items => items
  | object members => members.map Prod.snd
  | _ => []

def isContainer : Value → Bool
  | array _ | object _ => true
  | _ => false

mutual

/-- The number of values of which a value is made up, itself included. -/
def size : Value → Nat
  | array items => sizeOfItems items + 1
  | object members => sizeOfMembers members + 1
  | _ => 1

def sizeOfItems : List Value → Nat
  | [] => 0
  | item :: rest => item.size + sizeOfItems rest

def sizeOfMembers : List (String × Value) → Nat
  | [] => 0
  | (_, value) :: rest => value.size + sizeOfMembers rest

end

theorem sizeOfMembers_eq (members : List (String × Value)) :
    sizeOfMembers members = sizeOfItems (members.map Prod.snd) := by
  induction members with
  | nil => rfl
  | cons member rest ih => rw [sizeOfMembers, List.map_cons, sizeOfItems, ih]

theorem size_eq (value : Value) : value.size = sizeOfItems value.children + 1 := by
  cases value with
  | array items => rw [size, children]
  | object members => rw [size, sizeOfMembers_eq, children]
  | _ => rfl

theorem children_of_scalar {value : Value} (hscalar : value.isContainer = false) :
    value.children = [] := by
  cases value with
  | array items => cases hscalar
  | object members => cases hscalar
  | _ => rfl

theorem sizeOfItems_append (first second : List Value) :
    sizeOfItems (first ++ second) = sizeOfItems first + sizeOfItems second := by
  induction first with
  | nil => rw [List.nil_append, sizeOfItems, Nat.zero_add]
  | cons item rest ih => rw [List.cons_append, sizeOfItems, sizeOfItems, ih, Nat.add_assoc]

theorem sizeOfItems_reverse (items : List Value) :
    sizeOfItems items.reverse = sizeOfItems items := by
  induction items with
  | nil => rfl
  | cons item rest ih =>
    rw [List.reverse_cons, sizeOfItems_append, ih, sizeOfItems, sizeOfItems, sizeOfItems,
      Nat.add_zero, Nat.add_comm]

end Value

/-! ## Walks -/

/-- A value that is still to be looked at, with the number of containers around it. -/
structure Visit where
  value : Value
  level : Nat

def Visit.toChildren (visit : Visit) : List Visit :=
  visit.value.children.reverse.map fun child => ⟨child, visit.level + 1⟩

theorem Visit.values_toChildren (visit : Visit) :
    visit.toChildren.map Visit.value = visit.value.children.reverse := by
  simp [toChildren, Function.comp_def]

/-- A walk through a value: the depth of the deepest container that has been met, and the visits
that are still to be made, the next one first. -/
structure Walk where
  deepest : Nat
  stack : List Visit

namespace Walk

/-- The walk that has a whole value before it. -/
def start (value : Value) : Walk := ⟨0, [⟨value, 0⟩]⟩

/-- The walk after its next visit, if there is one to be made. A container is noted, and its
children are put before the other visits. A scalar is passed by. -/
def next? (walk : Walk) : Option Walk :=
  match walk.stack with
  | [] => none
  | visit :: rest =>
    if visit.value.isContainer then
      some ⟨max walk.deepest (visit.level + 1), visit.toChildren ++ rest⟩
    else
      some { walk with stack := rest }

/-- The total size of the values that are still to be looked at. -/
def size (walk : Walk) : Nat := Value.sizeOfItems (walk.stack.map Visit.value)

theorem next?_eq_none_iff {walk : Walk} : walk.next? = none ↔ walk.stack = [] := by
  obtain ⟨deepest, _ | ⟨visit, rest⟩⟩ := walk
  · simp [next?]
  · cases hcontainer : visit.value.isContainer <;> simp [next?, hcontainer]

/-- What a visit does. The stack is the same for a scalar, which has no children. -/
theorem next?_eq_some_iff {walk next : Walk} :
    walk.next? = some next ↔ ∃ visit rest, walk.stack = visit :: rest ∧
      next.stack = visit.toChildren ++ rest ∧
      next.deepest = if visit.value.isContainer then max walk.deepest (visit.level + 1)
        else walk.deepest := by
  obtain ⟨deepest, _ | ⟨visit, rest⟩⟩ := walk
  · simp [next?]
  · simp only [next?, List.cons.injEq, and_assoc, exists_and_left, exists_eq_left']
    obtain ⟨nextDeepest, nextStack⟩ := next
    cases hcontainer : visit.value.isContainer with
    | false =>
      have hchildren := Value.children_of_scalar hcontainer
      simp [Visit.toChildren, hchildren, eq_comm, and_comm]
    | true => simp [eq_comm, and_comm]

/-- A visit takes one value away. -/
theorem size_of_next? {walk next : Walk} (hnext : walk.next? = some next) :
    next.size + 1 = walk.size := by
  obtain ⟨visit, rest, hstack, hnextStack, -⟩ := next?_eq_some_iff.mp hnext
  rw [size, size, hstack, hnextStack, List.map_append, Visit.values_toChildren,
    Value.sizeOfItems_append, Value.sizeOfItems_reverse, List.map_cons, Value.sizeOfItems,
    Value.size_eq]
  omega

/-- The depth that is noted when no visit is left. -/
def finish (walk : Walk) : Nat :=
  match _hnext : walk.next? with
  | none => walk.deepest
  | some next => finish next
termination_by walk.size
decreasing_by
  have hsize := size_of_next? ‹_›
  omega

theorem finish_of_none {walk : Walk} (hended : walk.next? = none) :
    walk.finish = walk.deepest := by
  rw [finish]
  split
  next => rfl
  next _ hnext => simp [hended] at hnext

theorem finish_of_next? {walk next : Walk} (hnext : walk.next? = some next) :
    walk.finish = next.finish := by
  rw [finish]
  split
  next hended => simp [hended] at hnext
  next _ hother => rw [Option.some.inj (hother.symm.trans hnext)]

end Walk

def Value.measuredDepth (value : Value) : Nat := (Walk.start value).finish

end Assay.Json
