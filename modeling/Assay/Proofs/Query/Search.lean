import Assay.Proofs.Query.Engine

/-! # The engine follows paths

The engine that reads and searches as described here follows every plain path in which no name is an
operator.
-/

namespace Assay.Query

open Json (Segment Value)

variable {node : Node}

/-- The query for a path is the chain of its links. -/
theorem foldl_extended (whole : Expr) (steps : List Segment) :
    steps.foldl Expr.extended whole =
      (steps.flatMap linksOf).foldl (fun left link => .join .child left (engine.link link))
        whole := by
  rw [List.foldl_flatMap]
  congr
  funext left step
  cases step <;> rfl

/-- A name selects the member of an object that has it. -/
theorem finds_field {name : String} (hname : name ≠ "*") :
    engine.Finds (.fields [name]) (some node) (node.value.field? name) := by
  cases hvalue : node.value with
  | object members =>
      cases hmember : Table.get? members name with
      | none =>
          refine ⟨[], ?_, ?_⟩
          · simp [engine, Expr.find, selectFields, nodeAt, hvalue, Ne.symm hname, hmember]
          · rw [Value.field?, hmember]
            exact .nil
      | some child =>
          refine ⟨[some (node.child child)], ?_, ?_⟩
          · simp [engine, Expr.find, selectFields, nodeAt, hvalue, Ne.symm hname, hmember]
          · rw [Value.field?, hmember]
            exact .cons rfl .nil
  | _ =>
      refine ⟨[], ?_, .nil⟩
      simp [engine, Expr.find, selectFields, nodeAt, hvalue]

/-- An index selects the item of an array that has it. -/
theorem finds_index {position : Nat} {item : Value}
    (hitem : node.value.item? position = some item) :
    engine.Finds (.index [(position : Int)]) (some node) (some item) := by
  cases hvalue : node.value with
  | array items =>
      rw [hvalue] at hitem
      change items[position]? = some item at hitem
      obtain ⟨hbound, -⟩ := List.getElem?_eq_some_iff.mp hitem
      have hsome : items ≠ [] := List.ne_nil_of_length_pos (Nat.zero_lt_of_lt hbound)
      have hpick : pickItem "list" items (position : Int) = .ok (some item) := by
        have hshort : ¬ (items.length : Int) ≤ position := by omega
        have hforward : ¬ (position : Int) < 0 := by omega
        rw [pickItem, if_neg hshort]
        simpa [hforward] using hitem
      refine ⟨[some (node.child item)], ?_, .cons rfl .nil⟩
      simp [engine, Expr.find, selectIndices, nodeAt, hvalue, isEmptyValue, hsome, hpick, bind,
        Except.bind, pure, Except.pure, Except.map]
  | _ =>
      rw [hvalue] at hitem
      cases hitem

theorem find_child (left right : engine.Expression) (place : engine.Place) :
    engine.find (engine.child left right) place =
      engine.find left place >>= collect (engine.find right) := rfl

/-- A place with a value is a node. -/
theorem exists_node_of_valueAt {place : Place} {value : Value}
    (hvalue : valueAt place = .ok value) :
    ∃ node, place = some node ∧ node.value = value := by
  cases place with
  | none => cases hvalue
  | some node => exact ⟨node, rfl, Except.ok.inj hvalue⟩

/-- The engine follows every plain path in which no name is an operator. -/
theorem engine_follows {steps : List Segment} (hne : steps ≠ [])
    (hplain : ∀ step ∈ steps, IsPlain step) (hwords : ∀ step ∈ steps, NamesNoOperator step) :
    engine.Follows steps where
  read := by
    change parse (queryOf steps) = _
    rw [parse_queryOf hne hplain hwords, foldl_extended]
    rfl
  root document := ⟨_, rfl, .cons rfl .nil⟩
  child before link _ place places hfind := by
    rw [find_child, hfind]
    rfl
  field name place value hname hvalue := by
    obtain ⟨node, rfl, rfl⟩ := exists_node_of_valueAt hvalue
    exact finds_field hname
  index position place value item hvalue hitem := by
    obtain ⟨node, rfl, rfl⟩ := exists_node_of_valueAt hvalue
    exact finds_index hitem

end Assay.Query
