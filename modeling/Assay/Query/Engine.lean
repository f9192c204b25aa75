import Assay.Query.Search

/-! # Query engines

What is asked of an engine for queries: to read a query, and to find the places to which a query
leads. A query is made of others, the simplest of which lead to the document itself, to a member
and to an item.
-/

namespace Assay.Query

open Json (Value)

/-- An engine for queries. Its places are values with whatever it remembers of the way to them. -/
structure Engine where
  Expression : Type
  Place : Type
  read : String → Except Refusal Expression
  start : Value → Place
  find : Expression → Place → Except Failure (List Place)
  value : Place → Except Failure Value
  root : Expression
  field : String → Expression
  index : Nat → Expression
  child : Expression → Expression → Expression

/-- The value of a node. There is none above the root. -/
def valueAt : Place → Except Failure Value
  | some node => .ok node.value
  | none => .error .noParent

/-- The engine that reads and searches as described here. -/
def engine : Engine where
  Expression := Expr
  Place := Place
  read := parse
  start document := some ⟨document, []⟩
  find := Expr.find
  value := valueAt
  root := .root
  field name := .fields [name]
  index position := .index [(position : Int)]
  child := .join .child

def Engine.first? (engine : Engine) (query : engine.Expression) (document : Value) :
    Except Failure (Option Value) := do
  match ← engine.find query (engine.start document) with
  | [] => return none
  | place :: _ => return some (← engine.value place)

end Assay.Query
