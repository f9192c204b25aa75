/-! # Queries

A query selects nodes of a document. It is built from steps that go from a node to others and
from operators that join two queries.
-/

namespace Assay.Query

/-- The bounds and the step of a slice, each of which may be left out. -/
structure Slice where
  start : Option Int
  stop : Option Int
  step : Option Int
  deriving DecidableEq

def Slice.all : Slice := ⟨none, none, none⟩

/-- How two queries are joined. -/
inductive Join where
  | child
  | descendants
  | filter
  | exclusion
  | union
  | intersection
  deriving DecidableEq

/-- How tightly an operator binds. -/
def Join.level : Join → Nat
  | descendants => 2
  | child => 3
  | union => 4
  | intersection => 5
  | filter => 6
  | exclusion => 7

/-- A query. A star among the fields stands for all fields of the node. -/
inductive Expr where
  | root
  | this
  | parent
  | fields (names : List String)
  | index (indices : List Int)
  | slice (bounds : Slice)
  | join (operator : Join) (left right : Expr)
  deriving DecidableEq

end Assay.Query
