import Assay.Assertion.Basic

/-! # Catalogue of checks

The names under which types and operators are shown, and the operators that each type has.
-/

namespace Assay

def Subject.displayName : Subject → String
  | status => "Status Code"
  | responseTime => "Response Time"
  | bodyContains => "Body Contains"
  | bodyJson => "JSON Value"
  | headerExists => "Header Exists"
  | headerEquals => "Header Value"

def Operator.displayName : Operator → String
  | equals => "equals"
  | notEquals => "not equals"
  | contains => "contains"
  | notContains => "not contains"
  | lessThan => "less than"
  | greaterThan => "greater than"
  | exists_ => "exists"
  | notExists => "not exists"
  | matches_ => "matches regex"

/-- The operators of a subject, in the order in which they are offered. -/
def Subject.operators : Subject → List Operator
  | status => [.equals, .notEquals, .lessThan, .greaterThan]
  | responseTime => [.lessThan, .greaterThan]
  | bodyContains => [.contains, .notContains, .matches_]
  | bodyJson => [.equals, .notEquals, .contains, .exists_, .notExists]
  | headerExists => [.exists_, .notExists]
  | headerEquals => [.equals, .notEquals, .contains]

/-- The name of a type that is shown; an unknown tag is shown as it is. -/
def typeDisplayName (tag : String) : String :=
  ((Subject.ofTag? tag).map Subject.displayName).getD tag

/-- The name of an operator that is shown; an unknown tag is shown as it is. -/
def operatorDisplayName (tag : String) : String :=
  ((Operator.ofTag? tag).map Operator.displayName).getD tag

/-- The operators offered for a type; an unknown type offers equality only. -/
def operatorsForType (tag : String) : List Operator :=
  ((Subject.ofTag? tag).map Subject.operators).getD [.equals]

/-- Whether the operator of an assertion is one that its type has. -/
def Assertion.isSupported (assertion : Assertion) : Bool :=
  match assertion.subject?, assertion.operator? with
  | some subject, some operator => subject.operators.contains operator
  | _, _ => false

def Assertion.fresh (id : String) : Assertion where
  id := id
  typeTag := Subject.status.tag
  expected := "200"

end Assay
