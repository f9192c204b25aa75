/-! # Assertions

A check that a response is put to. Its type and its operator are given by tags; a tag that names
no type or no operator is kept as it is, and the check then fails.
-/

namespace Assay

/-- What an assertion looks at. -/
inductive Subject where
  | status
  | responseTime
  | bodyContains
  | bodyJson
  | headerExists
  | headerEquals
  deriving DecidableEq

/-- All subjects, in the order in which they are listed to a user. -/
def Subject.all : List Subject :=
  [status, responseTime, bodyContains, bodyJson, headerExists, headerEquals]

def Subject.tag : Subject → String
  | status => "status"
  | responseTime => "responseTime"
  | bodyContains => "bodyContains"
  | bodyJson => "bodyJson"
  | headerExists => "headerExists"
  | headerEquals => "headerEquals"

def Subject.ofTag? (tag : String) : Option Subject := all.find? fun subject => subject.tag = tag

/-- How an assertion compares. -/
inductive Operator where
  | equals
  | notEquals
  | contains
  | notContains
  | lessThan
  | greaterThan
  | exists_
  | notExists
  | matches_
  deriving DecidableEq

def Operator.all : List Operator :=
  [equals, notEquals, contains, notContains, lessThan, greaterThan, exists_, notExists, matches_]

def Operator.tag : Operator → String
  | equals => "equals"
  | notEquals => "notEquals"
  | contains => "contains"
  | notContains => "notContains"
  | lessThan => "lessThan"
  | greaterThan => "greaterThan"
  | exists_ => "exists"
  | notExists => "notExists"
  | matches_ => "matches"

def Operator.ofTag? (tag : String) : Option Operator :=
  all.find? fun operator => operator.tag = tag

@[simp] theorem Subject.ofTag?_tag (subject : Subject) :
    Subject.ofTag? subject.tag = some subject := by
  cases subject <;> decide

@[simp] theorem Operator.ofTag?_tag (operator : Operator) :
    Operator.ofTag? operator.tag = some operator := by
  cases operator <;> decide

/-- What stands for a tag that names nothing. -/
def unknownTag : String := "unknown"

/-- A check on a response. The property is a path or a header name, and the expected value is
text that each type reads in its own way. -/
structure Assertion where
  id : String
  typeTag : String
  property : String := ""
  operatorTag : String := "equals"
  expected : String := ""
  /-- Whether the check is to be made. A suite may leave this empty. -/
  enabled : Option Bool := some true
  deriving DecidableEq

/-- Whether the check is made: only when the assertion says so. -/
def Assertion.isEnabled (assertion : Assertion) : Bool := assertion.enabled = some true

/-- What the assertion looks at, if its tag says so. -/
def Assertion.subject? (assertion : Assertion) : Option Subject :=
  Subject.ofTag? assertion.typeTag

/-- How the assertion compares, if its tag says so. -/
def Assertion.operator? (assertion : Assertion) : Option Operator :=
  Operator.ofTag? assertion.operatorTag

end Assay
