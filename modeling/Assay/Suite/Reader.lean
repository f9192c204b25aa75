import Assay.Suite.Schema

/-! # Reading suites

A suite from its entries. Values that are not texts become their JSON text. Entries that pass the
review are read without loss, unless the stack is exhausted in the writing of a value; the others
may have no reading.
-/

namespace Assay

/-- The expected text of an assertion, which is empty when it is not there at all. -/
def Assertion.expectedOf? (fields : List (Datum × Datum)) : Option String :=
  match Datum.fieldOf? fields "expected" with
  | none => some ""
  | some value => value.rendered?

/-- The switch of an assertion, which is on when it is not there at all. -/
def Assertion.switchOf (fields : List (Datum × Datum)) : Option Bool :=
  match Datum.fieldOf? fields "enabled" with
  | none => some true
  | some switch => switch.bool?

def Assertion.ofFields? (fields : List (Datum × Datum)) : Option Assertion := do
  let field := Datum.fieldOf fields
  return {
    id := ← (field "id").text?
    typeTag := ← (field "type").text?
    property := (field "property").text?.getD ""
    operatorTag := ← (field "operator").text?
    expected := ← expectedOf? fields
    enabled := switchOf fields }

def Rule.ofFields? (fields : List (Datum × Datum)) : Option Rule := do
  let field := Datum.fieldOf fields
  return {
    source := ← (field "type").text?.bind Source.ofTag?
    path := (field "path").text?.getD ""
    target := ← (field "variable").text? }

namespace Suite

def tableOf? (entries : List (Datum × Datum)) : Option (Table String String) :=
  entries.mapM fun entry => do return (← entry.1.text?, ← entry.2.rendered?)

def ofEntries? (entries : List (Datum × Datum)) : Option Suite := do
  let field := Datum.fieldOf entries
  return {
    version := ← (field "version").int?
    name := ← (field "name").text?
    bindings := ← tableOf? ((field "variables").entries?.getD [])
    assertions := ← (← (field "assertions").items?).mapM fun entry =>
      entry.entries?.bind Assertion.ofFields?
    rules := ← ((field "extract").items?.getD []).mapM fun entry =>
      entry.entries?.bind Rule.ofFields? }

/-- The expected values of the assertions of a suite. -/
def expectedData (entries : List (Datum × Datum)) : List Datum :=
  ((Datum.fieldOf entries "assertions").items?.getD []).filterMap fun entry =>
    entry.entries?.bind fun fields => Datum.fieldOf? fields "expected"

/-- A suite from entries that have passed their review, with some room on the stack. The values of
the variables are scalars then, so that only an expected value may need more room than there is. -/
def parse (room : Nat) (entries : List (Datum × Datum)) : Except Datum.Exhausted (Option Suite) :=
  if (expectedData entries).all (Datum.fits room) then .ok (ofEntries? entries) else .error ⟨⟩

/-- A suite with the review of its entries. There is no suite when the review has errors. Values are
written one call deeper than where the review tries to write them. -/
def ofReviewed (room : Nat) (entries : List (Datum × Datum)) :
    Except Datum.Exhausted (Option Suite × Review) :=
  let found := review (room + 1) entries
  if found.isValid then (parse room entries).map fun suite => (suite, found)
  else .ok (none, found)

end Suite

end Assay
