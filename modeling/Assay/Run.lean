import Assay.Assertion.Check
import Assay.Report.Timeline
import Assay.Template
import Assay.Text.Basic

/-! # Running a suite

The placeholders of the assertions and of the rules are filled from the variables of the suite,
where a variable given from outside goes before one of the same name in the suite.
-/

namespace Assay

/-- An option that is not a name, an equals sign and a value. -/
structure BadOption where
  item : String
  deriving DecidableEq

def BadOption.message (refusal : BadOption) : String :=
  s!"Expected name=value, got '{refusal.item}'"

/-- The name and the value that an item gives. The name has no blanks around it and is not empty;
the value is all that stands behind the first equals sign. -/
def readOption (item : String) : Except BadOption (String × String) :=
  match Text.cutAt '=' item.toList with
  | none => .error ⟨item⟩
  | some (name, value) =>
    if (Text.trim name).isEmpty then .error ⟨item⟩
    else .ok (String.ofList (Text.trim name), String.ofList value)

def readOptions (items : List String) : Except BadOption (Table String String) :=
  (items.mapM readOption).map Table.ofEntries

def Assertion.filled (bindings : Table String String) (assertion : Assertion) : Assertion :=
  { assertion with
    property := Template.substitute bindings assertion.property
    expected := Template.substitute bindings assertion.expected }

def Rule.filled (bindings : Table String String) (rule : Rule) : Rule :=
  { rule with path := Template.substitute bindings rule.path }

/-- The variables of a suite under those given from outside. -/
def Suite.bindingsUnder (suite : Suite) (overrides : Table String String) :
    Table String String :=
  Table.putAll suite.bindings overrides

def Suite.steps (suite : Suite) (response : Response) (overrides : Table String String) :
    Except Failure (List Step) := do
  let bindings := suite.bindingsUnder overrides
  let assertions := suite.assertions.map (Assertion.filled bindings)
  let verdicts ← evaluate assertions response
  let extracted ← extractVariables (suite.rules.map (Rule.filled bindings)) response
  return [.start, .response response, .verdicts assertions verdicts, .bindings extracted, .finish]

def Suite.run (suite : Suite) (response : Response) (overrides : Table String String)
    (runId : String) (timeline : Timeline) : Except Failure Report :=
  (suite.steps response overrides).map fun steps =>
    (Report.play (Report.opened suite runId timeline) steps).1

end Assay
