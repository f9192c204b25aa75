import Assay.Assertion.Catalog
import Assay.Proofs.Assertion.Equality

/-! # Assertions that are asked

An enabled assertion with a type and an operator that there are is a question to a response. How it
ends is whether it passes, unless its check ends the evaluation. Each type has its own part of the
response from which the answer follows.
-/

namespace Assay

open Json (Value)

variable {response : Response} {id property expected path : String}

/-- An enabled assertion with a type and an operator that there are. -/
def Assertion.asking (id : String) (subject : Subject) (operator : Operator)
    (property expected : String) : Assertion :=
  ⟨id, subject.tag, property, operator.tag, expected, some true⟩

/-- Whether an assertion passes on a response, unless its check ends the evaluation. -/
def Assertion.outcomeOn (assertion : Assertion) (response : Response) : Except Failure Bool :=
  (assertion.check response).map Verdict.passed

section

variable {subject : Subject} {operator : Operator}

@[simp] theorem isEnabled_asking :
    (Assertion.asking id subject operator property expected).isEnabled = true := rfl

@[simp] theorem subject?_asking :
    (Assertion.asking id subject operator property expected).subject? = some subject :=
  Subject.ofTag?_tag subject

@[simp] theorem operator?_asking :
    (Assertion.asking id subject operator property expected).operator? = some operator :=
  Operator.ofTag?_tag operator

@[simp] theorem property_asking :
    (Assertion.asking id subject operator property expected).property = property := rfl

@[simp] theorem expected_asking :
    (Assertion.asking id subject operator property expected).expected = expected := rfl

end

/-! ## Integers -/

variable {operator : Operator}

/-- Whether an integer stands to an expected one as an operator says. -/
def Operator.compares (operator : Operator) (actual expected : Int) : Bool :=
  match operator with
  | equals => actual = expected
  | notEquals => actual ≠ expected
  | lessThan => actual < expected
  | greaterThan => actual > expected
  | _ => false

/-- A status passes as its operator compares; an operator that compares no integers passes nothing.
-/
theorem passed_statusOutcome {actual : Int} :
    (statusOutcome (.asking id .status operator property expected) actual).passed =
      operator.compares actual (expectedInt 32 expected) := by
  rw [statusOutcome, operator?_asking]
  cases operator <;> rfl

theorem passed_timingOutcome {actual : Int}
    (hoperator : operator ∈ Subject.responseTime.operators) :
    (timingOutcome (.asking id .responseTime operator property expected) actual).passed =
      operator.compares actual (expectedInt 64 expected) := by
  rw [timingOutcome, operator?_asking]
  simp only [Subject.operators, List.mem_cons, List.not_mem_nil, or_false] at hoperator
  rcases hoperator with rfl | rfl <;> rfl

/-- A verdict that waits for the text of what was observed passes as its outcome does. -/
theorem map_passed_map_verdict {assertion : Assertion} {actual : String → String}
    {outcome : Outcome} {written : Except Failure String} :
    (written.map fun text => assertion.verdict (actual text) outcome).map Verdict.passed =
      written.map fun _ => outcome.passed := by
  cases written <;> rfl

/-- The status is written before anything is compared, so the check raises when it has too many
digits. -/
theorem outcomeOn_status :
    (Assertion.asking id .status operator property expected).outcomeOn response =
      (writtenInt response.status).map fun _ =>
        operator.compares response.status (expectedInt 32 expected) := by
  rw [Assertion.outcomeOn, check_of_enabled isEnabled_asking, subject?_asking,
    ← @passed_statusOutcome id property]
  exact map_passed_map_verdict

theorem outcomeOn_responseTime (hoperator : operator ∈ Subject.responseTime.operators) :
    (Assertion.asking id .responseTime operator property expected).outcomeOn response =
      (writtenInt response.timing).map fun _ =>
        operator.compares response.timing (expectedInt 64 expected) := by
  rw [Assertion.outcomeOn, check_of_enabled isEnabled_asking, subject?_asking,
    ← @passed_timingOutcome id property _ _ _ hoperator]
  exact map_passed_map_verdict

/-! ## Texts and nodes of the body -/

theorem outcomeOn_contains :
    (Assertion.asking id .bodyContains .contains property expected).outcomeOn response =
      .ok (holdsText expected response.body) := by
  rw [Assertion.outcomeOn, check_of_enabled isEnabled_asking, subject?_asking]
  simp [checkBodyContains, Except.map, Assertion.verdict, Outcome.of]

theorem outcomeOn_notContains :
    (Assertion.asking id .bodyContains .notContains property expected).outcomeOn response =
      .ok (!holdsText expected response.body) := by
  rw [Assertion.outcomeOn, check_of_enabled isEnabled_asking, subject?_asking]
  simp [checkBodyContains, Except.map, Assertion.verdict, Outcome.of]

/-- An assertion about a node fails where the body is no document, ends the evaluation where the
path cannot be read, and otherwise has the outcome for the node. -/
theorem outcomeOn_bodyJson :
    (Assertion.asking id .bodyJson operator path expected).outcomeOn response =
      match Json.parse response.body with
      | .error _ => .ok false
      | .ok document => match Json.resolve document path with
        | .error refusal => .error (.tooManyDigits refusal)
        | .ok node =>
          .ok (nodeOutcome (Assertion.asking id .bodyJson operator path expected) node).passed := by
  rw [Assertion.outcomeOn]
  cases hbody : Json.parse response.body with
  | error refusal =>
      simp [Assertion.check, Assertion.checkWith, Response.document?, hbody, checkBodyJson,
        Except.map, Assertion.verdict]
  | ok document =>
      rw [check_of_bodyJson isEnabled_asking subject?_asking hbody, property_asking]
      dsimp only
      cases Json.resolve document path <;> rfl

theorem passed_nodeOutcome_exists {node : Option Value} :
    (nodeOutcome (Assertion.asking id .bodyJson .exists_ path expected) node).passed =
      node.isSome := by
  simp [nodeOutcome, Outcome.of]

theorem passed_nodeOutcome_notExists {node : Option Value} :
    (nodeOutcome (Assertion.asking id .bodyJson .notExists path expected) node).passed =
      !node.isSome := by
  simp [nodeOutcome, Outcome.of]

theorem passed_nodeOutcome_equals {node : Option Value} :
    (nodeOutcome (Assertion.asking id .bodyJson .equals path expected) node).passed =
      nodeEquals node expected := by
  simp [nodeOutcome, Outcome.of]

theorem passed_nodeOutcome_notEquals {node : Option Value} :
    (nodeOutcome (Assertion.asking id .bodyJson .notEquals path expected) node).passed =
      !nodeEquals node expected := by
  simp [nodeOutcome, Outcome.of]

theorem passed_nodeOutcome_contains {node : Option Value} :
    (nodeOutcome (Assertion.asking id .bodyJson .contains path expected) node).passed =
      nodeContains node expected := by
  simp [nodeOutcome, Outcome.of]

/-! ## Headers -/

theorem outcomeOn_header_exists :
    (Assertion.asking id .headerExists .exists_ property expected).outcomeOn response =
      .ok (response.hasHeader property) := by
  rw [Assertion.outcomeOn, check_of_enabled isEnabled_asking, subject?_asking]
  simp [checkHeaderExists, Except.map, Assertion.verdict, Outcome.of]

theorem outcomeOn_header_notExists :
    (Assertion.asking id .headerExists .notExists property expected).outcomeOn response =
      .ok (!response.hasHeader property) := by
  rw [Assertion.outcomeOn, check_of_enabled isEnabled_asking, subject?_asking]
  simp [checkHeaderExists, Except.map, Assertion.verdict, Outcome.of]

/-- The value of a header that is not there is asked for in vain, whatever the operator. -/
theorem outcomeOn_headerEquals_of_absent (habsent : response.header? property = none) :
    (Assertion.asking id .headerEquals operator property expected).outcomeOn response =
      .ok false := by
  rw [Assertion.outcomeOn, check_of_enabled isEnabled_asking, subject?_asking]
  simp [checkHeaderEquals, habsent, Except.map, Assertion.verdict]

theorem outcomeOn_header_equals {value : String} (hvalue : response.header? property = some value) :
    (Assertion.asking id .headerEquals .equals property expected).outcomeOn response =
      .ok (value = expected) := by
  rw [Assertion.outcomeOn, check_of_enabled isEnabled_asking, subject?_asking]
  simp only [checkHeaderEquals, property_asking, hvalue, operator?_asking, expected_asking]
  rfl

theorem outcomeOn_header_notEquals {value : String}
    (hvalue : response.header? property = some value) :
    (Assertion.asking id .headerEquals .notEquals property expected).outcomeOn response =
      .ok (value ≠ expected) := by
  rw [Assertion.outcomeOn, check_of_enabled isEnabled_asking, subject?_asking]
  simp only [checkHeaderEquals, property_asking, hvalue, operator?_asking, expected_asking]
  rfl

end Assay
