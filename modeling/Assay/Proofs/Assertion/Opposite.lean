import Assay.Proofs.Assertion.Asked

/-! # Opposite operators

Assertions that differ in their operators only, and whose operators exclude each other, get opposite
verdicts on a response. Where there is nothing to compare, as for a header that is not there or a
body that is no document, all of them fail together.
-/

namespace Assay

open Json (Value)

variable {response : Response} {property expected : String}

/-! ## Verdicts side by side -/

/-- However they are called, enabled assertions with an operator end in the given way. -/
def Ends (response : Response) (subject : Subject) (property expected : String)
    (operator : Operator) (ending : Except Failure Bool) : Prop :=
  ∀ id, (Assertion.asking id subject operator property expected).outcomeOn response = ending

/-- No operator of a type gets a verdict, and all for the same reason. -/
def EndAlike (response : Response) (subject : Subject) (property expected : String) : Prop :=
  ∃ failure, ∀ operator ∈ subject.operators,
    Ends response subject property expected operator (.error failure)

/-- No operator passes. -/
def AllFail (response : Response) (subject : Subject) (property expected : String) : Prop :=
  ∀ operator, Ends response subject property expected operator (.ok false)

/-- Two operators get opposite verdicts. -/
def Opposed (response : Response) (subject : Subject) (property expected : String)
    (operator other : Operator) : Prop :=
  ∃ passed : Bool, Ends response subject property expected operator (.ok passed) ∧
    Ends response subject property expected other (.ok !passed)

/-- Operators that exclude each other get opposite verdicts on a response. The exceptions are those
of the evaluation as a whole: integers that are too long to be written and paths with an index that
is too long to be read. -/
structure OppositionLaws (response : Response) (property expected : String) : Prop where
  status : Number.fitsLimit response.status = false ∧
      EndAlike response .status property expected ∨
    ∃ equal less greater : Bool,
      Ends response .status property expected .equals (.ok equal) ∧
      Ends response .status property expected .notEquals (.ok !equal) ∧
      Ends response .status property expected .lessThan (.ok less) ∧
      Ends response .status property expected .greaterThan (.ok greater) ∧
      [equal, less, greater].count true = 1
  responseTime : Number.fitsLimit response.timing = false ∧
      EndAlike response .responseTime property expected ∨
    ∃ less greater : Bool,
      Ends response .responseTime property expected .lessThan (.ok less) ∧
      Ends response .responseTime property expected .greaterThan (.ok greater) ∧
      [less, greater].count true ≤ 1 ∧
      ([less, greater].count true = 0 ↔ response.timing = expectedInt 64 expected)
  body : Opposed response .bodyContains property expected .contains .notContains
  header : Opposed response .headerExists property expected .exists_ .notExists
  headerValue : response.hasHeader property = true →
    Opposed response .headerEquals property expected .equals .notEquals
  noHeaderValue : response.hasHeader property = false →
    AllFail response .headerEquals property expected
  noNode : (∃ refusal, Json.parse response.body = .error refusal) →
    AllFail response .bodyJson property expected
  node : ∀ document, Json.parse response.body = .ok document →
    (∃ refusal, Json.resolve document property = .error refusal) ∧
        EndAlike response .bodyJson property expected ∨
      ∃ found equal held : Bool,
        Ends response .bodyJson property expected .exists_ (.ok found) ∧
        Ends response .bodyJson property expected .notExists (.ok !found) ∧
        Ends response .bodyJson property expected .equals (.ok equal) ∧
        Ends response .bodyJson property expected .notEquals (.ok !equal) ∧
        Ends response .bodyJson property expected .contains (.ok held) ∧
        (equal = true ∨ held = true → found = true)

/-! ## Integers -/

/-- Of the comparisons of two integers exactly one of three holds. -/
theorem count_compares (actual expected : Int) :
    ([Operator.equals, .lessThan, .greaterThan].map fun operator =>
      operator.compares actual expected).count true = 1 := by
  simp only [List.map_cons, List.map_nil, Operator.compares, List.count_cons, List.count_nil,
    beq_true, decide_eq_true_eq]
  grind

/-- Of the strict comparisons of two integers at most one holds, and none exactly if they are
equal. -/
theorem count_strict_compares (actual expected : Int) :
    ([Operator.lessThan, .greaterThan].map fun operator =>
      operator.compares actual expected).count true ≤ 1 ∧
    (([Operator.lessThan, .greaterThan].map fun operator =>
      operator.compares actual expected).count true = 0 ↔ actual = expected) := by
  simp only [List.map_cons, List.map_nil, Operator.compares, List.count_cons, List.count_nil,
    beq_true, decide_eq_true_eq]
  grind

theorem fitsLimit_eq_false {value : Int} {failure : Failure}
    (hwritten : writtenInt value = .error failure) : Number.fitsLimit value = false := by
  rw [← Bool.not_eq_true, ← exists_writtenInt_iff, hwritten]
  simp

/-- A status code that can be written is compared, and any other one ends the evaluation. -/
theorem status_judged :
    Number.fitsLimit response.status = false ∧ EndAlike response .status property expected ∨
      ∀ operator, Ends response .status property expected operator
        (.ok (operator.compares response.status (expectedInt 32 expected))) := by
  cases hwritten : writtenInt response.status with
  | error failure =>
      refine Or.inl ⟨fitsLimit_eq_false hwritten, failure, fun operator _ id => ?_⟩
      rw [outcomeOn_status, hwritten]
      rfl
  | ok written =>
      refine Or.inr fun operator id => ?_
      rw [outcomeOn_status, hwritten]
      rfl

/-- Either the time has too many digits to be written, and the opposite checks fail alike, or each
check ends with what its operator says. -/
theorem responseTime_judged :
    Number.fitsLimit response.timing = false ∧ EndAlike response .responseTime property expected ∨
      ∀ operator ∈ Subject.responseTime.operators,
        Ends response .responseTime property expected operator
          (.ok (operator.compares response.timing (expectedInt 64 expected))) := by
  cases hwritten : writtenInt response.timing with
  | error failure =>
      refine Or.inl ⟨fitsLimit_eq_false hwritten, failure, fun operator hoperator id => ?_⟩
      rw [outcomeOn_responseTime hoperator, hwritten]
      rfl
  | ok written =>
      refine Or.inr fun operator hoperator id => ?_
      rw [outcomeOn_responseTime hoperator, hwritten]
      rfl

/-! ## Headers -/

/-- When the header is there, one of the two checks of its value passes and the other does not. -/
theorem headerValue_opposed (hpresent : response.hasHeader property = true) :
    Opposed response .headerEquals property expected .equals .notEquals := by
  obtain ⟨value, hvalue⟩ := Option.isSome_iff_exists.mp hpresent
  refine ⟨value = expected, fun id => outcomeOn_header_equals hvalue, fun id => ?_⟩
  rw [outcomeOn_header_notEquals hvalue, decide_not]

/-! ## Nodes -/

theorem isSome_of_nodeEquals {node : Option Value} (hequal : nodeEquals node expected = true) :
    node.isSome = true := by
  cases node with
  | none => exact hequal
  | some value => rfl

theorem isSome_of_nodeContains {node : Option Value} (hheld : nodeContains node expected = true) :
    node.isSome = true := by
  cases node with
  | none => exact hheld
  | some value => rfl

/-- Assertions about a node of a document end by the failure that its path is, or as the operators
judge the node. -/
theorem node_judged {document : Value} (hbody : Json.parse response.body = .ok document) :
    (∃ refusal, Json.resolve document property = .error refusal) ∧
        EndAlike response .bodyJson property expected ∨
      ∃ node : Option Value,
        Ends response .bodyJson property expected .exists_ (.ok node.isSome) ∧
        Ends response .bodyJson property expected .notExists (.ok !node.isSome) ∧
        Ends response .bodyJson property expected .equals (.ok (nodeEquals node expected)) ∧
        Ends response .bodyJson property expected .notEquals (.ok !nodeEquals node expected) ∧
        Ends response .bodyJson property expected .contains (.ok (nodeContains node expected)) := by
  cases hresolve : Json.resolve document property with
  | error refusal =>
      refine Or.inl ⟨⟨refusal, rfl⟩, .tooManyDigits refusal, fun operator _ id => ?_⟩
      rw [outcomeOn_bodyJson, hbody]
      simp only [hresolve]
  | ok node =>
      right
      refine ⟨node, ?_⟩
      simp only [Ends, outcomeOn_bodyJson, hbody, hresolve, passed_nodeOutcome_exists,
        passed_nodeOutcome_notExists, passed_nodeOutcome_equals, passed_nodeOutcome_notEquals,
        passed_nodeOutcome_contains, implies_true, and_self]

/-! ## Opposition -/

/-- Operators that exclude each other get opposite verdicts on every response, whatever is asked and
expected. -/
theorem opposite_operators_disagree (response : Response) (property expected : String) :
    OppositionLaws response property expected where
  status := by
    refine status_judged.imp id fun hends => ?_
    refine ⟨_, _, _, hends .equals, ?_, hends .lessThan, hends .greaterThan, count_compares _ _⟩
    simpa only [Operator.compares, decide_not] using hends .notEquals
  responseTime := by
    refine responseTime_judged.imp id fun hends => ?_
    obtain ⟨hmost, hneither⟩ := count_strict_compares response.timing (expectedInt 64 expected)
    exact ⟨_, _, hends .lessThan (by decide), hends .greaterThan (by decide), hmost, hneither⟩
  body := ⟨_, fun _ => outcomeOn_contains, fun _ => outcomeOn_notContains⟩
  header := ⟨_, fun _ => outcomeOn_header_exists, fun _ => outcomeOn_header_notExists⟩
  headerValue := headerValue_opposed
  noHeaderValue habsent _ _ :=
    outcomeOn_headerEquals_of_absent
      (Option.isNone_iff_eq_none.mp (Option.isSome_eq_false_iff.mp habsent))
  noNode := by
    rintro ⟨refusal, hbody⟩ operator id
    rw [outcomeOn_bodyJson, hbody]
  node := by
    intro document hbody
    refine (node_judged hbody).imp id ?_
    rintro ⟨node, hexists, hnotExists, hequals, hnotEquals, hcontains⟩
    refine ⟨_, _, _, hexists, hnotExists, hequals, hnotEquals, hcontains, ?_⟩
    rintro (hequal | hheld)
    · exact isSome_of_nodeEquals hequal
    · exact isSome_of_nodeContains hheld

/-- On a null in a body, with an expected text that is no document, all five operators get verdicts
of which no two contradict each other, and the value of a header that is not there gets none that
passes. -/
theorem operators_disagree_on_null :
    ((∃ refusal, Json.resolve (.object [("a", .null)]) "a" = .error refusal) ∧
        EndAlike ⟨200, [], "\x7b\"a\":null\x7d", 0⟩ .bodyJson "a" "nul" ∨
      ∃ found equal held : Bool,
        Ends ⟨200, [], "\x7b\"a\":null\x7d", 0⟩ .bodyJson "a" "nul" .exists_ (.ok found) ∧
        Ends ⟨200, [], "\x7b\"a\":null\x7d", 0⟩ .bodyJson "a" "nul" .notExists (.ok !found) ∧
        Ends ⟨200, [], "\x7b\"a\":null\x7d", 0⟩ .bodyJson "a" "nul" .equals (.ok equal) ∧
        Ends ⟨200, [], "\x7b\"a\":null\x7d", 0⟩ .bodyJson "a" "nul" .notEquals (.ok !equal) ∧
        Ends ⟨200, [], "\x7b\"a\":null\x7d", 0⟩ .bodyJson "a" "nul" .contains (.ok held) ∧
        (equal = true ∨ held = true → found = true)) ∧
    AllFail ⟨200, [], "\x7b\"a\":null\x7d", 0⟩ .headerEquals "a" "nul" := by
  have hbody : Json.parse "\x7b\"a\":null\x7d" = .ok (.object [("a", .null)]) := by cbv
  have hlaws := opposite_operators_disagree ⟨200, [], "\x7b\"a\":null\x7d", 0⟩ "a" "nul"
  exact ⟨hlaws.node _ hbody, hlaws.noHeaderValue rfl⟩

end Assay
