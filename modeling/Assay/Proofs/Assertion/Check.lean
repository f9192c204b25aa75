import Assay.Assertion.Check
import Assay.Proofs.Json.Overlong
import Assay.Proofs.Traversal

/-! # Evaluation

An evaluation gives one verdict for each assertion, in order, under the id of the assertion. It
fails as a whole only where some enabled assertion strains what can be read or written.
-/

namespace Assay

variable {assertion : Assertion} {response : Response}

/-- An assertion asks of a response for more than can be read or written: for the text of an
integer of too many digits, for a pattern that is refused for another reason than its grammar, or
for an item by an index of too many digits. -/
def Assertion.Strains (assertion : Assertion) (response : Response) : Prop :=
  match assertion.subject? with
  | some .status => Number.fitsLimit response.status = false
  | some .responseTime => Number.fitsLimit response.timing = false
  | some .bodyContains => assertion.operator? = some .matches_ ∧
      ∃ refusal, Pattern.compile assertion.expected = .error refusal ∧ refusal ≠ .malformed
  | some .bodyJson => ∃ document, Json.parse response.body = .ok document ∧
      Json.ReachesOverlongIndex document (Json.segments assertion.property)
  | some .headerExists | some .headerEquals | none => False

/-! ## When a check gives a verdict -/

theorem exists_map_ok_iff {α β ε : Type} {result : Except ε α} {f : α → β} :
    (∃ image, result.map f = .ok image) ↔ ∃ value, result = .ok value := by
  cases result <;> simp [Except.map]

theorem exists_writtenInt_iff {value : Int} :
    (∃ written, writtenInt value = .ok written) ↔ Number.fitsLimit value = true := by
  unfold writtenInt
  split <;> simp_all

theorem ofPattern?_eq_none_iff {refusal : Pattern.Refusal} :
    Failure.ofPattern? refusal = none ↔ refusal = .malformed := by
  cases refusal <;> simp [Failure.ofPattern?]

/-- Only a pattern can keep the text of a body from being checked, and a malformed one does not. -/
theorem exists_checkBodyContains_iff :
    (∃ verdict, checkBodyContains assertion response = .ok verdict) ↔
      (assertion.operator? = some .matches_ →
        ∀ refusal, Pattern.compile assertion.expected = .error refusal → refusal = .malformed) := by
  by_cases hoperator : assertion.operator? = some .matches_
  · simp only [checkBodyContains, hoperator, true_imp_iff]
    cases hcompile : Pattern.compile assertion.expected with
    | ok program => simp
    | error refusal =>
        simp only [Except.error.injEq, forall_eq', ← ofPattern?_eq_none_iff]
        cases Failure.ofPattern? refusal <;> simp
  · unfold checkBodyContains
    split <;> simp_all

/-- Only an index with more digits than are converted keeps the check of a body from its verdict. -/
theorem exists_checkBodyJson_iff :
    (∃ verdict, checkBodyJson assertion response.document? = .ok verdict) ↔
      ∀ document, Json.parse response.body = .ok document →
        ¬ Json.ReachesOverlongIndex document (Json.segments assertion.property) := by
  unfold checkBodyJson Response.document?
  cases Json.parse response.body with
  | error refusal => simp
  | ok document =>
      simp only [Except.ok.injEq, forall_eq', ← Json.exists_resolve_iff]
      cases Json.resolve document assertion.property <;> simp

/-- An enabled assertion is put to the check of its subject, and a check of a node reads the body
itself. -/
theorem check_of_enabled (henabled : assertion.isEnabled = true) :
    assertion.check response =
      match assertion.subject? with
      | some .status => checkStatus assertion response
      | some .responseTime => checkResponseTime assertion response
      | some .bodyContains => checkBodyContains assertion response
      | some .bodyJson => checkBodyJson assertion response.document?
      | some .headerExists => .ok (checkHeaderExists assertion response)
      | some .headerEquals => .ok (checkHeaderEquals assertion response)
      | none => .ok <|
          assertion.verdict "" ⟨false, s!"Unknown assertion type: {assertion.typeTag}"⟩ := by
  rw [Assertion.check, Assertion.checkWith, henabled]
  rfl

theorem check_of_disabled (hdisabled : assertion.isEnabled = false) :
    assertion.check response = .ok ⟨assertion.id, true, "", "Skipped (disabled)"⟩ := by
  rw [Assertion.check, Assertion.checkWith, hdisabled]
  rfl

/-- An assertion has a verdict unless it is enabled and strains. -/
theorem exists_check_iff :
    (∃ verdict, assertion.check response = .ok verdict) ↔
      ¬ (assertion.isEnabled = true ∧ assertion.Strains response) := by
  unfold Assertion.check Assertion.checkWith Assertion.Strains
  cases assertion.isEnabled with
  | false => simp
  | true =>
      simp only [Bool.not_true, Bool.false_eq_true, if_false, true_and]
      rcases assertion.subject? with _ | _ | _ | _ | _ | _ | _
      -- headers and unknown types are checked without reading or writing anything long
      case some.status => simp [checkStatus, exists_map_ok_iff, exists_writtenInt_iff]
      case some.responseTime => simp [checkResponseTime, exists_map_ok_iff, exists_writtenInt_iff]
      case some.bodyContains => simp [exists_checkBodyContains_iff]
      case some.bodyJson => simp [exists_checkBodyJson_iff]
      all_goals simp

/-! ## What a verdict says -/

/-- What the verdict on an assertion says that is not enabled. -/
def skippedMessage : String := "Skipped (disabled)"

/-- A sentence has a letter that is not in the one about a skipped assertion. -/
def Telling (message : String) : Prop := 't' ∈ message.toList ∨ 'q' ∈ message.toList

instance : DecidablePred Telling := fun message =>
  inferInstanceAs (Decidable ('t' ∈ message.toList ∨ 'q' ∈ message.toList))

theorem Telling.ne_skippedMessage {message : String} (htelling : Telling message) :
    message ≠ skippedMessage := by
  rintro rfl
  exact absurd htelling (by decide)

@[simp] theorem telling_append {first second : String} :
    Telling (first ++ second) ↔ Telling first ∨ Telling second := by
  simp only [Telling, String.toList_append, List.mem_append]
  tauto

@[simp] theorem telling_of {passed : Bool} {success failure : String}
    (hsuccess : Telling success) (hfailure : Telling failure) :
    Telling (Outcome.of passed success failure).message := by
  cases passed
  · exact hfailure
  · exact hsuccess

@[simp] theorem telling_unknownOperator :
    Telling (Outcome.unknownOperator assertion).message := by
  simp +decide [Outcome.unknownOperator, toString]

theorem telling_statusOutcome {actual : Int} :
    Telling (statusOutcome assertion actual).message := by
  unfold statusOutcome
  split <;> simp +decide [toString]

theorem telling_timingOutcome {actual : Int} :
    Telling (timingOutcome assertion actual).message := by
  unfold timingOutcome
  split <;> simp +decide [toString]

theorem telling_nodeOutcome {node : Option Json.Value} :
    Telling (nodeOutcome assertion node).message := by
  unfold nodeOutcome
  split <;> simp +decide [toString]

/-- A verdict that a check gives: under the id of the assertion, with a telling sentence. -/
def Assertion.Tells (assertion : Assertion) (verdict : Verdict) : Prop :=
  verdict.id = assertion.id ∧ Telling verdict.message

theorem tells_verdict {actual : String} {outcome : Outcome} (htelling : Telling outcome.message) :
    assertion.Tells (assertion.verdict actual outcome) :=
  ⟨rfl, htelling⟩

theorem tells_of_map {result : Except Failure String} {f : String → Verdict} {verdict : Verdict}
    (htells : ∀ written, assertion.Tells (f written)) (hverdict : result.map f = .ok verdict) :
    assertion.Tells verdict := by
  cases result with
  | error failure => cases hverdict
  | ok written =>
      cases hverdict
      exact htells written

theorem tells_of_checkBodyContains {verdict : Verdict}
    (hverdict : checkBodyContains assertion response = .ok verdict) : assertion.Tells verdict := by
  unfold checkBodyContains at hverdict
  split at hverdict
  case h_3 =>
    -- a pattern is looked for, is called invalid, or ends the evaluation and gives no verdict
    dsimp only at hverdict
    split at hverdict
    · cases hverdict
      exact tells_verdict (by simp +decide [toString])
    · split at hverdict
      · cases hverdict
      · cases hverdict
        exact tells_verdict (by simp +decide [toString])
  all_goals
    cases hverdict
    exact tells_verdict (by simp +decide [toString])

theorem tells_of_checkBodyJson {document : Option Json.Value} {verdict : Verdict}
    (hverdict : checkBodyJson assertion document = .ok verdict) : assertion.Tells verdict := by
  unfold checkBodyJson at hverdict
  split at hverdict
  · cases hverdict
    exact tells_verdict (by decide)
  · split at hverdict
    · cases hverdict
    · cases hverdict
      exact tells_verdict telling_nodeOutcome

theorem tells_checkHeaderExists : assertion.Tells (checkHeaderExists assertion response) := by
  refine tells_verdict ?_
  split <;> simp +decide [toString]

theorem tells_checkHeaderEquals : assertion.Tells (checkHeaderEquals assertion response) := by
  simp only [checkHeaderEquals]
  split
  next => exact tells_verdict (by simp +decide [toString])
  next =>
    refine tells_verdict ?_
    split <;> simp +decide [toString]

/-- An assertion that is not enabled is skipped, and any other one gets a verdict that tells. -/
theorem eq_ok_of_check {verdict : Verdict} (hverdict : assertion.check response = .ok verdict) :
    assertion.isEnabled = false ∧ verdict = ⟨assertion.id, true, "", skippedMessage⟩ ∨
      assertion.isEnabled = true ∧ assertion.Tells verdict := by
  unfold Assertion.check Assertion.checkWith at hverdict
  cases henabled : assertion.isEnabled with
  | false =>
      simp only [henabled, Bool.not_false, if_true, Except.ok.injEq] at hverdict
      exact Or.inl ⟨rfl, hverdict.symm⟩
  | true =>
      simp only [henabled, Bool.not_true, Bool.false_eq_true, if_false] at hverdict
      refine Or.inr ⟨rfl, ?_⟩
      rcases hsubject : assertion.subject? with _ | _ | _ | _ | _ | _ | _ <;>
        rw [hsubject] at hverdict
      case none =>
        cases hverdict
        exact tells_verdict (by simp +decide [toString])
      case some.status => exact tells_of_map (fun _ => tells_verdict telling_statusOutcome) hverdict
      case some.responseTime =>
        exact tells_of_map (fun _ => tells_verdict telling_timingOutcome) hverdict
      case some.bodyContains => exact tells_of_checkBodyContains hverdict
      case some.bodyJson => exact tells_of_checkBodyJson hverdict
      case some.headerExists =>
        cases hverdict
        exact tells_checkHeaderExists
      case some.headerEquals =>
        cases hverdict
        exact tells_checkHeaderEquals

theorem id_of_check {verdict : Verdict} (hverdict : assertion.check response = .ok verdict) :
    verdict.id = assertion.id := by
  rcases eq_ok_of_check hverdict with ⟨-, rfl⟩ | ⟨-, htells⟩
  · rfl
  · exact htells.1

/-- The sentence about skipped assertions stands in the verdicts on those that are not enabled
and in no other. -/
theorem message_eq_skipped_iff {verdict : Verdict}
    (hverdict : assertion.check response = .ok verdict) :
    verdict.message = skippedMessage ↔ assertion.isEnabled = false := by
  rcases eq_ok_of_check hverdict with ⟨hdisabled, rfl⟩ | ⟨henabled, htells⟩
  · simp [hdisabled]
  · simp [henabled, htells.2.ne_skippedMessage]

/-! ## All assertions of a list -/

/-- What was read of a body before a check is what the check would read. -/
theorem checkWith_read :
    assertion.checkWith response (.read response.document?) = assertion.check response := by
  simp only [Assertion.check, Assertion.checkWith, SharedBody.document?_read,
    SharedBody.document?_unread]

/-- Assertions that share what was read of a body get the verdicts that they get alone. -/
theorem evaluate_eq_mapM (assertions : List Assertion) (response : Response) :
    evaluate assertions response = assertions.mapM fun assertion => assertion.check response := by
  simp only [evaluate, checkWith_read]

/-- An evaluation succeeds when every check does, and its verdicts stand in the order of the
assertions. -/
theorem evaluate_eq_ok_iff {assertions : List Assertion} {verdicts : List Verdict} :
    evaluate assertions response = .ok verdicts ↔
      List.Forall₂ (fun assertion verdict => assertion.check response = .ok verdict)
        assertions verdicts := by
  rw [evaluate_eq_mapM]
  exact mapM_eq_ok_iff

/-- An evaluation gives verdicts unless some enabled assertion strains. -/
theorem exists_evaluate_iff {assertions : List Assertion} :
    (∃ verdicts, evaluate assertions response = .ok verdicts) ↔
      ¬ ∃ assertion ∈ assertions, assertion.isEnabled = true ∧ assertion.Strains response := by
  simp only [evaluate_eq_ok_iff, exists_forall₂_iff, exists_check_iff, not_exists, not_and]

/-- The verdicts of an evaluation carry the ids of the assertions, in order. -/
theorem ids_of_evaluate {assertions : List Assertion} {verdicts : List Verdict}
    (hverdicts : evaluate assertions response = .ok verdicts) :
    verdicts.map Verdict.id = assertions.map Assertion.id :=
  map_eq_of_forall₂ (evaluate_eq_ok_iff.mp hverdicts) fun _ _ => id_of_check

end Assay
