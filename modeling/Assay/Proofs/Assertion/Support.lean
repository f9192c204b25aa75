import Assay.Assertion.Catalog
import Assay.Proofs.Assertion.Check
import Assay.Proofs.Suite.Faithful

/-! # Supported operators

The catalogue lists for each type the operators that its check knows. With any other operator the
check fails, and with one of these its sentence is never that of an unknown type or operator,
whatever names and texts the assertion brings into it. The sentence about a body that is no
document is kept apart in the same way.
-/

namespace Assay

variable {assertion : Assertion} {response : Response} {verdict : Verdict}

/-! ## Sentences set apart -/

def unreadableMessage : String := "Response body is not valid JSON"

/-- How the sentences about unknown types and unknown operators open. -/
def unknownOpening : String := "Unknown "

/-- How the sentence about a body that is no document opens. -/
def unreadableOpening : String := "Response body "

/-- What stands between a path and an expected text in a sentence that opens with a path. -/
def nodePhrases : List String :=
  [" equals ", " does not equal ", " contains \"", " does not contain \""]

/-- A sentence is told apart from those with given openings, by its own opening or by a phrase about
nodes in it. -/
def SetApart (openings : List String) (message : String) : Prop :=
  (∀ opening ∈ openings,
      ¬ (opening.toList <+: message.toList ∨ message.toList <+: opening.toList)) ∨
    ∃ phrase ∈ nodePhrases, phrase.toList <:+: message.toList

instance (openings : List String) : DecidablePred (SetApart openings) := fun message =>
  inferInstanceAs (Decidable ((∀ opening ∈ openings,
      ¬ (opening.toList <+: message.toList ∨ message.toList <+: opening.toList)) ∨
    ∃ phrase ∈ nodePhrases, phrase.toList <:+: message.toList))

section

variable {openings : List String}

theorem SetApart.of_subset {others : List String} {message : String}
    (hapart : SetApart openings message) (hsubset : others ⊆ openings) :
    SetApart others message := by
  rcases hapart with hopening | hphrase
  · exact Or.inl fun opening hmem => hopening opening (hsubset hmem)
  · exact Or.inr hphrase

/-- What comes behind does not change by what a sentence is told apart. -/
theorem SetApart.append {first : String} (hfirst : SetApart openings first) (second : String) :
    SetApart openings (first ++ second) := by
  rw [SetApart, String.toList_append]
  rcases hfirst with hopening | ⟨phrase, hphrase, hinfix⟩
  · left
    rintro opening hmem (hlong | hshort)
    · exact hopening opening hmem (List.prefix_or_prefix_of_prefix hlong (List.prefix_append _ _))
    · exact hopening opening hmem (Or.inr ((List.prefix_append _ _).trans hshort))
  · exact Or.inr ⟨phrase, hphrase, hinfix.trans (List.infix_append [] _ _)⟩

/-- A sentence is told apart by its fixed opening, whatever is brought into it behind that. -/
theorem setApart_of_opening (opening : String) (parts : List String)
    (hopening : SetApart openings opening) :
    SetApart openings (parts.foldl (· ++ ·) opening) := by
  induction parts generalizing opening with
  | nil => exact hopening
  | cons part rest ih => exact ih (opening ++ part) (hopening.append part)

theorem setApart_of_phrase {phrase before : String} (hphrase : phrase ∈ nodePhrases)
    (behind : String) : SetApart openings (before ++ phrase ++ behind) := by
  refine Or.inr ⟨phrase, hphrase, before.toList, behind.toList, ?_⟩
  simp only [String.toList_append]

theorem setApart_of {passed : Bool} {success failure : String}
    (hsuccess : SetApart openings success) (hfailure : SetApart openings failure) :
    SetApart openings (Outcome.of passed success failure).message := by
  cases passed
  · exact hfailure
  · exact hsuccess

end

/-- The sentences about unknown types and operators are not set apart from each other. -/
theorem SetApart.ne_unknown {message : String} (hapart : SetApart [unknownOpening] message)
    (subject : Subject) (operator : Operator) :
    message ≠ s!"Unknown assertion type: {subject.tag}" ∧
      message ≠ s!"Unknown operator: {operator.tag}" := by
  constructor
  · rintro rfl
    revert hapart
    cases subject <;> decide
  · rintro rfl
    revert hapart
    cases operator <;> decide

theorem SetApart.ne_unreadable {message : String} (hapart : SetApart [unreadableOpening] message) :
    message ≠ unreadableMessage := by
  rintro rfl
  exact absurd hapart (by decide)

/-! ## Outcomes -/

/-- An outcome is what the catalogue promises for a type: it is a failure unless the operator is
one of the type, and for such an operator its sentence is not about anything unknown. -/
structure Outcome.Keeps (outcome : Outcome) (subject : Subject) (assertion : Assertion) : Prop where
  failed : (∀ operator ∈ subject.operators, assertion.operator? ≠ some operator) →
    outcome.passed = false
  known : ∀ operator ∈ subject.operators, assertion.operator? = some operator →
    SetApart [unknownOpening] outcome.message
  readable : SetApart [unreadableOpening] outcome.message

/-- An outcome with an operator of the type keeps to the promise if its sentence is set apart. -/
theorem keeps_of_known {subject : Subject} {operator : Operator} {outcome : Outcome}
    (hoperator : assertion.operator? = some operator) (hmem : operator ∈ subject.operators)
    (hapart : SetApart [unknownOpening, unreadableOpening] outcome.message) :
    outcome.Keeps subject assertion where
  failed hnone := absurd hoperator (hnone operator hmem)
  known _ _ _ := hapart.of_subset (by simp)
  readable := hapart.of_subset (by simp)

/-- An outcome with an operator of the type keeps to the promise if its two sentences have fixed
openings that are set apart. -/
theorem keeps_of_openings {subject : Subject} {operator : Operator} {passed : Bool}
    (success : String) (successParts : List String) (failure : String) (failureParts : List String)
    (hoperator : assertion.operator? = some operator) (hmem : operator ∈ subject.operators)
    (hsuccess : SetApart [unknownOpening, unreadableOpening] success)
    (hfailure : SetApart [unknownOpening, unreadableOpening] failure) :
    (Outcome.of passed (successParts.foldl (· ++ ·) success)
      (failureParts.foldl (· ++ ·) failure)).Keeps subject assertion :=
  keeps_of_known hoperator hmem (setApart_of (setApart_of_opening success successParts hsuccess)
    (setApart_of_opening failure failureParts hfailure))

/-- The outcome for an unknown operator keeps to the promise by failing. -/
theorem keeps_unknownOperator {subject : Subject}
    (hnone : ∀ operator ∈ subject.operators, assertion.operator? ≠ some operator) :
    (Outcome.unknownOperator assertion).Keeps subject assertion where
  failed _ := rfl
  known operator hmem hoperator := absurd hoperator (hnone operator hmem)
  readable := setApart_of_opening "Unknown operator: " [_] (by decide)

/-- A failure with a sentence that is set apart keeps to the promise, whatever the operator. -/
theorem keeps_failure {subject : Subject} {message : String}
    (hapart : SetApart [unknownOpening, unreadableOpening] message) :
    Outcome.Keeps ⟨false, message⟩ subject assertion where
  failed _ := rfl
  known _ _ _ := hapart.of_subset (by simp)
  readable := hapart.of_subset (by simp)

theorem keeps_statusOutcome {actual : Int} :
    (statusOutcome assertion actual).Keeps .status assertion := by
  unfold statusOutcome
  split
  case h_1 hoperator =>
    exact keeps_of_openings "Status code is " [_] "Expected " [_, _, _] hoperator
      (by decide) (by decide) (by decide)
  case h_2 hoperator =>
    exact keeps_of_openings "Status code is not " [_] "Expected not " [_, _, _] hoperator
      (by decide) (by decide) (by decide)
  case h_3 hoperator =>
    exact keeps_of_openings "Status code " [_, _, _] "Expected < " [_, _, _] hoperator
      (by decide) (by decide) (by decide)
  case h_4 hoperator =>
    exact keeps_of_openings "Status code " [_, _, _] "Expected > " [_, _, _] hoperator
      (by decide) (by decide) (by decide)
  case h_5 => exact keeps_unknownOperator (by simp_all [Subject.operators])

theorem keeps_timingOutcome {actual : Int} :
    (timingOutcome assertion actual).Keeps .responseTime assertion := by
  unfold timingOutcome
  split
  case h_1 hoperator =>
    exact keeps_of_openings "Response time " [_, _, _, _] "Expected < " [_, _, _, _] hoperator
      (by decide) (by decide) (by decide)
  case h_2 hoperator =>
    exact keeps_of_openings "Response time " [_, _, _, _] "Expected > " [_, _, _, _] hoperator
      (by decide) (by decide) (by decide)
  case h_3 => exact keeps_unknownOperator (by simp_all [Subject.operators])

/-- Some sentences about a node open with the path of the node, so they are set apart by what stands
behind it. -/
theorem keeps_nodeOutcome {node : Option Json.Value} :
    (nodeOutcome assertion node).Keeps .bodyJson assertion := by
  unfold nodeOutcome
  split
  case h_1 hoperator =>
    exact keeps_of_openings "Property \"" [_, _] "Property \"" [_, _] hoperator
      (by decide) (by decide) (by decide)
  case h_2 hoperator =>
    exact keeps_of_openings "Property \"" [_, _] "Property \"" [_, _] hoperator
      (by decide) (by decide) (by decide)
  case h_3 hoperator =>
    exact keeps_of_known hoperator (by decide) (setApart_of (setApart_of_phrase (by decide) _)
      (setApart_of_opening "Expected " [_, _, _] (by decide)))
  case h_4 hoperator =>
    exact keeps_of_known hoperator (by decide) (setApart_of (setApart_of_phrase (by decide) _)
      (setApart_of_opening "Expected not " [_, _, _] (by decide)))
  case h_5 hoperator =>
    refine keeps_of_known hoperator (by decide) (setApart_of ?_ ?_)
    · exact (setApart_of_phrase (by decide) _).append _
    · exact (setApart_of_phrase (by decide) _).append _
  case h_6 => exact keeps_unknownOperator (by simp_all [Subject.operators])

/-! ## Verdicts -/

def Verdict.outcome (verdict : Verdict) : Outcome := ⟨verdict.passed, verdict.message⟩

@[simp] theorem outcome_verdict {actual : String} {outcome : Outcome} :
    (assertion.verdict actual outcome).outcome = outcome := rfl

theorem keeps_of_map {subject : Subject} {result : Except Failure String}
    {actual : String → String} {outcome : Outcome} (hkeeps : outcome.Keeps subject assertion)
    (hverdict : (result.map fun written => assertion.verdict (actual written) outcome) =
      .ok verdict) : verdict.outcome.Keeps subject assertion := by
  cases result with
  | error failure => cases hverdict
  | ok written =>
      cases hverdict
      exact hkeeps

theorem keeps_of_checkBodyContains
    (hverdict : checkBodyContains assertion response = .ok verdict) :
    verdict.outcome.Keeps .bodyContains assertion := by
  unfold checkBodyContains at hverdict
  split at hverdict
  case h_1 hoperator =>
    cases hverdict
    exact keeps_of_openings "Body contains \"" [_, _] "Body does not contain \"" [_, _] hoperator
      (by decide) (by decide) (by decide)
  case h_2 hoperator =>
    cases hverdict
    exact keeps_of_openings "Body does not contain \"" [_, _] "Body contains \"" [_, _] hoperator
      (by decide) (by decide) (by decide)
  case h_3 hoperator =>
    -- a pattern is looked for, is called invalid, or ends the evaluation and gives no verdict
    dsimp only at hverdict
    split at hverdict
    · cases hverdict
      exact keeps_of_openings "Body matches pattern \"" [_, _] "Body does not match pattern \""
        [_, _] hoperator (by decide) (by decide) (by decide)
    · split at hverdict
      · cases hverdict
      · cases hverdict
        exact keeps_failure (setApart_of_opening "Invalid regex pattern: " [_] (by decide))
  case h_4 =>
    cases hverdict
    exact keeps_unknownOperator (by simp_all [Subject.operators])

/-- Once the body is a document, its check keeps to the promise. -/
theorem keeps_of_checkBodyJson {document : Json.Value}
    (hverdict : checkBodyJson assertion (some document) = .ok verdict) :
    verdict.outcome.Keeps .bodyJson assertion := by
  unfold checkBodyJson at hverdict
  split at hverdict
  next hnone => cases hnone
  next =>
    split at hverdict
    · cases hverdict
    · cases hverdict
      exact keeps_nodeOutcome

theorem keeps_checkHeaderExists :
    (checkHeaderExists assertion response).outcome.Keeps .headerExists assertion := by
  simp only [checkHeaderExists, outcome_verdict]
  split
  case h_1 hoperator =>
    exact keeps_of_openings "Header \"" [_, _] "Header \"" [_, _] hoperator
      (by decide) (by decide) (by decide)
  case h_2 hoperator =>
    exact keeps_of_openings "Header \"" [_, _] "Header \"" [_, _] hoperator
      (by decide) (by decide) (by decide)
  case h_3 => exact keeps_unknownOperator (by simp_all [Subject.operators])

theorem keeps_checkHeaderEquals :
    (checkHeaderEquals assertion response).outcome.Keeps .headerEquals assertion := by
  simp only [checkHeaderEquals]
  split
  next =>
    exact keeps_failure (setApart_of_opening "Header \"" [_, _] (by decide))
  next value hvalue =>
    simp only [outcome_verdict]
    split
    case h_1 hoperator =>
      exact keeps_of_openings "Header \"" [_, _, _, _] "Expected \"" [_, _, _, _] hoperator
        (by decide) (by decide) (by decide)
    case h_2 hoperator =>
      exact keeps_of_openings "Header \"" [_, _, _, _] "Expected not \"" [_, _, _, _] hoperator
        (by decide) (by decide) (by decide)
    case h_3 hoperator =>
      exact keeps_of_openings "Header \"" [_, _, _, _] "Header does not contain \"" [_, _] hoperator
        (by decide) (by decide) (by decide)
    case h_4 => exact keeps_unknownOperator (by simp_all [Subject.operators])

/-- A verdict on an enabled assertion is what the catalogue promises for the type, unless there is
no such type, or the check would look into a body that is no document. -/
theorem keeps_of_check (henabled : assertion.isEnabled = true)
    (hverdict : assertion.check response = .ok verdict) :
    (assertion.subject? = none ∧
        verdict.outcome = ⟨false, s!"Unknown assertion type: {assertion.typeTag}"⟩) ∨
      (assertion.subject? = some .bodyJson ∧ response.document? = none ∧
        verdict.outcome = ⟨false, unreadableMessage⟩) ∨
      ∃ subject, assertion.subject? = some subject ∧ verdict.outcome.Keeps subject assertion := by
  rw [check_of_enabled henabled] at hverdict
  rcases hsubject : assertion.subject? with _ | _ | _ | _ | _ | _ | _ <;>
    rw [hsubject] at hverdict
  case none =>
    cases hverdict
    exact Or.inl ⟨rfl, rfl⟩
  case some.bodyJson =>
    right
    cases hbody : response.document? with
    | none =>
        rw [hbody] at hverdict
        cases hverdict
        exact Or.inl ⟨rfl, rfl, rfl⟩
    | some document =>
        rw [hbody] at hverdict
        exact Or.inr ⟨_, rfl, keeps_of_checkBodyJson hverdict⟩
  all_goals refine Or.inr (Or.inr ⟨_, rfl, ?_⟩)
  case some.status => exact keeps_of_map keeps_statusOutcome hverdict
  case some.responseTime => exact keeps_of_map keeps_timingOutcome hverdict
  case some.bodyContains => exact keeps_of_checkBodyContains hverdict
  case some.headerExists =>
    cases hverdict
    exact keeps_checkHeaderExists
  case some.headerEquals =>
    cases hverdict
    exact keeps_checkHeaderEquals

/-! ## The catalogue -/

/-- An assertion is supported if its type and operator are names and the catalogue lists the
operator for the type. -/
theorem isSupported_iff :
    assertion.isSupported = true ↔ ∃ subject operator, assertion.subject? = some subject ∧
      assertion.operator? = some operator ∧ operator ∈ subject.operators := by
  unfold Assertion.isSupported
  cases assertion.subject? <;> cases assertion.operator? <;> simp

/-- An enabled assertion that the catalogue does not have fails. -/
theorem fails_of_unsupported (henabled : assertion.isEnabled = true)
    (hsupported : assertion.isSupported = false)
    (hverdict : assertion.check response = .ok verdict) : verdict.passed = false := by
  rcases keeps_of_check henabled hverdict with
    ⟨-, houtcome⟩ | ⟨-, -, houtcome⟩ | ⟨subject, hsubject, hkeeps⟩
  · exact congrArg Outcome.passed houtcome
  · exact congrArg Outcome.passed houtcome
  · rw [← Bool.not_eq_true, isSupported_iff] at hsupported
    apply hkeeps.failed
    intro operator hmem hoperator
    exact hsupported ⟨subject, operator, hsubject, hoperator, hmem⟩

/-- The verdict on an enabled assertion that the catalogue has calls neither its type nor its
operator unknown. -/
theorem known_of_supported (henabled : assertion.isEnabled = true)
    (hsupported : assertion.isSupported = true)
    (hverdict : assertion.check response = .ok verdict) :
    verdict.message ≠ s!"Unknown assertion type: {assertion.typeTag}" ∧
      verdict.message ≠ s!"Unknown operator: {assertion.operatorTag}" := by
  obtain ⟨subject, operator, hsubject, hoperator, hmem⟩ := isSupported_iff.mp hsupported
  have hapart : SetApart [unknownOpening] verdict.message := by
    rcases keeps_of_check henabled hverdict with
      ⟨hnone, -⟩ | ⟨-, -, houtcome⟩ | ⟨other, hother, hkeeps⟩
    · rw [hsubject] at hnone
      cases hnone
    · rw [show verdict.message = unreadableMessage from congrArg Outcome.message houtcome]
      decide
    · obtain rfl := Option.some.inj (hsubject.symm.trans hother)
      exact hkeeps.known operator hmem hoperator
  rw [← Subject.ofTag?_eq_some_iff.mp hsubject, ← Operator.ofTag?_eq_some_iff.mp hoperator]
  exact hapart.ne_unknown subject operator

/-! ## Bodies that are no documents -/

/-- The sentence about a body that is no document stands in the verdicts on enabled assertions about
nodes of such a body, and in no other. -/
theorem message_eq_unreadable_iff (hverdict : assertion.check response = .ok verdict) :
    verdict.message = unreadableMessage ↔ assertion.isEnabled = true ∧
      assertion.subject? = some .bodyJson ∧ response.document? = none := by
  constructor
  · intro hmessage
    rcases eq_ok_of_check hverdict with ⟨-, rfl⟩ | ⟨henabled, -⟩
    · have hskipped : skippedMessage ≠ unreadableMessage := by decide
      exact absurd hmessage hskipped
    rcases keeps_of_check henabled hverdict with
      ⟨-, houtcome⟩ | ⟨hsubject, hbody, -⟩ | ⟨subject, -, hkeeps⟩
    · have hapart : SetApart [unreadableOpening] verdict.message := by
        rw [show verdict.message = _ from congrArg Outcome.message houtcome]
        exact setApart_of_opening "Unknown assertion type: " [_] (by decide)
      exact absurd hmessage hapart.ne_unreadable
    · exact ⟨henabled, hsubject, hbody⟩
    · exact absurd hmessage hkeeps.readable.ne_unreadable
  · rintro ⟨henabled, hsubject, hbody⟩
    rw [check_of_enabled henabled, hsubject, hbody] at hverdict
    cases hverdict
    rfl

end Assay
