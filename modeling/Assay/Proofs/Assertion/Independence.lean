import Assay.Proofs.Assertion.Asked

/-! # Assertions are checked independently

An evaluation reads the body once, and each of its verdicts is the one that the assertion gets
alone, where the body is read for it. A verdict depends on that part of a response only which the
type of the assertion looks at.
-/

namespace Assay

variable {assertion : Assertion} {response other : Response} {subject : Subject}

/-! ## Parts of a response -/

/-- Two responses agree on the part that a type of assertions looks at. -/
def Response.AgreesOn (subject : Subject) (response other : Response) : Prop :=
  match subject with
  | .status => response.status = other.status
  | .responseTime => response.timing = other.timing
  | .bodyContains | .bodyJson => response.body = other.body
  | .headerExists | .headerEquals => response.headers = other.headers

theorem header?_congr (hheaders : response.headers = other.headers) (name : String) :
    response.header? name = other.header? name := by
  rw [Response.header?, Response.header?, hheaders]

/-- Responses that agree on the part that an assertion looks at give it one verdict, or end its
check in the same way. -/
theorem check_congr (hsubject : assertion.subject? = some subject)
    (hagree : response.AgreesOn subject other) :
    assertion.check response = assertion.check other := by
  cases henabled : assertion.isEnabled with
  | false => rw [check_of_disabled henabled, check_of_disabled henabled]
  | true =>
      rw [check_of_enabled henabled, check_of_enabled henabled, hsubject]
      cases subject with
      | status =>
          have hstatus : response.status = other.status := hagree
          simp only [checkStatus, hstatus]
      | responseTime =>
          have htiming : response.timing = other.timing := hagree
          simp only [checkResponseTime, htiming]
      | bodyContains =>
          have hbody : response.body = other.body := hagree
          simp only [checkBodyContains, hbody]
      | bodyJson =>
          have hbody : response.body = other.body := hagree
          simp only [Response.document?, hbody]
      | headerExists =>
          dsimp only
          rw [checkHeaderExists, checkHeaderExists, Response.hasHeader, Response.hasHeader,
            header?_congr hagree]
      | headerEquals =>
          dsimp only
          rw [checkHeaderEquals, checkHeaderEquals, header?_congr hagree]

/-- An assertion that does not look at the body gets the verdict that it gets with another body. -/
theorem check_with_body (hcontains : assertion.subject? ≠ some .bodyContains)
    (hnode : assertion.subject? ≠ some .bodyJson) (body : String) :
    assertion.check { response with body := body } = assertion.check response := by
  cases hsubject : assertion.subject? with
  | none => simp only [Assertion.check, Assertion.checkWith, hsubject]
  | some subject =>
      apply check_congr hsubject
      cases subject with
      | bodyContains => exact absurd hsubject hcontains
      | bodyJson => exact absurd hsubject hnode
      | _ => rfl

/-- An assertion that strains with an unreadable body strains with every body. -/
theorem strains_of_unreadable {body : String} {refusal : Json.Refusal}
    (hbody : Json.parse body = .error refusal)
    (hstrains : assertion.Strains { response with body := body }) : assertion.Strains response := by
  unfold Assertion.Strains at hstrains ⊢
  -- only a node of the body could strain with the one body and not with the other
  split <;> simp_all

/-- An evaluation that succeeds still does when the body is replaced by one that is no document. -/
theorem exists_evaluate_of_unreadable {body : String} {refusal : Json.Refusal}
    {assertions : List Assertion} {verdicts : List Verdict}
    (hbody : Json.parse body = .error refusal)
    (hverdicts : evaluate assertions response = .ok verdicts) :
    ∃ others, evaluate assertions { response with body := body } = .ok others := by
  rw [exists_evaluate_iff]
  rintro ⟨assertion, hmem, henabled, hstrains⟩
  exact exists_evaluate_iff.mp ⟨verdicts, hverdicts⟩
    ⟨assertion, hmem, henabled, strains_of_unreadable hbody hstrains⟩

/-! ## Independence -/

/-- A place of a list of assertions has a verdict, which is the one of the assertion alone. -/
theorem check_of_getElem? {assertions : List Assertion} {verdicts : List Verdict} {index : Nat}
    (hverdicts : evaluate assertions response = .ok verdicts)
    (hassertion : assertions[index]? = some assertion) :
    ∃ verdict, verdicts[index]? = some verdict ∧ assertion.check response = .ok verdict := by
  have hrelated := rel_getElem?_of_forall₂ (evaluate_eq_ok_iff.mp hverdicts) index
  rw [hassertion] at hrelated
  cases hresult : verdicts[index]? with
  | none => simp [hresult] at hrelated
  | some verdict =>
      rw [hresult] at hrelated
      cases hrelated with
      | some hverdict => exact ⟨verdict, rfl, hverdict⟩

/-- An assertion that is checked alike on two responses has the same verdict in two evaluations. -/
theorem getElem?_eq_of_check_eq {assertions : List Assertion} {verdicts others : List Verdict}
    {index : Nat} (hverdicts : evaluate assertions response = .ok verdicts)
    (hothers : evaluate assertions other = .ok others)
    (hassertion : assertions[index]? = some assertion)
    (hsame : assertion.check response = assertion.check other) :
    verdicts[index]? = others[index]? := by
  obtain ⟨verdict, hplace, hverdict⟩ := check_of_getElem? hverdicts hassertion
  obtain ⟨again, hagain, hcheck⟩ := check_of_getElem? hothers hassertion
  rw [hplace, hagain, Except.ok.inj (hverdict.symm.trans (hsame.trans hcheck))]

/-- The verdicts of an evaluation of a response depend neither on each other nor on more of the
response than they have to. -/
structure IndependenceLaws (response : Response) : Prop where
  shared : ∀ assertions : List Assertion, evaluate assertions response =
    assertions.mapM fun assertion => assertion.check response
  alone : ∀ assertions verdicts, evaluate assertions response = .ok verdicts →
    verdicts.length = assertions.length ∧
      ∀ (index : Nat) (assertion : Assertion), assertions[index]? = some assertion →
        ∃ verdict, verdicts[index]? = some verdict ∧
          assertion.check response = .ok verdict ∧ verdict.id = assertion.id
  own : ∀ subject other, response.AgreesOn subject other → ∀ assertion : Assertion,
    assertion.subject? = some subject → assertion.check response = assertion.check other
  ownVerdicts : ∀ subject other, response.AgreesOn subject other →
    ∀ assertions verdicts others, evaluate assertions response = .ok verdicts →
      evaluate assertions other = .ok others →
      ∀ (index : Nat) (assertion : Assertion), assertions[index]? = some assertion →
        assertion.subject? = some subject → verdicts[index]? = others[index]?
  unreadable : ∀ body refusal, Json.parse body = .error refusal →
    ∀ assertions verdicts, evaluate assertions response = .ok verdicts →
      ∃ others, evaluate assertions { response with body := body } = .ok others ∧
        ∀ (index : Nat) (assertion : Assertion), assertions[index]? = some assertion →
          assertion.subject? ≠ some .bodyContains → assertion.subject? ≠ some .bodyJson →
            verdicts[index]? = others[index]?

/-- The verdicts of an evaluation are those of its assertions alone, each of them depends on its own
part of the response only, and a body that cannot be read leaves all verdicts as they are that are
not about the body. -/
theorem verdicts_are_independent (response : Response) : IndependenceLaws response where
  shared assertions := evaluate_eq_mapM assertions response
  alone assertions verdicts hverdicts := by
    refine ⟨(evaluate_eq_ok_iff.mp hverdicts).length_eq.symm, fun index assertion hassertion => ?_⟩
    obtain ⟨verdict, hplace, hverdict⟩ := check_of_getElem? hverdicts hassertion
    exact ⟨verdict, hplace, hverdict, id_of_check hverdict⟩
  own subject other hagree assertion hsubject := check_congr hsubject hagree
  ownVerdicts subject other hagree assertions verdicts others hverdicts hothers index assertion
      hassertion hsubject :=
    getElem?_eq_of_check_eq hverdicts hothers hassertion (check_congr hsubject hagree)
  unreadable body refusal hbody assertions verdicts hverdicts := by
    obtain ⟨others, hothers⟩ := exists_evaluate_of_unreadable hbody hverdicts
    exact ⟨others, hothers, fun index assertion hassertion hcontains hnode =>
      getElem?_eq_of_check_eq hverdicts hothers hassertion
        (check_with_body hcontains hnode body).symm⟩

/-- A status code passes as before when the body is cut short, although a node was read with it. -/
theorem status_passes_with_unreadable_body :
    ∃ others, evaluate
        [.asking "a1" .status .equals "" "200", .asking "a2" .bodyJson .exists_ "" ""]
        ⟨200, [], "[", 0⟩ = .ok others ∧
      others[0]? = some ⟨"a1", true, "200", "Status code is 200"⟩ := by
  have hstatus : (Assertion.asking "a1" .status .equals "" "200").check
      ⟨200, [], "[null]", 0⟩ = .ok ⟨"a1", true, "200", "Status code is 200"⟩ := rfl
  have hnode : (Assertion.asking "a2" .bodyJson .exists_ "" "").check
      ⟨200, [], "[null]", 0⟩ = .ok ⟨"a2", true, "[null]", "Property \"\" exists"⟩ := by cbv
  have hverdicts := evaluate_eq_ok_iff.mpr (.cons hstatus (.cons hnode .nil))
  obtain ⟨refusal, hbody⟩ : ∃ refusal, Json.parse "[" = .error refusal := ⟨_, by cbv⟩
  obtain ⟨others, hothers, hsame⟩ :=
    (verdicts_are_independent ⟨200, [], "[null]", 0⟩).unreadable "[" refusal hbody _ _ hverdicts
  exact ⟨others, hothers, (hsame 0 _ rfl (by decide) (by decide)).symm⟩

end Assay
