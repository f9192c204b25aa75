import Assay.Exchange
import Assay.Proofs.Assertion.Check
import Assay.Proofs.Payload

/-! # Evaluation over texts

Two texts are evaluated if the first one describes assertions and the second one a response. The
answer is then the text of the verdicts; for all other texts it is that of an empty array.
-/

namespace Assay.Exchange

open Json (Value)

variable {assertionsText responseText : String} {assertions : List Assertion}
  {response : Response}

/-- A text describes a list of assertions: it is an array, and its entries describe them in
order. -/
def DescribesAssertions (text : String) (assertions : List Assertion) : Prop :=
  ∃ entries, Json.parse text = .ok (.array entries) ∧
    List.Forall₂ Payload.DescribesAssertion entries assertions

def DescribesResponse (text : String) (response : Response) : Prop :=
  ∃ value, Json.parse text = .ok value ∧ Payload.DescribesResponse value response

theorem value?_eq_some_iff {text : String} {value : Value} :
    value? text = some value ↔ Json.parse text = .ok value := by
  unfold value?
  cases Json.parse text <;> simp [Except.toOption]

/-- The assertions read from a text are those it describes. -/
theorem assertions?_eq_some_iff :
    (value? assertionsText).bind (fun value => Payload.assertions? (.ofJson value)) =
      some assertions ↔ DescribesAssertions assertionsText assertions := by
  simp only [Option.bind_eq_some_iff, value?_eq_some_iff, Payload.assertions?_eq_some_iff]
  constructor
  · rintro ⟨_, hparse, entries, rfl, hdescribed⟩
    exact ⟨entries, hparse, hdescribed⟩
  · rintro ⟨entries, hparse, hdescribed⟩
    exact ⟨_, hparse, entries, rfl, hdescribed⟩

theorem response?_eq_some_iff :
    (value? responseText).bind (fun value => Payload.response? (.ofJson value)) =
      some response ↔ DescribesResponse responseText response := by
  simp only [Option.bind_eq_some_iff, value?_eq_some_iff, Payload.response?_eq_some_iff,
    DescribesResponse]

theorem DescribesAssertions.unique {others : List Assertion}
    (hassertions : DescribesAssertions assertionsText assertions)
    (hothers : DescribesAssertions assertionsText others) : assertions = others :=
  Option.some.inj
    ((assertions?_eq_some_iff.mpr hassertions).symm.trans (assertions?_eq_some_iff.mpr hothers))

theorem DescribesResponse.unique {other : Response}
    (hresponse : DescribesResponse responseText response)
    (hother : DescribesResponse responseText other) : response = other :=
  Option.some.inj
    ((response?_eq_some_iff.mpr hresponse).symm.trans (response?_eq_some_iff.mpr hother))

/-- The answer for texts that describe something is the text of the verdicts. -/
theorem run_of_described (hassertions : DescribesAssertions assertionsText assertions)
    (hresponse : DescribesResponse responseText response) :
    run assertionsText responseText = (evaluate assertions response).map fun verdicts =>
      Json.canonical (.array (verdicts.map verdictJson)) := by
  simp only [run, assertions?_eq_some_iff.mpr hassertions, response?_eq_some_iff.mpr hresponse]

/-- The answer for all other texts is the text of an empty array. -/
theorem run_of_not_described (hundescribed : ¬ ((∃ assertions,
      DescribesAssertions assertionsText assertions) ∧
        ∃ response, DescribesResponse responseText response)) :
    run assertionsText responseText = .ok "[]" := by
  simp only [← assertions?_eq_some_iff, ← response?_eq_some_iff] at hundescribed
  unfold run
  dsimp only
  split
  next assertions response hassertions hresponse =>
    exact absurd ⟨⟨assertions, hassertions⟩, response, hresponse⟩ hundescribed
  next => rfl

end Assay.Exchange
