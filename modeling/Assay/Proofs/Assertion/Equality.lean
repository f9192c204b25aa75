import Assay.Proofs.Assertion.Check
import Assay.Proofs.Json.Equality

/-! # Verdicts respect equality

An assertion about a node of the body that asks whether it is there, or whether it equals an
expected value, passes alike on equal documents and for equal expected values, however these are
written.
-/

namespace Assay

open Json (Value)

variable {assertion : Assertion} {response : Response} {document : Value}

/-- Two expected texts denote equal values, or neither is a document. -/
def ExpectAlike (text other : String) : Prop :=
  (∃ value otherValue, Json.parse text = .ok value ∧ Json.parse other = .ok otherValue ∧
      value.Same otherValue) ∨
    (∃ refusal, Json.parse text = .error refusal) ∧ ∃ refusal, Json.parse other = .error refusal

/-- The verdict on a node of a body that is a document. -/
theorem check_of_bodyJson (henabled : assertion.isEnabled = true)
    (hsubject : assertion.subject? = some .bodyJson)
    (hbody : Json.parse response.body = .ok document) :
    assertion.check response =
      match Json.resolve document assertion.property with
      | .error refusal => .error (.tooManyDigits refusal)
      | .ok node => .ok (assertion.verdict (Json.render node) (nodeOutcome assertion node)) := by
  have hdocument : response.document? = some document := by rw [Response.document?, hbody]
  rw [check_of_enabled henabled, hsubject, hdocument]
  rfl

theorem representable_expectedValue (text : String) : (expectedValue text).Representable := by
  unfold expectedValue
  split
  next value hparse => exact Json.representable_of_parse hparse
  next => exact .null

theorem ExpectAlike.same {text other : String} (halike : ExpectAlike text other) :
    (expectedValue text).Same (expectedValue other) := by
  rcases halike with ⟨value, otherValue, hparse, hother, hsame⟩ | ⟨⟨_, hparse⟩, _, hother⟩
  · simpa only [expectedValue, hparse, hother] using hsame
  · simp only [expectedValue, hparse, hother, Json.same_null_iff]

/-- A node equals its own text. -/
theorem nodeEquals_canonical {node : Value} (hnode : node.IsNode) :
    nodeEquals (some node) (Json.canonical node) = true := by
  rw [nodeEquals, expectedValue, hnode.parse_canonical]
  exact hnode.representable.same_refl

/-- Equal nodes equal the same expected values. -/
theorem nodeEquals_congr {node other : Option Value} {expected otherExpected : String}
    (hnode : ∀ value, node = some value → value.Representable)
    (hother : ∀ value, other = some value → value.Representable)
    (hsame : Option.Rel Value.Same node other) (halike : ExpectAlike expected otherExpected) :
    nodeEquals node expected = nodeEquals other otherExpected := by
  cases hsame with
  | none => rfl
  | some hvalues =>
      exact (hnode _ rfl).equal_congr (hother _ rfl) (representable_expectedValue _)
        (representable_expectedValue _) hvalues halike.same

/-- The operators that ask for a node to be there or for its value. -/
def valueOperators : List Operator := [.exists_, .notExists, .equals, .notEquals]

/-- The outcome at a node depends on whether there is a node, and on how it compares with what is
expected. -/
theorem passed_nodeOutcome_congr {operator : Operator} (hoperator : operator ∈ valueOperators)
    (hassertion : assertion.operator? = some operator) {node other : Option Value}
    {otherExpected : String} (hsome : node.isSome = other.isSome)
    (hequals : nodeEquals node assertion.expected = nodeEquals other otherExpected) :
    (nodeOutcome assertion node).passed =
      (nodeOutcome { assertion with expected := otherExpected } other).passed := by
  have hother : ({ assertion with expected := otherExpected } : Assertion).operator? =
    some operator := hassertion
  have hnone : node.isNone = other.isNone := by
    rw [← Option.not_isSome, ← Option.not_isSome, hsome]
  unfold nodeOutcome
  rw [hassertion, hother]
  simp only [valueOperators, List.mem_cons, List.not_mem_nil, or_false] at hoperator
  rcases hoperator with rfl | rfl | rfl | rfl
  · exact hsome
  · exact hnone
  · exact hequals
  · exact congrArg not hequals

/-- On equal documents and for expected texts that are alike, an enabled assertion about a node
ends by the same failure or passes alike. -/
theorem map_passed_congr {operator : Operator} (hoperator : operator ∈ valueOperators)
    (hassertion : assertion.operator? = some operator)
    (hsubject : assertion.subject? = some .bodyJson) (henabled : assertion.isEnabled = true)
    {other : Response} {otherDocument : Value}
    (hbody : Json.parse response.body = .ok document)
    (hotherBody : Json.parse other.body = .ok otherDocument) (hsame : document.Same otherDocument)
    {otherExpected : String} (halike : ExpectAlike assertion.expected otherExpected) :
    (assertion.check response).map Verdict.passed =
      (({ assertion with expected := otherExpected } : Assertion).check other).map
        Verdict.passed := by
  have hdocument := Json.isNode_of_parse hbody
  have hother := Json.isNode_of_parse hotherBody
  have hfound := hdocument.sameFound_follow hother hsame (Json.segments assertion.property)
  have hcheck := @check_of_bodyJson { assertion with expected := otherExpected } other otherDocument
    henabled hsubject hotherBody
  rw [check_of_bodyJson henabled hsubject hbody, hcheck, Json.resolve, Json.resolve]
  rcases hnode : Json.follow document (Json.segments assertion.property) with refusal | node <;>
    rcases hnode' : Json.follow otherDocument (Json.segments assertion.property) with
      refusal' | node' <;>
    rw [hnode, hnode'] at hfound
  · cases hfound
    rfl
  · cases hfound
  · cases hfound
  · cases hfound with
    | found hnodes =>
        have hsome : node.isSome = node'.isSome := by cases hnodes <;> rfl
        have hequals := nodeEquals_congr
          (fun value hvalue => (hdocument.follow (hvalue ▸ hnode)).representable)
          (fun value hvalue => (hother.follow (hvalue ▸ hnode')).representable) hnodes halike
        exact congrArg Except.ok (passed_nodeOutcome_congr hoperator hassertion hsome hequals)

/-- Equality of documents is an equivalence that paths and verdicts respect: assertions that ask
whether a node is there or what its value is pass alike on responses whose bodies are equal
documents, for expected texts that denote equal values or no value at all. -/
theorem equality_is_respected :
    Json.EqualityLaws ∧
      ∀ (assertion : Assertion) (operator : Operator) (otherExpected : String)
        (response other : Response) (document otherDocument : Value),
        assertion.subject? = some .bodyJson → assertion.operator? = some operator →
        operator ∈ valueOperators → Json.parse response.body = .ok document →
        Json.parse other.body = .ok otherDocument → document.Same otherDocument →
        ExpectAlike assertion.expected otherExpected →
          (assertion.check response).map Verdict.passed =
            (({ assertion with expected := otherExpected } : Assertion).check other).map
              Verdict.passed := by
  refine ⟨Json.equalityLaws, ?_⟩
  intro assertion operator otherExpected response other document otherDocument hsubject hassertion
    hoperator hbody hotherBody hsame halike
  cases henabled : assertion.isEnabled with
  | true =>
      exact map_passed_congr hoperator hassertion hsubject henabled hbody hotherBody hsame halike
  | false =>
      have hother : ({ assertion with expected := otherExpected } : Assertion).isEnabled = false :=
        henabled
      rw [Assertion.check, Assertion.checkWith, Assertion.check, Assertion.checkWith, henabled,
        hother]
      rfl

/-- The law at two bodies that write a number in two ways and their members in two orders, and at
two texts for the expected number. -/
theorem equality_of_reordered_bodies_is_respected :
    ((⟨"a1", "bodyJson", "b[0]", "equals", "0", some true⟩ : Assertion).check
        ⟨200, [], "\x7b\"a\":true,\"b\":[0e0]\x7d", 0⟩).map Verdict.passed =
      ((⟨"a1", "bodyJson", "b[0]", "equals", "-0.0", some true⟩ : Assertion).check
        ⟨404, [], "\x7b\"b\":[0],\"a\":true\x7d", 7⟩).map Verdict.passed := by
  have hbody : Json.parse "\x7b\"a\":true,\"b\":[0e0]\x7d" =
      .ok (.object [("a", .bool true), ("b", .array [.double (.zero false)])]) := by cbv
  have hother : Json.parse "\x7b\"b\":[0],\"a\":true\x7d" =
      .ok (.object [("b", .array [.int 0]), ("a", .bool true)]) := by cbv
  have hsame : Value.Same (.object [("a", .bool true), ("b", .array [.double (.zero false)])])
      (.object [("b", .array [.int 0]), ("a", .bool true)]) := by
    unfold Value.Same
    decide +kernel
  have hexpected : Json.parse "0" = .ok (.int 0) := by cbv
  have hotherExpected : Json.parse "-0.0" = .ok (.double (.zero true)) := by cbv
  have hvalue : Value.Same (.int 0) (.double (.zero true)) := by
    unfold Value.Same
    decide +kernel
  exact equality_is_respected.2 ⟨"a1", "bodyJson", "b[0]", "equals", "0", some true⟩ .equals "-0.0"
    ⟨200, [], _, 0⟩ ⟨404, [], _, 7⟩ _ _ (by decide) (by decide) (by decide) hbody hother hsame
    (Or.inl ⟨_, _, hexpected, hotherExpected, hvalue⟩)

end Assay
