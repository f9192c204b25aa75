import Assay.Proofs.Assertion.Opposite

/-! # What is reported can be expected

The observed text in a verdict on a node is the canonical text of the node. An assertion that
expects this text of the node finds the node equal to it and finds it in the node, and two nodes are
reported by one text only if they are equal.
-/

namespace Assay

open Json (Value)

variable {response : Response} {document : Value} {path actual : String}

/-- Every enabled assertion about the node at a path gets a verdict with the given observed text,
whatever its operator. -/
def Reports (response : Response) (path actual : String) : Prop :=
  ∀ assertion : Assertion, assertion.isEnabled = true → assertion.subject? = some .bodyJson →
    assertion.property = path →
      ∃ verdict, assertion.check response = .ok verdict ∧ verdict.actual = actual

/-- A failed comparison reports the text of the node at the path. -/
theorem reports_of_resolve {node : Option Value} (hbody : Json.parse response.body = .ok document)
    (hresolve : Json.resolve document path = .ok node) :
    Reports response path (Json.render node) := by
  rintro assertion henabled hsubject rfl
  refine ⟨assertion.verdict (Json.render node) (nodeOutcome assertion node), ?_, rfl⟩
  rw [check_of_bodyJson henabled hsubject hbody, hresolve]

/-- There is an assertion that reports, so only one text is reported. -/
theorem Reports.eq {other : String} (hreports : Reports response path actual)
    (hother : Reports response path other) : actual = other := by
  have hproperty : (Assertion.asking "" .bodyJson .exists_ path "").property = path := rfl
  obtain ⟨verdict, hverdict, rfl⟩ := hreports _ isEnabled_asking subject?_asking hproperty
  obtain ⟨again, hagain, rfl⟩ := hother _ isEnabled_asking subject?_asking hproperty
  rw [Except.ok.inj (hverdict.symm.trans hagain)]

theorem nodeContains_canonical (node : Value) :
    nodeContains (some node) (Json.canonical node) = true :=
  Text.contains_iff_infix.mpr (List.infix_refl _)

theorem same_of_canonical_eq {node other : Value} (hnode : node.IsNode) (hother : other.IsNode)
    (hcanonical : Json.canonical node = Json.canonical other) : node.Same other := by
  have hparse := hnode.parse_canonical
  rw [hcanonical, hother.parse_canonical] at hparse
  obtain rfl := Except.ok.inj hparse
  exact hnode.representable.same_refl

/-- What a verdict reports of a node can be expected of it. -/
structure ReportLaws (response : Response) (document : Value) : Prop where
  found : ∀ path node, Json.resolve document path = .ok (some node) →
    ∃ actual, Reports response path actual ∧
      Ends response .bodyJson path actual .equals (.ok true) ∧
      Ends response .bodyJson path actual .contains (.ok true) ∧
      Ends response .bodyJson path actual .notEquals (.ok false)
  absent : ∀ path, Json.resolve document path = .ok none →
    Reports response path "undefined" ∧
      Ends response .bodyJson path "undefined" .equals (.ok false) ∧
      Ends response .bodyJson path "undefined" .contains (.ok false)
  faithful : ∀ (other : Response) (otherDocument : Value),
    Json.parse other.body = .ok otherDocument → ∀ path otherPath node otherNode actual,
      Json.resolve document path = .ok (some node) →
      Json.resolve otherDocument otherPath = .ok (some otherNode) →
      Reports response path actual → Reports other otherPath actual → node.Same otherNode

/-- The text that verdicts report of a node is one that the node equals and holds, it is `undefined`
where there is no node, and equal texts are reported of equal nodes only. -/
theorem reported_value_can_be_expected (hbody : Json.parse response.body = .ok document) :
    ReportLaws response document where
  found path node hresolve := by
    have hnode := (Json.isNode_of_parse hbody).follow hresolve
    have hequals := nodeEquals_canonical hnode
    refine ⟨_, reports_of_resolve hbody hresolve, ?_⟩
    simp only [Ends, outcomeOn_bodyJson, hbody, hresolve, passed_nodeOutcome_equals,
      passed_nodeOutcome_contains, passed_nodeOutcome_notEquals, Json.render, hequals,
      nodeContains_canonical, Bool.not_true, implies_true, and_self]
  absent path hresolve := by
    refine ⟨reports_of_resolve hbody hresolve, ?_⟩
    simp only [Ends, outcomeOn_bodyJson, hbody, hresolve, passed_nodeOutcome_equals,
      passed_nodeOutcome_contains, nodeEquals, nodeContains, implies_true, and_self]
  faithful other otherDocument hother path otherPath node otherNode actual hresolve hotherResolve
      hreports hotherReports := by
    have hnode := (Json.isNode_of_parse hbody).follow hresolve
    have hotherNode := (Json.isNode_of_parse hother).follow hotherResolve
    have hwritten := (reports_of_resolve hbody hresolve).eq hreports
    have hotherWritten := (reports_of_resolve hother hotherResolve).eq hotherReports
    exact same_of_canonical_eq hnode hotherNode (hwritten.trans hotherWritten.symm)

/-- A string that reads `undefined` is reported in quotes, and in quotes it can be expected. -/
theorem quoted_undefined_can_be_expected :
    ∃ actual, Reports ⟨200, [], "\"undefined\"", 0⟩ "" actual ∧
      Ends ⟨200, [], "\"undefined\"", 0⟩ .bodyJson "" actual .equals (.ok true) ∧
      Ends ⟨200, [], "\"undefined\"", 0⟩ .bodyJson "" actual .contains (.ok true) ∧
      Ends ⟨200, [], "\"undefined\"", 0⟩ .bodyJson "" actual .notEquals (.ok false) := by
  have hbody : Json.parse "\"undefined\"" = .ok (.string "undefined") := by cbv
  have hlaws := @reported_value_can_be_expected ⟨200, [], "\"undefined\"", 0⟩ _ hbody
  exact hlaws.found "" _ rfl

end Assay
