import Assay.Proofs.Assertion.Support
import Assay.Proofs.Datum.Structured
import Assay.Proofs.Extraction
import Assay.Proofs.Payload.Loose

/-! # Structured data stay comparable below the limit on nesting

A body and an expected value may be given as structured data. They are kept as JSON text and read
back for every comparison, which gives an equal value as long as the data are not nested too deep.
The reviews do not look at the nesting: deeper data are admitted, and then a body is called
unreadable and an expected value is taken for null.
-/

namespace Assay

open Datum (fieldOf fieldOf?)
open Json (Value ReadsEqual nestingLimit)

variable {value : Value} {response : Response} {fields entries : List (Datum × Datum)}
  {room : Nat}

theorem document?_eq_none_iff :
    response.document? = none ↔ ∃ refusal, Json.parse response.body = .error refusal := by
  unfold Response.document?
  cases Json.parse response.body <;> simp

/-- A value that is expected by its canonical text is taken for null if it is null, and if it is
nested too deep. -/
theorem expectedValue_canonical_eq_null_iff (hvalue : value.Representable) :
    expectedValue (Json.canonical value) = .null ↔ value = .null ∨ nestingLimit ≤ value.depth := by
  by_cases hdepth : value.depth < nestingLimit
  · rw [expectedValue, Json.parse_canonical hvalue hdepth]
    simp [hdepth]
  · obtain ⟨refusal, hrefused⟩ := (Json.exists_refusal_canonical_iff hvalue).mpr (not_lt.mp hdepth)
    rw [expectedValue, hrefused]
    simp [not_lt.mp hdepth]

/-- A structured value that has JSON text as a datum can be denoted by a text, and is written as its
canonical text. -/
theorem representable_and_rendered (hdiffer : value.NamesDiffer)
    (hother : ∀ content, value ≠ .string content)
    (hjson : (Datum.ofJson value).isJson room = true) :
    value.Representable ∧ (Datum.ofJson value).rendered? = some (Json.canonical value) := by
  have hvalue := Datum.representable_of_isPlain hdiffer (Datum.isJson_iff.mp hjson)
  exact ⟨hvalue, Datum.rendered?_ofJson hvalue hother⟩

/-! ## Bodies -/

/-- A response with a structured body that a loose review admits has the canonical text of it. -/
theorem exists_response_of_body (hdiffer : value.NamesDiffer)
    (hother : ∀ content, value ≠ .string content) (hadmits : Payload.Admits (.loose room) fields)
    (hbody : fieldOf? fields "body" = some (.ofJson value)) :
    value.Representable ∧
      ∃ response, Response.ofFields? fields = some response ∧
        response.body = Json.canonical value := by
  obtain ⟨given, hgiven, hjson⟩ := Payload.loose_reviewBody_isValid_iff.mp hadmits.body
  obtain rfl := Option.some.inj (hbody.symm.trans hgiven)
  obtain ⟨hvalue, hrendered⟩ := representable_and_rendered hdiffer hother hjson
  obtain ⟨response, hread⟩ := hadmits.exists_response
  obtain ⟨datum, hdatum, hcontent⟩ := (Payload.ofFields?_eq_some_iff.mp hread).body
  obtain rfl := Option.some.inj (hbody.symm.trans hdatum)
  exact ⟨hvalue, response, hread, Option.some.inj (hcontent.symm.trans hrendered)⟩

/-! ## Expected values -/

/-- An entry of a suite expects a value, which it gives as structured data. -/
def Suite.Expects (item : Datum) (value : Value) : Prop :=
  ∃ fields, item.entries? = some fields ∧ fieldOf? fields "expected" = some (.ofJson value)

/-- An assertion that is read from an entry which expects a structured value has the canonical text
of the value. -/
theorem expected_of_yields {item : Datum} {assertion : Assertion} (hdiffer : value.NamesDiffer)
    (hother : ∀ content, value ≠ .string content) (hshape : Suite.IsAssertion room item)
    (hyields : Suite.Yields Assertion.ofFields? item assertion)
    (hexpects : Suite.Expects item value) :
    value.Representable ∧ assertion.expected = Json.canonical value := by
  obtain ⟨fields, hfields, hfits⟩ := hshape
  obtain ⟨others, hothers, hgiven⟩ := hexpects
  obtain rfl := Option.some.inj (hfields.symm.trans hothers)
  obtain ⟨hvalue, hrendered⟩ := representable_and_rendered hdiffer hother (hfits.expected _ hgiven)
  rw [Suite.Yields, hfields, Option.bind_some, Assertion.ofFields?_eq_some_iff] at hyields
  have hexpected := hyields.expected
  rw [Assertion.expectedOf?, hgiven] at hexpected
  exact ⟨hvalue, Option.some.inj (hexpected.symm.trans hrendered)⟩

/-! ## Comparison -/

/-- Structured data that the reviews admit, with different keys in every map, are read back from
their text as an equal document exactly below the limit on nesting. At the limit and beyond, and
only there, a body is called unreadable, and an expected value that is not null is taken for
null. -/
theorem comparable_iff_shallow (hdiffer : value.NamesDiffer)
    (hother : ∀ content, value ≠ .string content) :
    (∀ room payload fields, (Payload.reviewResponse (.loose room) payload).isValid = true →
      payload.entries? = some fields → fieldOf? fields "body" = some (.ofJson value) →
      ∃ response, Response.ofFields? fields = some response ∧
        (ReadsEqual response.body value ↔ value.depth < nestingLimit) ∧
        ∀ assertion verdict, Assertion.check assertion response = .ok verdict →
          (verdict.message = unreadableMessage ↔ assertion.isEnabled = true ∧
            assertion.subject? = some .bodyJson ∧ nestingLimit ≤ value.depth)) ∧
    ∀ room entries, (Suite.review room entries).isValid = true →
      ∃ suite items, Suite.ofEntries? entries = some suite ∧
        (fieldOf entries "assertions").items? = some items ∧
        List.Forall₂ (fun item assertion => Suite.Expects item value →
          (ReadsEqual assertion.expected value ↔ value.depth < nestingLimit) ∧
          (expectedValue assertion.expected = .null ↔
            value = .null ∨ nestingLimit ≤ value.depth)) items suite.assertions := by
  constructor
  · intro room payload fields hvalid hfields hbody
    obtain ⟨others, hothers, hadmits⟩ := Payload.isValid_reviewResponse_iff.mp hvalid
    obtain rfl := Option.some.inj (hfields.symm.trans hothers)
    obtain ⟨hvalue, response, hread, htext⟩ := exists_response_of_body hdiffer hother hadmits hbody
    refine ⟨response, hread, ?_, fun assertion verdict hverdict => ?_⟩
    · rw [htext]
      exact Json.readsEqual_canonical_iff hvalue
    · rw [message_eq_unreadable_iff hverdict, document?_eq_none_iff, htext,
        Json.exists_refusal_canonical_iff hvalue]
  · intro room entries hvalid
    obtain ⟨suite, items, hsuite, hitems, hassertions⟩ := Suite.exists_reviewed hvalid
    refine ⟨suite, items, hsuite, hitems, hassertions.imp ?_⟩
    rintro item assertion ⟨hshape, hyields⟩ hexpects
    obtain ⟨hvalue, htext⟩ := expected_of_yields hdiffer hother hshape hyields hexpects
    rw [htext]
    exact ⟨Json.readsEqual_canonical_iff hvalue, expectedValue_canonical_eq_null_iff hvalue⟩

/-! ## At the limit -/

open Json.Value (nested)
open Payload (fieldsWithBody)
open Suite (entriesExpecting)

variable {text : String}

theorem ofFields?_fieldsWithBody (hrendered : (Datum.ofJson value).rendered? = some text) :
    Response.ofFields? (fieldsWithBody (.ofJson value)) = some ⟨200, [], text, 0⟩ :=
  Payload.ofFields?_eq_some_iff.mpr
    { status := rfl, headers := ⟨[], rfl, rfl⟩, body := ⟨_, rfl, hrendered⟩, timing := rfl }

theorem parse_fieldsWithBody (hplain : (Datum.ofJson value).IsPlain room)
    (hrendered : (Datum.ofJson value).rendered? = some text) :
    Response.parse room (fieldsWithBody (.ofJson value)) = .ok (some ⟨200, [], text, 0⟩) := by
  have hadmits := Payload.admits_fieldsWithBody (Datum.isJson_iff.mpr hplain)
  refine hadmits.parse_eq_ok_iff.mpr ⟨?_, ofFields?_fieldsWithBody hrendered⟩
  rintro _ ⟨⟩
  exact hplain

theorem isReadFrom_entriesExpecting (hrendered : (Datum.ofJson value).rendered? = some text) :
    Suite.IsReadFrom ⟨1, "deep", [], [.asking "a1" .bodyJson .equals "" text], []⟩
      (entriesExpecting (.ofJson value)) where
  version := rfl
  name := rfl
  bindings := rfl
  assertions := by
    have hassertion : (Assertion.asking "a1" .bodyJson .equals "" text).IsReadFrom
        [(.text "id", .text "a1"), (.text "type", .text "bodyJson"),
          (.text "property", .text ""), (.text "operator", .text "equals"),
          (.text "expected", .ofJson value)] :=
      { id := rfl, typeTag := rfl, property := rfl, operatorTag := rfl, expected := hrendered
        enabled := rfl }
    exact ⟨_, rfl, .cons (Assertion.ofFields?_eq_some_iff.mpr hassertion) .nil⟩
  rules := .nil

theorem parse_entriesExpecting (hplain : (Datum.ofJson value).IsPlain room)
    (hrendered : (Datum.ofJson value).rendered? = some text) :
    Suite.parse room (entriesExpecting (.ofJson value)) =
      .ok (some ⟨1, "deep", [], [.asking "a1" .bodyJson .equals "" text], []⟩) := by
  have hvalid := Suite.entriesExpecting_isValid (Datum.isJson_iff.mpr hplain)
  refine (Suite.review_isValid_iff.mp hvalid).parse_eq_ok_iff.mpr ⟨fun given hexpected => ?_,
    Suite.ofEntries?_eq_some_iff.mpr (isReadFrom_entriesExpecting hrendered)⟩
  rwa [Suite.hasExpected_entriesExpecting_iff.mp hexpected]

/-- One level below the limit a body and an expected value are read back as equal documents. -/
theorem nested_below_limit_is_comparable :
    (∃ response, Response.ofFields? (fieldsWithBody (.ofJson (nested 126))) = some response ∧
        ReadsEqual response.body (nested 126)) ∧
      ∃ suite, Suite.ofEntries? (entriesExpecting (.ofJson (nested 126))) = some suite ∧
        ∀ assertion ∈ suite.assertions, ReadsEqual assertion.expected (nested 126) ∧
          expectedValue assertion.expected ≠ .null := by
  have hdepth : (nested 126).depth < nestingLimit := by
    rw [depth_nested]
    decide
  have hbody : (Payload.reviewResponse (.loose 127)
      (.map (fieldsWithBody (.ofJson (nested 126))))).isValid = true :=
    Payload.isValid_reviewResponse_iff.mpr
      ⟨_, rfl, Payload.admits_fieldsWithBody (isJson_nested (Nat.lt_succ_self 126))⟩
  have hentries : (Suite.review 127 (entriesExpecting (.ofJson (nested 126)))).isValid = true :=
    Suite.entriesExpecting_isValid (isJson_nested (Nat.lt_succ_self 126))
  obtain ⟨hbodies, hexpected⟩ := comparable_iff_shallow (namesDiffer_nested 126)
    (nested_ne_string 126)
  constructor
  · obtain ⟨response, hread, hequal, -⟩ := hbodies _ _ _ hbody rfl rfl
    exact ⟨response, hread, hequal.mpr hdepth⟩
  · obtain ⟨suite, items, hsuite, hitems, hassertions⟩ := hexpected _ _ hentries
    refine ⟨suite, hsuite, fun assertion hmem => ?_⟩
    obtain ⟨item, hitem, hkept⟩ := exists_of_mem_results hassertions hmem
    obtain rfl := Option.some.inj hitems
    obtain rfl := List.mem_singleton.mp hitem
    obtain ⟨hequal, hnull⟩ := hkept ⟨_, rfl, rfl⟩
    refine ⟨hequal.mpr hdepth, fun htaken => ?_⟩
    rcases hnull.mp htaken with hisNull | hdeep
    · obtain ⟨nestedItems, hnested⟩ := exists_items_nested 126
      rw [hnested] at hisNull
      cases hisNull
    · exact absurd hdepth (not_lt.mpr hdeep)

/-- What is taken for null is found equal to a body that is null. -/
theorem outcomeOn_null_body {id expected : String} (hexpected : expectedValue expected = .null) :
    (Assertion.asking id .bodyJson .equals "" expected).outcomeOn ⟨200, [], "null", 0⟩ =
      .ok true := by
  have hbody : Json.parse "null" = .ok .null := by cbv
  have hresolve : Json.resolve .null "" = .ok (some .null) := rfl
  rw [outcomeOn_bodyJson, hbody]
  simp only [hresolve, passed_nodeOutcome_equals, nodeEquals, hexpected]
  rfl

/-- At the limit a body is admitted and then called unreadable, and an expected value is admitted
and then found equal to a body that is null. -/
theorem nested_at_limit_is_not_comparable :
    ((Payload.reviewResponse (.loose 129)
          (.map (fieldsWithBody (.ofJson (nested 127))))).isValid = true ∧
      ∃ response,
        Response.parse 128 (fieldsWithBody (.ofJson (nested 127))) = .ok (some response) ∧
        ¬ ReadsEqual response.body (nested 127) ∧
        Assertion.check (.asking "a1" .bodyJson .exists_ "" "") response =
          .ok ⟨"a1", false, "Invalid JSON", "Response body is not valid JSON"⟩) ∧
    (Suite.review 129 (entriesExpecting (.ofJson (nested 127)))).isValid = true ∧
      ∃ suite assertion,
        Suite.parse 128 (entriesExpecting (.ofJson (nested 127))) = .ok (some suite) ∧
        suite.assertions = [assertion] ∧
        assertion.outcomeOn ⟨200, [], "null", 0⟩ = .ok true := by
  have hvalue := representable_nested 127
  have hdepth : nestingLimit ≤ (nested 127).depth := by
    rw [depth_nested]
    decide
  have hrendered := Datum.rendered?_ofJson hvalue (nested_ne_string 127)
  have hroom : (Datum.ofJson (nested 127)).IsPlain 128 :=
    isPlain_nested_iff.mpr (Nat.lt_succ_self 127)
  have hjson : (Datum.ofJson (nested 127)).isJson 129 = true := isJson_nested (by decide)
  have hunequal : ¬ ReadsEqual (Json.canonical (nested 127)) (nested 127) :=
    mt (Json.readsEqual_canonical_iff hvalue).mp (not_lt.mpr hdepth)
  refine ⟨⟨Payload.isValid_reviewResponse_iff.mpr ⟨_, rfl, Payload.admits_fieldsWithBody hjson⟩,
      _, parse_fieldsWithBody hroom hrendered, hunequal, ?_⟩,
    Suite.entriesExpecting_isValid hjson, _, _, parse_entriesExpecting hroom hrendered, rfl,
    outcomeOn_null_body ((expectedValue_canonical_eq_null_iff hvalue).mpr (Or.inr hdepth))⟩
  have hbody : Response.document? ⟨200, [], Json.canonical (nested 127), 0⟩ = none :=
    document?_eq_none_iff.mpr ((Json.exists_refusal_canonical_iff hvalue).mpr hdepth)
  rw [check_of_enabled isEnabled_asking, subject?_asking, hbody]
  rfl

end Assay
