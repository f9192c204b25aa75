import Assay.Proofs.Assertion.Asked
import Assay.Proofs.Suite.Shape
import Assay.Rule

/-! # Extraction and assertions agree

Rules and assertions look at the same parts of a response. A rule finds something exactly where an
assertion on the same part passes, and what it finds is what an assertion takes for equal.
-/

namespace Assay

open Json (Value)

variable {response : Response} {id target property expected pattern name value path : String}

/-! ## Patterns -/

theorem isSome_pick? {program : Pattern.Program} {text : String} :
    (program.pick? text).isSome = program.found text := by
  simp [Pattern.Program.pick?, Pattern.Program.found]

/-- What a pattern picks from a text stands in the text. -/
theorem isInfix_of_pick? {program : Pattern.Program} {text picked : String}
    (hpick : program.pick? text = some picked) : picked.toList <:+: text.toList := by
  obtain ⟨found, -, rfl⟩ := Option.map_eq_some_iff.mp hpick
  rw [String.toList_ofList]
  exact (List.take_prefix _ _).isInfix.trans (List.drop_suffix _ _).isInfix

/-- A rule with a pattern finds something exactly if the pattern is found, and ends the evaluation
where the assertion does. -/
theorem outcomeOn_matches :
    (Assertion.asking id .bodyContains .matches_ property pattern).outcomeOn response =
      ((Rule.mk .regex pattern target).extract response).map Option.isSome := by
  simp only [Assertion.outcomeOn, Assertion.check, Assertion.checkWith, isEnabled_asking,
    subject?_asking, checkBodyContains, operator?_asking, expected_asking, Rule.extract,
    extractPattern]
  cases Pattern.compile pattern with
  | ok program => simp [Except.map, Assertion.verdict, Outcome.of, isSome_pick?]
  | error refusal =>
      cases hfailure : Failure.ofPattern? refusal <;>
        simp [Except.map, Assertion.verdict, hfailure]

/-- A pattern that is none still leaves the rule an answer. -/
theorem exists_extract_of_pattern
    (hrefused : ∀ refusal, Pattern.compile pattern = .error refusal → refusal = .malformed) :
    ∃ found, (Rule.mk .regex pattern target).extract response = .ok found := by
  simp only [Rule.extract, extractPattern]
  cases hcompile : Pattern.compile pattern with
  | ok program => exact ⟨_, rfl⟩
  | error refusal =>
      obtain rfl := hrefused refusal hcompile
      exact ⟨none, rfl⟩

theorem isInfix_of_extract_pattern {text : String}
    (hextract : (Rule.mk .regex pattern target).extract response = .ok (some text)) :
    text.toList <:+: response.body.toList := by
  simp only [Rule.extract, extractPattern] at hextract
  split at hextract
  next => exact isInfix_of_pick? (Except.ok.inj hextract)
  next => split at hextract <;> simp at hextract

/-! ## Headers -/

/-- An assertion about the value of a header passes on the value that is looked up, and on no other.
-/
theorem outcomeOn_headerEquals_iff :
    (Assertion.asking id .headerEquals .equals name value).outcomeOn response = .ok true ↔
      response.header? name = some value := by
  cases hheld : response.header? name with
  | none => simp [outcomeOn_headerEquals_of_absent hheld]
  | some held => simp [outcomeOn_header_equals hheld]

theorem outcomeOn_header_notExists_iff :
    (Assertion.asking id .headerExists .notExists name expected).outcomeOn response = .ok true ↔
      response.header? name = none := by
  simp [outcomeOn_header_notExists, Response.hasHeader]

/-! ## Nodes -/

/-- Exactly null equals the text of null. -/
theorem nodeEquals_null_iff {node : Option Value} :
    nodeEquals node "null" = true ↔ node = some .null := by
  have hexpected : expectedValue "null" = .null := by cbv
  cases node with
  | none => simp [nodeEquals]
  | some value =>
      rw [nodeEquals, hexpected, Option.some.injEq]
      constructor
      · intro hequal
        cases value <;> simp_all [Json.equal, Json.scalarEqual]
      · rintro rfl
        exact Json.same_null_iff.mpr rfl

theorem variableText_eq_none_iff {value : Value} : variableText value = none ↔ value = .null := by
  cases value <;> simp [variableText]

/-- A node that is no string equals the text that a rule makes of it. -/
theorem nodeEquals_variableText {node : Value} {text : String} (hnode : node.IsNode)
    (hstring : ∀ content, node ≠ .string content) (htext : variableText node = some text) :
    nodeEquals (some node) text = true := by
  have hcanonical : text = Json.canonical node := by
    unfold variableText at htext
    split at htext
    next => cases htext
    next content => exact absurd rfl (hstring content)
    next => exact (Option.some.inj htext).symm
  rw [hcanonical, nodeEquals_canonical hnode]

/-- What is found at a path that is not blank. -/
theorem extractPath_eq (hpath : ∃ c ∈ path.toList, Text.isBlank c = false) (body : String) :
    extractPath body path =
      match Json.parse body with
      | .error _ => .ok none
      | .ok document => match Json.resolve document path with
        | .error refusal => .error (.tooManyDigits refusal)
        | .ok node => .ok (node.bind variableText) := by
  have hsolid : (Text.trim path.toList).isEmpty = false := by
    rw [← Bool.not_eq_true, List.isEmpty_iff, Text.trim_eq_nil_iff]
    simpa using hpath
  rw [extractPath, hsolid]
  rfl

theorem extract_of_path (hpath : ∃ c ∈ path.toList, Text.isBlank c = false) :
    (Rule.mk .json path target).extract response =
      match Json.parse response.body with
      | .error _ => .ok none
      | .ok document => match Json.resolve document path with
        | .error refusal => .error (.tooManyDigits refusal)
        | .ok node => .ok (node.bind variableText) :=
  extractPath_eq hpath response.body

/-- A rule with a path finds nothing exactly where there is no node or the node is null. -/
theorem extract_eq_none_iff (hpath : ∃ c ∈ path.toList, Text.isBlank c = false)
    {otherId : String} :
    (Rule.mk .json path target).extract response = .ok none ↔
      (Assertion.asking id .bodyJson .exists_ path expected).outcomeOn response = .ok false ∨
        (Assertion.asking otherId .bodyJson .equals path "null").outcomeOn response = .ok true := by
  rw [extract_of_path hpath, outcomeOn_bodyJson, outcomeOn_bodyJson]
  cases Json.parse response.body with
  | error refusal => simp
  | ok document =>
      dsimp only
      cases Json.resolve document path with
      | error refusal => simp
      | ok node =>
          simp only [Except.ok.injEq, passed_nodeOutcome_exists, passed_nodeOutcome_equals,
            nodeEquals_null_iff]
          cases node <;> simp [variableText_eq_none_iff]

/-- A rule with a path finds a text that the node equals, unless the node is a string. -/
theorem outcomeOn_equals_of_extract (hpath : ∃ c ∈ path.toList, Text.isBlank c = false)
    {document node : Value} {text : String} (hbody : Json.parse response.body = .ok document)
    (hresolve : Json.resolve document path = .ok (some node))
    (hstring : ∀ content, node ≠ .string content)
    (hextract : (Rule.mk .json path target).extract response = .ok (some text)) :
    (Assertion.asking id .bodyJson .equals path text).outcomeOn response = .ok true := by
  rw [extract_of_path hpath, hbody] at hextract
  simp only [hresolve, Option.bind_some, Except.ok.injEq] at hextract
  have hnode := (Json.isNode_of_parse hbody).follow hresolve
  rw [outcomeOn_bodyJson, hbody]
  simp only [hresolve, passed_nodeOutcome_equals]
  rw [nodeEquals_variableText hnode hstring hextract]

/-! ## Agreement -/

/-- Rules and assertions agree about a response. -/
structure ExtractionLaws (response : Response) : Prop where
  /-- A pattern that can be read, or is none, gives a rule a value exactly if it is found. -/
  found : ∀ pattern target id property,
    (∀ refusal, Pattern.compile pattern = .error refusal → refusal = .malformed) →
      ∃ picked : Option String,
        (Rule.mk .regex pattern target).extract response = .ok picked ∧
        (Assertion.asking id .bodyContains .matches_ property pattern).outcomeOn response =
          .ok picked.isSome ∧
        ∀ text, picked = some text → text.toList <:+: response.body.toList
  header : ∀ name target id value,
    (Rule.mk .header name target).extract response = .ok (some value) ↔
      (Assertion.asking id .headerEquals .equals name value).outcomeOn response = .ok true
  headerless : ∀ name target id expected,
    (Rule.mk .header name target).extract response = .ok none ↔
      (Assertion.asking id .headerExists .notExists name expected).outcomeOn response = .ok true
  nodeless : ∀ path target id otherId expected, (∃ c ∈ path.toList, Text.isBlank c = false) →
    ((Rule.mk .json path target).extract response = .ok none ↔
      (Assertion.asking id .bodyJson .exists_ path expected).outcomeOn response = .ok false ∨
        (Assertion.asking otherId .bodyJson .equals path "null").outcomeOn response = .ok true)
  node : ∀ path target id document node text, (∃ c ∈ path.toList, Text.isBlank c = false) →
    Json.parse response.body = .ok document → Json.resolve document path = .ok (some node) →
    (∀ content, node ≠ .string content) →
    (Rule.mk .json path target).extract response = .ok (some text) →
      (Assertion.asking id .bodyJson .equals path text).outcomeOn response = .ok true

/-- Rules and assertions agree about every response. -/
theorem extraction_agrees_with_checks (response : Response) : ExtractionLaws response where
  found pattern target id property hrefused := by
    obtain ⟨picked, hpicked⟩ := @exists_extract_of_pattern response target pattern hrefused
    refine ⟨picked, hpicked, ?_, ?_⟩
    · rw [outcomeOn_matches, hpicked]
      rfl
    · rintro text rfl
      exact isInfix_of_extract_pattern hpicked
  header name target id value := by
    simp [Rule.extract, outcomeOn_headerEquals_iff]
  headerless name target id expected := by
    simp [Rule.extract, outcomeOn_header_notExists_iff]
  nodeless path target id otherId expected hpath := extract_eq_none_iff hpath
  node path target id document node text hpath hbody hresolve hstring hextract :=
    outcomeOn_equals_of_extract hpath hbody hresolve hstring hextract

/-- A number in the body is taken up in its canonical text, which it equals; a pattern is found
where it is in the body; and a header that is not there gives nothing. -/
theorem extraction_agrees_on_number :
    (Assertion.asking "a1" .bodyJson .equals "n[0]" "0.0").outcomeOn
        ⟨200, [], "\x7b\"n\":[0e0]\x7d", 0⟩ = .ok true ∧
      (Rule.mk .header "X-Id" "v").extract ⟨200, [], "\x7b\"n\":[0e0]\x7d", 0⟩ = .ok none ∧
      ∃ picked : Option String,
        (Rule.mk .regex "n" "v").extract ⟨200, [], "\x7b\"n\":[0e0]\x7d", 0⟩ = .ok picked ∧
        (Assertion.asking "a2" .bodyContains .matches_ "" "n").outcomeOn
          ⟨200, [], "\x7b\"n\":[0e0]\x7d", 0⟩ = .ok picked.isSome ∧
        ∀ text, picked = some text → text.toList <:+: "\x7b\"n\":[0e0]\x7d".toList := by
  have hlaws := extraction_agrees_with_checks ⟨200, [], "\x7b\"n\":[0e0]\x7d", 0⟩
  have hbody : Json.parse "\x7b\"n\":[0e0]\x7d" =
      .ok (.object [("n", .array [.double (.zero false)])]) := by cbv
  have hresolve : Json.resolve (.object [("n", .array [.double (.zero false)])]) "n[0]" =
      .ok (some (.double (.zero false))) := by cbv
  have hsolid : ∃ c ∈ "n[0]".toList, Text.isBlank c = false := ⟨'n', by decide, by decide⟩
  have hpicked : (Rule.mk .json "n[0]" "v").extract ⟨200, [], "\x7b\"n\":[0e0]\x7d", 0⟩ =
      .ok (some "0.0") := by
    rw [extract_of_path hsolid, hbody]
    simp only [hresolve, Option.bind_some, variableText]
    decide +kernel
  have hcompiles : ∀ refusal, Pattern.compile "n" = .error refusal → refusal = .malformed := by
    intro refusal hrefused
    have haccepted : (Pattern.compile "n").toOption.isSome = true := by decide +kernel
    rw [hrefused] at haccepted
    cases haccepted
  refine ⟨?_, ?_, hlaws.found "n" "v" "a2" "" hcompiles⟩
  · exact hlaws.node "n[0]" "v" "a1" _ _ "0.0" hsolid hbody hresolve (by simp) hpicked
  · exact (hlaws.headerless "X-Id" "v" "a3" "").mpr (by cbv)

end Assay
