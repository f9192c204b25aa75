import Assay.Proofs.Datum.Plain
import Assay.Proofs.Suite.Schema
import Assay.Proofs.Traversal
import Assay.Suite.Reader

/-! # Reading suites that fit the schema

A suite is read from its entries part by part. Entries that fit the schema have a reading, since
every part of them does.
-/

namespace Assay

variable {room : Nat}

/-- Data that have JSON text are rendered. -/
theorem Datum.exists_rendered_of_isJson {datum : Datum} (hjson : datum.isJson room = true) :
    ∃ text, datum.rendered? = some text := by
  obtain ⟨value, hvalue, -⟩ := isJson_iff_exists.mp hjson
  unfold rendered?
  split
  · exact ⟨_, rfl⟩
  · exact ⟨_, congrArg (Option.map Json.canonical) hvalue⟩

/-! ## Assertions -/

/-- What an assertion takes from the fields of its entry. -/
structure Assertion.IsReadFrom (assertion : Assertion) (fields : List (Datum × Datum)) : Prop where
  id : (Datum.fieldOf fields "id").text? = some assertion.id
  typeTag : (Datum.fieldOf fields "type").text? = some assertion.typeTag
  property : (Datum.fieldOf fields "property").text?.getD "" = assertion.property
  operatorTag : (Datum.fieldOf fields "operator").text? = some assertion.operatorTag
  expected : expectedOf? fields = some assertion.expected
  enabled : switchOf fields = assertion.enabled

/-- The assertion that is read is the one the fields give. -/
theorem Assertion.ofFields?_eq_some_iff {fields : List (Datum × Datum)} {assertion : Assertion} :
    ofFields? fields = some assertion ↔ assertion.IsReadFrom fields := by
  simp only [ofFields?, Option.bind_eq_bind, Option.bind_eq_some_iff, Option.pure_def,
    Option.some.injEq]
  constructor
  · rintro ⟨id, hid, typeTag, htype, operatorTag, hoperator, expected, hexpected, rfl⟩
    exact ⟨hid, htype, rfl, hoperator, hexpected, rfl⟩
  · rintro ⟨hid, htype, hproperty, hoperator, hexpected, henabled⟩
    refine ⟨_, hid, _, htype, _, hoperator, _, hexpected, ?_⟩
    rw [hproperty, henabled]

/-- An assertion is read from fields that fit the schema. -/
theorem Suite.FitsAssertion.exists_assertion {fields : List (Datum × Datum)}
    (hfits : FitsAssertion room fields) :
    ∃ assertion, Assertion.ofFields? fields = some assertion := by
  obtain ⟨id, hid, -⟩ := hfits.id
  obtain ⟨typeTag, htype⟩ := hfits.typeTag
  obtain ⟨operatorTag, hoperator⟩ := hfits.operatorTag
  have hexpected : ∃ expected, Assertion.expectedOf? fields = some expected := by
    unfold Assertion.expectedOf?
    split
    next => exact ⟨"", rfl⟩
    next value hvalue => exact Datum.exists_rendered_of_isJson (hfits.expected value hvalue)
  obtain ⟨expected, hexpected⟩ := hexpected
  exact ⟨⟨id, typeTag, _, operatorTag, expected, _⟩,
    Assertion.ofFields?_eq_some_iff.mpr ⟨hid, htype, rfl, hoperator, hexpected, rfl⟩⟩

/-- A rule is read from fields that fit the schema. -/
theorem Suite.FitsRule.exists_rule {fields : List (Datum × Datum)} (hfits : FitsRule fields) :
    ∃ rule, Rule.ofFields? fields = some rule := by
  obtain ⟨source, hsource, -⟩ := hfits.source
  obtain ⟨target, htarget, -⟩ := hfits.target
  refine ⟨⟨source, (Datum.fieldOf fields "path").text?.getD "", target⟩, ?_⟩
  simp [Rule.ofFields?, hsource, htarget]

namespace Suite

/-! ## Suites -/

/-- A datum yields what is read from its fields. -/
def Yields {α : Type} (read : List (Datum × Datum) → Option α) (item : Datum) (result : α) : Prop :=
  item.entries?.bind read = some result

/-- What a suite takes from its entries. -/
structure IsReadFrom (suite : Suite) (entries : List (Datum × Datum)) : Prop where
  version : (Datum.fieldOf entries "version").int? = some suite.version
  name : (Datum.fieldOf entries "name").text? = some suite.name
  bindings : tableOf? ((Datum.fieldOf entries "variables").entries?.getD []) = some suite.bindings
  assertions : ∃ items, (Datum.fieldOf entries "assertions").items? = some items ∧
    List.Forall₂ (Yields Assertion.ofFields?) items suite.assertions
  rules : List.Forall₂ (Yields Rule.ofFields?)
    ((Datum.fieldOf entries "extract").items?.getD []) suite.rules

/-- The suite that is read is the one the entries give. -/
theorem ofEntries?_eq_some_iff {entries : List (Datum × Datum)} {suite : Suite} :
    ofEntries? entries = some suite ↔ suite.IsReadFrom entries := by
  constructor
  · intro hread
    simp only [ofEntries?, Option.bind_eq_bind, Option.pure_def] at hread
    obtain ⟨version, hversion, hread⟩ := Option.bind_eq_some_iff.mp hread
    obtain ⟨name, hname, hread⟩ := Option.bind_eq_some_iff.mp hread
    obtain ⟨bindings, hbindings, hread⟩ := Option.bind_eq_some_iff.mp hread
    obtain ⟨items, hitems, hread⟩ := Option.bind_eq_some_iff.mp hread
    obtain ⟨assertions, hassertions, hread⟩ := Option.bind_eq_some_iff.mp hread
    obtain ⟨rules, hrules, hread⟩ := Option.bind_eq_some_iff.mp hread
    obtain rfl := Option.some.inj hread
    exact ⟨hversion, hname, hbindings, ⟨items, hitems, mapM_eq_some_iff.mp hassertions⟩,
      mapM_eq_some_iff.mp hrules⟩
  · rintro ⟨hversion, hname, hbindings, ⟨items, hitems, hassertions⟩, hrules⟩
    simp only [ofEntries?, hversion, hname, hbindings, hitems, mapM_eq_some_iff.mpr hassertions,
      mapM_eq_some_iff.mpr hrules, Option.bind_eq_bind, Option.bind_some, Option.pure_def]

/-- A list is read when each of its items has fields from which something is read. -/
theorem exists_yields {α : Type} {read : List (Datum × Datum) → Option α} {items : List Datum}
    (hitems : ∀ item ∈ items, ∃ fields, item.entries? = some fields ∧
      ∃ result, read fields = some result) :
    ∃ results, List.Forall₂ (Yields read) items results := by
  refine exists_forall₂_iff.mpr fun item hitem => ?_
  obtain ⟨fields, hfields, result, hresult⟩ := hitems item hitem
  exact ⟨result, by rw [Yields, hfields, Option.bind_some, hresult]⟩

theorem AreVariables.exists_table {bindings : Datum} (hbindings : AreVariables bindings) :
    ∃ table, tableOf? (bindings.entries?.getD []) = some table := by
  rcases hbindings with hnull | ⟨entries, hentries, hvariables⟩
  · cases bindings <;> simp_all [Datum.isNull, Datum.entries?, tableOf?]
  · simp only [hentries, Option.getD_some, tableOf?, mapM_eq_some_iff]
    refine exists_forall₂_iff.mpr fun entry hentry => ?_
    obtain ⟨⟨name, hname⟩, hscalar⟩ := hvariables entry hentry
    have hjson : entry.2.isJson 0 = true := Datum.isJson_of_isScalar entry.2 hscalar
    obtain ⟨text, htext⟩ := Datum.exists_rendered_of_isJson hjson
    exact ⟨(name, text), by simp [hname, htext]⟩

theorem AreRules.exists_rules {rules : Datum} (hrules : AreRules rules) :
    ∃ read, List.Forall₂ (Yields Rule.ofFields?) (rules.items?.getD []) read := by
  rcases hrules with hnull | ⟨items, hitems, hshapes⟩
  · cases rules <;> simp_all [Datum.isNull, Datum.items?]
  · rw [hitems]
    refine exists_yields fun item hitem => ?_
    obtain ⟨fields, hfields, hfits⟩ := hshapes item hitem
    exact ⟨fields, hfields, hfits.exists_rule⟩

/-- A suite is read from entries that fit the schema. -/
theorem Fits.exists_suite {entries : List (Datum × Datum)} (hfits : Fits room entries) :
    ∃ suite : Suite, suite.IsReadFrom entries := by
  obtain ⟨version, hversion, -⟩ := hfits.version
  obtain ⟨name, hname, -⟩ := hfits.name
  obtain ⟨bindings, hbindings⟩ := hfits.bindings.exists_table
  obtain ⟨items, hitems, hshapes, -⟩ := hfits.assertions
  obtain ⟨rules, hrules⟩ := hfits.rules.exists_rules
  obtain ⟨assertions, hassertions⟩ : ∃ assertions,
      List.Forall₂ (Yields Assertion.ofFields?) items assertions := by
    refine exists_yields fun item hitem => ?_
    obtain ⟨fields, hfields, hfits⟩ := hshapes item hitem
    exact ⟨fields, hfields, hfits.exists_assertion⟩
  exact ⟨⟨version, name, bindings, assertions, rules⟩, hversion, hname, hbindings,
    ⟨items, hitems, hassertions⟩, hrules⟩

/-- Entries whose review finds no error give a suite, with one assertion for each of the items,
which is read from it. -/
theorem exists_reviewed {entries : List (Datum × Datum)}
    (hvalid : (review room entries).isValid = true) :
    ∃ suite items, ofEntries? entries = some suite ∧
      (Datum.fieldOf entries "assertions").items? = some items ∧
      List.Forall₂ (fun item assertion => IsAssertion room item ∧
        Yields Assertion.ofFields? item assertion) items suite.assertions := by
  have hfits := review_isValid_iff.mp hvalid
  obtain ⟨suite, hread⟩ := hfits.exists_suite
  obtain ⟨items, hitems, hassertions⟩ := hread.assertions
  obtain ⟨others, hothers, hshapes, -⟩ := hfits.assertions
  obtain rfl := Option.some.inj (hitems.symm.trans hothers)
  exact ⟨suite, items, ofEntries?_eq_some_iff.mpr hread, hitems,
    forall₂_imp_of_mem (fun item hitem _ hyields => ⟨hshapes item hitem, hyields⟩) hassertions⟩

/-! ## Room on the stack -/

/-- Some assertion among the entries of a suite is given an expected value. -/
def HasExpected (entries : List (Datum × Datum)) (value : Datum) : Prop :=
  ∃ items, (Datum.fieldOf entries "assertions").items? = some items ∧ ∃ item ∈ items,
    ∃ fields, item.entries? = some fields ∧ Datum.fieldOf? fields "expected" = some value

theorem mem_expectedData_iff {entries : List (Datum × Datum)} {value : Datum} :
    value ∈ expectedData entries ↔ HasExpected entries value := by
  unfold expectedData HasExpected
  cases (Datum.fieldOf entries "assertions").items? with
  | none => simp
  | some items => simp [List.mem_filterMap, Option.bind_eq_some_iff]

/-- Every expected value of entries that fit the schema has been written by the review. -/
theorem Fits.isJson_of_hasExpected {entries : List (Datum × Datum)} (hfits : Fits room entries)
    {value : Datum} (hexpected : HasExpected entries value) : value.isJson room = true := by
  obtain ⟨items, hitems, item, hitem, fields, hfields, hgiven⟩ := hexpected
  obtain ⟨others, hothers, hshapes, -⟩ := hfits.assertions
  obtain rfl := Option.some.inj (hitems.symm.trans hothers)
  obtain ⟨_, hsame, hassertion⟩ := hshapes item hitem
  obtain rfl := Option.some.inj (hfields.symm.trans hsame)
  exact hassertion.expected value hgiven

/-- The expected values can all be written when each of them leaves room on the stack. -/
theorem Fits.all_fits_iff {more : Nat} {entries : List (Datum × Datum)}
    (hfits : Fits more entries) :
    (expectedData entries).all (Datum.fits room) = true ↔
      ∀ value, HasExpected entries value → value.IsPlain room := by
  simp only [List.all_eq_true, mem_expectedData_iff]
  refine forall₂_congr fun value hexpected => ?_
  rw [Datum.fits_eq_isJson (hfits.isJson_of_hasExpected hexpected), Datum.isJson_iff]

/-- Entries that fit the schema are parsed as what is read from them, if the stack has room for all
expected values. -/
theorem Fits.parse_eq_ok_iff {more : Nat} {entries : List (Datum × Datum)}
    (hfits : Fits more entries) {read : Option Suite} :
    parse room entries = .ok read ↔
      (∀ value, HasExpected entries value → value.IsPlain room) ∧ ofEntries? entries = read := by
  rw [← hfits.all_fits_iff, parse]
  split <;> simp [*]

/-- An expected value that is nested too deep exhausts the stack. -/
theorem Fits.parse_eq_error_iff {more : Nat} {entries : List (Datum × Datum)}
    (hfits : Fits more entries) :
    parse room entries = .error ⟨⟩ ↔ ∃ value, HasExpected entries value ∧ ¬ value.IsPlain room := by
  have hdeep : (∃ value, HasExpected entries value ∧ ¬ value.IsPlain room) ↔
      ¬ (expectedData entries).all (Datum.fits room) = true := by
    rw [hfits.all_fits_iff]
    simp only [not_forall, exists_prop]
  rw [hdeep, parse]
  split <;> simp [*]

/-- The entries of a suite with one assertion, which expects the body to be a given datum. -/
def entriesExpecting (expected : Datum) : List (Datum × Datum) :=
  [(.text "version", .int 1), (.text "name", .text "deep"),
    (.text "assertions", .list [
      .map [(.text "id", .text "a1"), (.text "type", .text "bodyJson"),
        (.text "property", .text ""), (.text "operator", .text "equals"),
        (.text "expected", expected)]])]

theorem hasExpected_entriesExpecting_iff {expected value : Datum} :
    HasExpected (entriesExpecting expected) value ↔ value = expected := by
  have hitems : (Datum.fieldOf (entriesExpecting expected) "assertions").items? = some [_] := rfl
  simp only [HasExpected, hitems, Option.some.injEq, exists_eq_left', List.mem_singleton,
    exists_eq_left, Datum.entries?]
  change some expected = some value ↔ value = expected
  rw [Option.some.injEq, eq_comm]

theorem entriesExpecting_isValid {expected : Datum} (hjson : expected.isJson room = true) :
    (review room (entriesExpecting expected)).isValid = true := by
  have hassertion : FitsAssertion room [(.text "id", .text "a1"), (.text "type", .text "bodyJson"),
      (.text "property", .text ""), (.text "operator", .text "equals"),
      (.text "expected", expected)] :=
    { id := ⟨"a1", rfl, by decide⟩
      typeTag := ⟨_, rfl⟩
      operatorTag := ⟨_, rfl⟩
      property := .inr ⟨_, rfl⟩
      expected := by
        rintro _ ⟨⟩
        exact hjson
      enabled := .inl rfl }
  exact review_isValid_iff.mpr
    { required := by simp [requiredFields, entriesExpecting, Datum.fieldOf?, Datum.text?]
      known := by simp [entriesExpecting, knownFields, Datum.text?]
      version := ⟨1, rfl, by decide⟩
      name := ⟨"deep", rfl, by decide⟩
      bindings := .inl rfl
      assertions := ⟨_, rfl, List.forall_mem_singleton.mpr ⟨_, rfl, hassertion⟩,
        List.nodup_singleton "a1"⟩
      rules := .inl rfl }

end Suite

end Assay
