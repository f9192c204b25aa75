import Assay.Proofs.Datum.Structured
import Assay.Proofs.Suite.Reader
import Assay.Proofs.Suite.Shape

/-! # What a suite takes from its entries

A suite whose review finds no error can be read, and nothing of it is lost: ids, tags and texts are
taken as they stand, other values as their JSON text, and every entry of a list or of a table gives
one item, in order. There is one exception: the review tries to write an expected value one call
nearer than the reading, so a value that takes all the room of the review exhausts the stack later.
-/

namespace Assay

theorem Subject.ofTag?_eq_some_iff {tag : String} {subject : Subject} :
    ofTag? tag = some subject ↔ subject.tag = tag :=
  find?_tag_eq_some_iff ofTag?_tag

theorem Operator.ofTag?_eq_some_iff {tag : String} {operator : Operator} :
    ofTag? tag = some operator ↔ operator.tag = tag :=
  find?_tag_eq_some_iff ofTag?_tag

namespace Datum

variable {fields : List (Datum × Datum)} {name : String}

/-- A text stands for a datum: for itself, or for a datum of which it is the JSON text. -/
inductive StandsFor : String → Datum → Prop
  | text (content : String) : StandsFor content (.text content)
  | json {datum : Datum} {value : Json.Value} (hother : ∀ content, datum ≠ .text content)
      (hvalue : datum.json? = some value) : StandsFor (Json.canonical value) datum

theorem standsFor_of_rendered? {datum : Datum} {content : String}
    (hrendered : datum.rendered? = some content) : StandsFor content datum := by
  unfold rendered? at hrendered
  split at hrendered
  next text =>
    obtain rfl := Option.some.inj hrendered
    exact .text text
  next other hother =>
    obtain ⟨value, hvalue, rfl⟩ := Option.map_eq_some_iff.mp hrendered
    exact .json hother hvalue

/-- A text is the one that a field gives, or it is empty and the field gives none. -/
def GivesText (fields : List (Datum × Datum)) (name content : String) : Prop :=
  fieldOf? fields name = some (.text content) ∨
    content = "" ∧ ∀ value, fieldOf? fields name = some value → value = .null

theorem givesText_of_optional
    (hshape : MayGive fields name fun value => ∃ content, value = .text content) :
    GivesText fields name ((fieldOf fields name).text?.getD "") := by
  unfold GivesText fieldOf
  cases hgiven : fieldOf? fields name with
  | none => exact Or.inr ⟨rfl, by simp⟩
  | some value =>
      rcases hshape value hgiven with rfl | ⟨content, rfl⟩
      · exact Or.inr ⟨rfl, fun _ hvalue => (Option.some.inj hvalue).symm⟩
      · exact Or.inl rfl

end Datum

open Datum (fieldOf fieldOf? StandsFor GivesText MayGive mayGive_iff)

/-- An assertion has what its fields say. -/
structure Assertion.IsFaithful (assertion : Assertion) (fields : List (Datum × Datum)) :
    Prop where
  id : fieldOf? fields "id" = some (.text assertion.id) ∧ assertion.id ≠ ""
  typeTag : fieldOf? fields "type" = some (.text assertion.typeTag)
  operatorTag : fieldOf? fields "operator" = some (.text assertion.operatorTag)
  subject : ∀ subject, assertion.subject? = some subject ↔ subject.tag = assertion.typeTag
  operator : ∀ operator, assertion.operator? = some operator ↔
    operator.tag = assertion.operatorTag
  property : GivesText fields "property" assertion.property
  expected : match fieldOf? fields "expected" with
    | none => assertion.expected = ""
    | some value => StandsFor assertion.expected value

structure Rule.IsFaithful (rule : Rule) (fields : List (Datum × Datum)) : Prop where
  source : fieldOf? fields "type" = some (.text rule.source.tag)
  target : fieldOf? fields "variable" = some (.text rule.target)
  path : GivesText fields "path" rule.path
  path_ne : rule.source ∈ [.json, .jsonpath, .header, .regex] → rule.path ≠ ""

namespace Suite

/-- What is read from an item has what the fields of the item say. -/
def FaithfulTo {α : Type} (isFaithful : α → List (Datum × Datum) → Prop) (item : Datum)
    (result : α) : Prop :=
  ∃ fields, item.entries? = some fields ∧ isFaithful result fields

/-- A suite has what its entries say. Where no variables or no rules are given it has none. -/
structure IsFaithful (suite : Suite) (entries : List (Datum × Datum)) : Prop where
  version : fieldOf? entries "version" = some (.int suite.version) ∧ 1 ≤ suite.version
  name : fieldOf? entries "name" = some (.text suite.name) ∧
    ∃ c ∈ suite.name.toList, Text.isBlank c = false
  bindings : List.Forall₂ (fun entry binding => entry.1 = .text binding.1 ∧
      StandsFor binding.2 entry.2)
    ((fieldOf entries "variables").entries?.getD []) suite.bindings
  assertions : ∃ items, (fieldOf entries "assertions").items? = some items ∧
    List.Forall₂ (FaithfulTo Assertion.IsFaithful) items suite.assertions
  ids : (suite.assertions.map Assertion.id).Nodup
  rules : List.Forall₂ (FaithfulTo Rule.IsFaithful)
    ((fieldOf entries "extract").items?.getD []) suite.rules

variable {room : Nat} {fields entries : List (Datum × Datum)}

/-- An assertion that is read from fields in order says what they say. -/
theorem isFaithful_assertion {assertion : Assertion} (hfits : FitsAssertion room fields)
    (hread : assertion.IsReadFrom fields) : assertion.IsFaithful fields where
  id := by
    obtain ⟨id, hid, hne⟩ := hfits.id
    obtain rfl := Option.some.inj (hread.id.symm.trans hid)
    exact ⟨Datum.text?_fieldOf_iff.mp hid, hne⟩
  typeTag := Datum.text?_fieldOf_iff.mp hread.typeTag
  operatorTag := Datum.text?_fieldOf_iff.mp hread.operatorTag
  subject _ := Subject.ofTag?_eq_some_iff
  operator _ := Operator.ofTag?_eq_some_iff
  property := by
    rw [← hread.property]
    refine Datum.givesText_of_optional (mayGive_iff.mpr ?_)
    simpa only [Datum.text?_eq_some_iff] using hfits.property
  expected := by
    have hexpected := hread.expected
    unfold Assertion.expectedOf? at hexpected
    cases hgiven : fieldOf? fields "expected" with
    | none =>
        rw [hgiven] at hexpected
        exact (Option.some.inj hexpected).symm
    | some value =>
        rw [hgiven] at hexpected
        exact Datum.standsFor_of_rendered? hexpected

theorem isFaithful_rule {rule : Rule} (hfits : FitsRule fields)
    (hread : Rule.ofFields? fields = some rule) : rule.IsFaithful fields := by
  simp only [Rule.ofFields?, Option.bind_eq_bind, Option.bind_eq_some_iff, Option.pure_def,
    Option.some.injEq] at hread
  obtain ⟨source, ⟨tag, htag, hsource⟩, target, htarget, rfl⟩ := hread
  obtain rfl := Source.ofTag?_eq_some_iff.mp hsource
  obtain ⟨other, hother, hshape⟩ := (ruleShape_iff.mpr hfits).source
  refine ⟨Datum.text?_fieldOf_iff.mp htag, Datum.text?_fieldOf_iff.mp htarget, ?_, ?_⟩
  · refine Datum.givesText_of_optional (mayGive_iff.mpr ?_)
    simpa only [Datum.text?_eq_some_iff] using hfits.path
  · intro hneeded
    have hsame : Source.ofTag? source.tag = some other := by
      rw [Datum.text?_fieldOf_iff.mpr hother] at htag
      rw [← Option.some.inj htag, Source.ofTag?_tag]
    obtain rfl := Option.some.inj ((Source.ofTag?_tag source).symm.trans hsame)
    obtain ⟨path, hpath, hne⟩ :
        ∃ path, fieldOf? fields "path" = some (.text path) ∧ path ≠ "" := by
      cases source with
      | json | jsonpath | header | regex => exact hshape
      | status | body => simp at hneeded
    rwa [Datum.text?_fieldOf_iff.mpr hpath]

/-- Variables are read entry by entry, each with the text of its value. -/
theorem isFaithful_tableOf? {table : Table String String} (hread : tableOf? entries = some table) :
    List.Forall₂ (fun entry binding => entry.1 = .text binding.1 ∧ StandsFor binding.2 entry.2)
      entries table := by
  refine (mapM_eq_some_iff.mp hread).imp fun entry binding hbinding => ?_
  simp only [Option.bind_eq_bind, Option.bind_eq_some_iff, Option.pure_def,
    Option.some.injEq] at hbinding
  obtain ⟨name, hname, text, htext, rfl⟩ := hbinding
  exact ⟨Datum.text?_eq_some_iff.mp hname, Datum.standsFor_of_rendered? htext⟩

/-- What is read from entries that fit the schema is what they say. -/
theorem Fits.isFaithful {suite : Suite} (hfits : Fits room entries)
    (hread : suite.IsReadFrom entries) :
    suite.IsFaithful entries := by
  obtain ⟨items, hitems, hassertions⟩ := hread.assertions
  obtain ⟨others, hothers, hshapes, hnodup⟩ := hfits.assertions
  obtain rfl := Option.some.inj (hitems.symm.trans hothers)
  have hfaithful : List.Forall₂ (FaithfulTo Assertion.IsFaithful) items suite.assertions := by
    refine forall₂_imp_of_mem (fun item hitem assertion hyields => ?_) hassertions
    obtain ⟨fields, hfields, hfits⟩ := hshapes item hitem
    rw [Yields, hfields, Option.bind_some, Assertion.ofFields?_eq_some_iff] at hyields
    exact ⟨fields, hfields, isFaithful_assertion hfits hyields⟩
  have hids : properIds items = suite.assertions.map Assertion.id := by
    refine filterMap_eq_of_forall₂ hfaithful fun item assertion => ?_
    rintro ⟨fields, hfields, hassertion⟩
    obtain ⟨hid, hne⟩ := hassertion.id
    rw [← Datum.text?_fieldOf_iff] at hid
    simp [properId?, hfields, hid, hne]
  have hrules : ∀ item ∈ (fieldOf entries "extract").items?.getD [], IsRule item := by
    rcases hfits.rules with hnull | ⟨rules, hrules, hshapes⟩
    · simp [Datum.isNull_iff.mp hnull, Datum.items?]
    · rwa [hrules]
  obtain ⟨version, hversion, hpositive⟩ := hfits.version
  obtain rfl := Option.some.inj (hread.version.symm.trans hversion)
  have hname := (shape_iff.mpr hfits).name
  refine ⟨⟨Datum.int?_fieldOf_iff.mp hversion, hpositive⟩, ?_, isFaithful_tableOf? hread.bindings,
    ⟨items, hitems, hfaithful⟩, hids ▸ hnodup, ?_⟩
  · obtain ⟨name, hgiven, hsolid⟩ := hname
    rw [← Datum.text?_fieldOf_iff] at hgiven
    obtain rfl := Option.some.inj (hread.name.symm.trans hgiven)
    exact ⟨Datum.text?_fieldOf_iff.mp hgiven, hsolid⟩
  · refine forall₂_imp_of_mem (fun item hitem rule hyields => ?_) hread.rules
    obtain ⟨fields, hfields, hfits⟩ := hrules item hitem
    rw [Yields, hfields, Option.bind_some] at hyields
    exact ⟨fields, hfields, isFaithful_rule hfits hyields⟩

/-- Entries whose review finds no error describe a suite that has what they say. They are parsed as
this suite exactly if no expected value has more levels than there is room for, which is one less
than in the review; otherwise the stack is exhausted. -/
theorem accepted_suite_is_faithful_or_exhausts_stack
    (hvalid : (review (room + 1) entries).isValid = true) :
    ∃ suite : Suite, suite.IsFaithful entries ∧
      (parse room entries = .ok (some suite) ↔
        ∀ value, HasExpected entries value → value.IsPlain room) ∧
      (parse room entries = .error ⟨⟩ ↔
        ∃ value, HasExpected entries value ∧ ¬ value.IsPlain room) := by
  have hfits := review_isValid_iff.mp hvalid
  obtain ⟨suite, hread⟩ := hfits.exists_suite
  refine ⟨suite, hfits.isFaithful hread, ?_, hfits.parse_eq_error_iff⟩
  rw [hfits.parse_eq_ok_iff, and_iff_left (ofEntries?_eq_some_iff.mpr hread)]

/-- The entries of a suite with a structured expected value, whose keys are no texts, with a
property that is null, with a tag that names no type and with a rule that has no path. -/
def structuredEntries : List (Datum × Datum) :=
  [(.text "version", .int 2), (.text "name", .text " structured "),
    (.text "variables", .map [(.text "b", .int 0), (.text "a", .null)]),
    (.text "assertions", .list [
      .map [(.text "id", .text "a1"), (.text "type", .text "bodyJson"),
        (.text "property", .null), (.text "operator", .text "equals"),
        (.text "expected", .map [(.int 1, .list []), (.null, .bool false)])],
      .map [(.text "id", .text "a2"), (.text "type", .text "unheard"),
        (.text "operator", .text "equals"), (.text "enabled", .bool false)]]),
    (.text "extract", .list [
      .map [(.text "type", .text "status"), (.text "variable", .text "s")],
      .map [(.text "type", .text "header"), (.text "path", .text "X-Id"),
        (.text "variable", .text "s")]])]

/-- A suite that expects a structured value is read, and says what its entries say. -/
theorem structuredEntries_read_faithfully :
    (review 3 structuredEntries).isValid = true ∧
      ∃ suite : Suite, suite.IsFaithful structuredEntries ∧
        parse 2 structuredEntries = .ok (some suite) := by
  have hvalid : (review 3 structuredEntries).isValid = true := by decide +kernel
  obtain ⟨suite, hfaithful, hparsed, -⟩ := accepted_suite_is_faithful_or_exhausts_stack hvalid
  refine ⟨hvalid, suite, hfaithful, hparsed.mpr fun value hexpected => ?_⟩
  have hfits : (expectedData structuredEntries).all (Datum.fits 2) = true := by decide +kernel
  exact (review_isValid_iff.mp hvalid).all_fits_iff.mp hfits value hexpected

/-- However much room there is, arrays inside each other can take all of it. -/
theorem parse_nested_eq_error (room : Nat) :
    (review (room + 1) (entriesExpecting (.ofJson (.nested room)))).isValid = true ∧
      parse room (entriesExpecting (.ofJson (.nested room))) = .error ⟨⟩ := by
  have hvalid := entriesExpecting_isValid (isJson_nested (Nat.lt_succ_self room))
  exact ⟨hvalid, (review_isValid_iff.mp hvalid).parse_eq_error_iff.mpr
    ⟨_, hasExpected_entriesExpecting_iff.mpr rfl, not_isPlain_nested room⟩⟩

/-- With room for 989 levels, 990 arrays inside each other pass the review and are not parsed. -/
theorem nested_arrays_exhaust_stack :
    (review 990 (entriesExpecting (.ofJson (.nested 989)))).isValid = true ∧
      parse 989 (entriesExpecting (.ofJson (.nested 989))) = .error ⟨⟩ :=
  parse_nested_eq_error 989

end Suite

end Assay
