import Assay.Proofs.Assertion.Support

/-! # Warnings about assertions

The review of a suite warns about an entry of its assertions exactly if the catalogue does not
support the assertion that is read from the entry. Such an assertion fails whenever it is made, and
the verdict on any other one does not call its type or its operator unknown.
-/

namespace Assay

/-! ## Warnings of a review -/

namespace Review

@[simp] theorem warnings_append (first second : Review) :
    (first ++ second).warnings = first.warnings ++ second.warnings := rfl

@[simp] theorem warnings_clean : Review.clean.warnings = [] := rfl

@[simp] theorem warnings_error (place message : String) (value : Datum)
    (advice : Option String) : (Review.error place message value advice).warnings = [] := rfl

theorem warnings_when (condition : Bool) (review : Review) :
    (Review.when condition review).warnings = if condition then review.warnings else [] := by
  cases condition <;> rfl

@[simp] theorem warnings_when_error (condition : Bool) (place message : String)
    (value : Datum) (advice : Option String) :
    (Review.when condition (.error place message value advice)).warnings = [] := by
  cases condition <;> rfl

/-- Reviews without warnings give none when they are joined. -/
theorem warnings_join_map {α : Type} {items : List α} {review : α → Review}
    (hnone : ∀ item, (review item).warnings = []) :
    (Review.join (items.map review)).warnings = [] := by
  induction items with
  | nil => rfl
  | cons item rest ih =>
      change (review item ++ Review.join (rest.map review)).warnings = []
      rw [warnings_append, hnone, ih, List.append_nil]

end Review

namespace Suite

open Datum (fieldOf fieldOf?)

variable {place : String} {fields entries : List (Datum × Datum)} {items : List Datum}

/-! ## Parts that give errors only -/

@[simp] theorem warnings_reviewFields : (reviewFields entries).warnings = [] := by
  rw [reviewFields, Review.warnings_append, Review.warnings_join_map fun _ => rfl,
    Review.warnings_join_map fun _ => rfl, List.append_nil]

@[simp] theorem warnings_reviewVersion {version : Datum} :
    (reviewVersion version).warnings = [] := by
  unfold reviewVersion
  split <;> simp

@[simp] theorem warnings_reviewName {name : Datum} : (reviewName name).warnings = [] := by
  unfold reviewName
  split <;> simp

@[simp] theorem warnings_reviewVariable {key value : Datum} :
    (reviewVariable key value).warnings = [] := by
  unfold reviewVariable
  split <;> simp

@[simp] theorem warnings_reviewVariables {bindings : Datum} :
    (reviewVariables bindings).warnings = [] := by
  unfold reviewVariables
  split
  · simp
  · split <;> simp [Review.warnings_join_map]

@[simp] theorem warnings_reviewId {earlier : List String} {id : Datum} :
    (reviewId place earlier id).warnings = [] := by
  unfold reviewId
  dsimp only
  split
  · simp
  · split <;> simp

@[simp] theorem warnings_reviewTag {field : String} {tag : Datum} :
    (reviewTag place field tag).warnings = [] := by
  simp [reviewTag]

@[simp] theorem warnings_reviewProperty {property : Datum} :
    (reviewProperty place property).warnings = [] := by
  simp [reviewProperty]

@[simp] theorem warnings_reviewExpected {expected : Option Datum} :
    (reviewExpected room place expected).warnings = [] := by
  unfold reviewExpected
  split <;> simp

@[simp] theorem warnings_reviewEnabled {enabled : Datum} :
    (reviewEnabled place enabled).warnings = [] := by
  simp [reviewEnabled]

@[simp] theorem warnings_reviewRulePath {source : Option Source} {path : Datum} :
    (reviewRulePath place source path).warnings = [] := by
  unfold reviewRulePath
  dsimp only
  split
  · split <;> simp
  · simp

@[simp] theorem warnings_reviewRule : (reviewRule place fields).warnings = [] := by
  simp [reviewRule]

@[simp] theorem warnings_reviewRulesFrom {index : Nat} :
    (reviewRulesFrom index items).warnings = [] := by
  induction items generalizing index with
  | nil => rfl
  | cons item rest ih =>
      rw [reviewRulesFrom, Review.warnings_append, ih, List.append_nil]
      split <;> simp

@[simp] theorem warnings_reviewRules {rules : Datum} : (reviewRules rules).warnings = [] := by
  unfold reviewRules
  split
  · simp
  · split <;> simp

/-- All warnings of a valid review are about its assertions. -/
theorem warnings_review (hvalid : (review room entries).isValid = true) :
    (review room entries).warnings =
      (reviewAssertions room (fieldOf entries "assertions")).warnings := by
  have hfields : (reviewFields entries).isValid = true := by
    obtain hfits := review_isValid_iff.mp hvalid
    exact reviewFields_isValid_iff.mpr ⟨hfits.required, hfits.known⟩
  simp [review, hfields]

/-! ## Warnings about tags -/

/-- No warning is given about the tags of an assertion exactly if it is supported. -/
theorem warnings_reviewSupport_eq_nil_iff (place : String) (assertion : Assertion) :
    (reviewSupport place assertion.typeTag assertion.operatorTag).warnings = [] ↔
      assertion.isSupported = true := by
  rw [isSupported_iff]
  unfold reviewSupport Assertion.subject? Assertion.operator?
  cases Subject.ofTag? assertion.typeTag with
  | none => simp [Review.warning]
  | some subject =>
      simp [Review.warnings_when, Review.warning, Operator.ofTag?_eq_some_iff, and_comm]

/-- A warning about tags stands at one of the two fields for tags. -/
theorem place_of_mem_reviewSupport {typeTag operatorTag : String} {remark : Remark}
    (hmem : remark ∈ (reviewSupport place typeTag operatorTag).warnings) :
    ∃ field ∈ [".type", ".operator"], remark.place = place ++ field := by
  unfold reviewSupport at hmem
  split at hmem
  · obtain rfl := List.mem_singleton.mp hmem
    exact ⟨".type", by simp, rfl⟩
  · unfold Review.when at hmem
    split at hmem
    · obtain rfl := List.mem_singleton.mp hmem
      exact ⟨".operator", by simp, rfl⟩
    · cases hmem

/-- The warnings about an entry are those about its tags, where it has both. -/
theorem mem_warnings_reviewAssertion {earlier : List String} {remark : Remark} :
    remark ∈ (reviewAssertion room place earlier fields).warnings ↔
      ∃ typeTag operatorTag, (fieldOf fields "type").text? = some typeTag ∧
        (fieldOf fields "operator").text? = some operatorTag ∧
        remark ∈ (reviewSupport place typeTag operatorTag).warnings := by
  simp only [reviewAssertion, Review.warnings_append, warnings_reviewId, warnings_reviewTag,
    warnings_reviewProperty, warnings_reviewExpected, warnings_reviewEnabled, List.nil_append]
  split
  next htype hoperator => simp [htype, hoperator]
  next hnone =>
    simp only [Review.warnings_clean, List.not_mem_nil, false_iff]
    rintro ⟨typeTag, operatorTag, htype, hoperator, -⟩
    exact hnone typeTag operatorTag htype hoperator

/-- The warnings about entries from an index on are those about the tags of each of them, at the
place that its position gives. -/
theorem mem_warnings_reviewAssertionsFrom {index : Nat} {earlier : List String} {remark : Remark} :
    remark ∈ (reviewAssertionsFrom room index earlier items).warnings ↔
      ∃ offset item fields typeTag operatorTag, items[offset]? = some item ∧
        item.entries? = some fields ∧ (fieldOf fields "type").text? = some typeTag ∧
        (fieldOf fields "operator").text? = some operatorTag ∧
        remark ∈ (reviewSupport s!"assertions[{index + offset}]" typeTag operatorTag).warnings := by
  induction items generalizing index earlier with
  | nil => simp [reviewAssertionsFrom]
  | cons item rest ih =>
      rw [reviewAssertionsFrom, Review.warnings_append, List.mem_append, ih]
      constructor
      · rintro (hhead | ⟨offset, other, fields, typeTag, operatorTag, hother, htags⟩)
        · cases hentries : item.entries? with
          | none => simp [hentries] at hhead
          | some fields =>
              rw [hentries, mem_warnings_reviewAssertion] at hhead
              obtain ⟨typeTag, operatorTag, htags⟩ := hhead
              exact ⟨0, item, fields, typeTag, operatorTag, rfl, hentries, htags⟩
        · rw [Nat.add_right_comm] at htags
          exact ⟨offset + 1, other, fields, typeTag, operatorTag, hother, htags⟩
      · rintro ⟨offset, other, fields, typeTag, operatorTag, hother, hentries, htags⟩
        cases offset with
        | zero =>
            obtain rfl := Option.some.inj hother
            left
            rw [hentries, mem_warnings_reviewAssertion]
            exact ⟨typeTag, operatorTag, htags⟩
        | succ offset =>
            right
            rw [← Nat.add_assoc, Nat.add_right_comm] at htags
            exact ⟨offset, other, fields, typeTag, operatorTag, hother, hentries, htags⟩

end Suite

/-! ## Places -/

/-- A remark is about the entry of the assertions at an index: its place is the entry or in it. -/
def Remark.IsAbout (remark : Remark) (index : Nat) : Prop :=
  s!"assertions[{index}]".toList <+: remark.place.toList

/-- A place is written with the digits of its number, so different places have different texts. -/
theorem toList_entryPlace (index : Nat) :
    s!"assertions[{index}]".toList = "assertions[".toList ++ Number.digitsOf index ++ [']'] := by
  have hdigits : (toString index).toList = Number.digitsOf index := Nat.toList_repr
  rw [String.toList_append, String.toList_append, hdigits]
  rfl

theorem bracket_notMem_digitsOf (number : Nat) : ']' ∉ Number.digitsOf number := by
  intro hmem
  exact absurd (Number.isDigit_of_mem_digitsOf hmem) (by decide)

namespace Suite

/-- The place of a warning about tags tells the entry, as no digit is a bracket. -/
theorem isAbout_iff {index other : Nat} {typeTag operatorTag : String} {remark : Remark}
    (hmem : remark ∈ (reviewSupport s!"assertions[{other}]" typeTag operatorTag).warnings) :
    remark.IsAbout index ↔ index = other := by
  obtain ⟨field, hfield, hplace⟩ := place_of_mem_reviewSupport hmem
  have hbracket : ']' ∉ field.toList := by
    simp only [List.mem_cons, List.not_mem_nil, or_false] at hfield
    rcases hfield with rfl | rfl <;> decide
  rw [Remark.IsAbout, hplace, toList_entryPlace, String.toList_append, toList_entryPlace]
  constructor
  · rintro ⟨behind, hsame⟩
    simp only [List.append_assoc, List.append_cancel_left_eq, List.singleton_append] at hsame
    have hdigits := ((List.append_cons_inj_of_notMem (bracket_notMem_digitsOf other)
      hbracket).mp hsame.symm).1
    rw [← Number.ofDigits_digitsOf index, ← hdigits, Number.ofDigits_digitsOf]
  · rintro rfl
    exact List.prefix_append _ _

/-! ## Warnings and support -/

/-- The entry at an index has a warning exactly if an assertion is read from it that is not
supported. -/
theorem exists_warning_iff {assertions : List Assertion}
    (hread : List.Forall₂ (Yields Assertion.ofFields?) items assertions) (index : Nat) :
    (∃ remark ∈ (reviewAssertionsFrom room 0 [] items).warnings, remark.IsAbout index) ↔
      ∃ assertion, assertions[index]? = some assertion ∧ assertion.isSupported = false := by
  simp only [mem_warnings_reviewAssertionsFrom, Nat.zero_add]
  rcases optionRel_iff.mp (rel_getElem?_of_forall₂ hread index) with
    ⟨hitem, hassertion⟩ | ⟨item, assertion, hitem, hassertion, hyields⟩
  · -- behind the last entry there is neither a warning nor an assertion
    constructor
    · rintro ⟨remark, ⟨offset, _, _, _, _, hoffset, -, -, -, hmem⟩, habout⟩
      obtain rfl := (isAbout_iff hmem).mp habout
      rw [hitem] at hoffset
      cases hoffset
    · rintro ⟨assertion, hsome, -⟩
      rw [hassertion] at hsome
      cases hsome
  · obtain ⟨fields, hfields, hyields⟩ := Option.bind_eq_some_iff.mp hyields
    have hread := Assertion.ofFields?_eq_some_iff.mp hyields
    have hsupport := warnings_reviewSupport_eq_nil_iff s!"assertions[{index}]" assertion
    rw [hassertion]
    simp only [Option.some.injEq, exists_eq_left', ← Bool.not_eq_true, ← hsupport]
    constructor
    · rintro ⟨remark, ⟨offset, other, others, typeTag, operatorTag, hoffset, hothers, htype,
        hoperator, hmem⟩, habout⟩
      obtain rfl := (isAbout_iff hmem).mp habout
      obtain rfl := Option.some.inj (hitem.symm.trans hoffset)
      obtain rfl := Option.some.inj (hfields.symm.trans hothers)
      obtain rfl := Option.some.inj (hread.typeTag.symm.trans htype)
      obtain rfl := Option.some.inj (hread.operatorTag.symm.trans hoperator)
      exact List.ne_nil_of_mem hmem
    · intro hwarned
      obtain ⟨remark, hmem⟩ := List.exists_mem_of_ne_nil _ hwarned
      exact ⟨remark, ⟨index, item, fields, _, _, hitem, hfields, hread.typeTag, hread.operatorTag,
        hmem⟩, (isAbout_iff hmem).mpr rfl⟩

/-- Suites are warned about exactly where the catalogue fails them. For entries whose review finds
no error, an entry of the assertions has a warning exactly if the assertion read from it is not
supported; and of every assertion that is made, the verdict is a failure if it is not supported, and
calls neither its type nor its operator unknown if it is. -/
theorem warned_iff_unsupported :
    (∀ room entries, (review room entries).isValid = true →
      ∃ suite, ofEntries? entries = some suite ∧
        ∀ index, (∃ remark ∈ (review room entries).warnings, remark.IsAbout index) ↔
          ∃ assertion, suite.assertions[index]? = some assertion ∧
            assertion.isSupported = false) ∧
    ∀ (assertion : Assertion) (response : Response) (verdict : Verdict),
      assertion.isEnabled = true → assertion.check response = .ok verdict →
        (assertion.isSupported = false → verdict.passed = false) ∧
        (assertion.isSupported = true →
          verdict.message ≠ s!"Unknown assertion type: {assertion.typeTag}" ∧
            verdict.message ≠ s!"Unknown operator: {assertion.operatorTag}") := by
  constructor
  · intro room entries hvalid
    obtain ⟨suite, items, hsuite, hitems, hassertions⟩ := exists_reviewed hvalid
    refine ⟨suite, hsuite, fun index => ?_⟩
    rw [warnings_review hvalid, reviewAssertions, hitems]
    exact exists_warning_iff (hassertions.imp fun _ _ => And.right) index
  · intro assertion response verdict henabled hverdict
    exact ⟨fun hunsupported => fails_of_unsupported henabled hunsupported hverdict,
      fun hsupported => known_of_supported henabled hsupported hverdict⟩

/-- The second assertion of a suite has a type that is none, so it is warned about and fails; one
on the status is supported, and its failure is about the status. -/
theorem unheard_type_warned_and_failed :
    (review 2 structuredEntries).isValid = true ∧
      (∃ suite, ofEntries? structuredEntries = some suite ∧
        ∀ index, (∃ remark ∈ (review 2 structuredEntries).warnings, remark.IsAbout index) ↔
          ∃ assertion, suite.assertions[index]? = some assertion ∧
            assertion.isSupported = false) ∧
      (∀ verdict, Assertion.check ⟨"a2", "unheard", "", "equals", "", some true⟩ ⟨200, [], "", 0⟩ =
        .ok verdict → verdict.passed = false) ∧
      ∃ verdict, Assertion.check ⟨"a3", "status", "", "lessThan", "200", some true⟩
          ⟨200, [], "", 0⟩ = .ok verdict ∧
        verdict.message ≠ "Unknown assertion type: status" ∧
        verdict.message ≠ "Unknown operator: lessThan" := by
  have hvalid : (review 2 structuredEntries).isValid = true := by decide +kernel
  have hcheck : Assertion.check ⟨"a3", "status", "", "lessThan", "200", some true⟩
      ⟨200, [], "", 0⟩ = .ok ⟨"a3", false, "200", "Expected < 200, got 200"⟩ := by rfl
  refine ⟨hvalid, warned_iff_unsupported.1 2 _ hvalid, fun verdict hverdict => ?_, _, hcheck, ?_⟩
  · exact (warned_iff_unsupported.2 _ _ verdict (by decide) hverdict).1 (by decide)
  · exact (warned_iff_unsupported.2 _ _ _ (by decide) hcheck).2 (by decide)

end Suite

end Assay
