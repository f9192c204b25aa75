import Mathlib.Data.List.Nodup
import Assay.Suite.Schema

/-! # What the schema admits

The review of a suite finds no error exactly if the entries have the shape of the schema. Each part
of the schema is a predicate on the data, and the review of the part decides it.
-/

namespace Assay.Suite

open Review (isValid_join)

variable {room : Nat}

/-! ## Fields of an assertion -/

theorem isGiven_iff_of_text? {datum : Datum} {text : String} (htext : datum.text? = some text) :
    datum.isGiven = true ↔ text ≠ "" := by
  cases datum <;> simp_all [Datum.text?, Datum.isGiven]

theorem reviewId_isValid_iff {place : String} {earlier : List String} {id : Datum} :
    (reviewId place earlier id).isValid = true ↔
      ∃ text, id.text? = some text ∧ text ≠ "" ∧ text ∉ earlier := by
  unfold reviewId
  dsimp only
  cases htext : id.text? with
  | none => split <;> simp
  | some text =>
      have hgiven := isGiven_iff_of_text? htext
      split <;> simp_all

theorem reviewTag_isValid_iff {place field : String} {tag : Datum} :
    (reviewTag place field tag).isValid = true ↔ ∃ text, tag.text? = some text := by
  simp [reviewTag, Option.isSome_iff_exists]

theorem reviewProperty_isValid_iff {place : String} {property : Datum} :
    (reviewProperty place property).isValid = true ↔
      property.isNull = true ∨ ∃ text, property.text? = some text := by
  simp [reviewProperty, Option.isSome_iff_exists, or_iff_not_imp_left]

theorem reviewExpected_isValid_iff {place : String} {expected : Option Datum} :
    (reviewExpected room place expected).isValid = true ↔
      ∀ value, expected = some value → value.isJson room = true := by
  cases expected <;> simp [reviewExpected]

theorem reviewEnabled_isValid_iff {place : String} {enabled : Datum} :
    (reviewEnabled place enabled).isValid = true ↔
      enabled.isNull = true ∨ ∃ switch, enabled.bool? = some switch := by
  simp [reviewEnabled, Option.isSome_iff_exists, or_iff_not_imp_left]

/-- Tags that are not supported give warnings only. -/
@[simp] theorem reviewSupport_isValid {place typeTag operatorTag : String} :
    (reviewSupport place typeTag operatorTag).isValid = true := by
  unfold reviewSupport
  split
  · rfl
  · simp [Review.isValid_when]

/-! ## Assertions -/

/-- The fields of an assertion as the schema has them. -/
structure FitsAssertion (room : Nat) (fields : List (Datum × Datum)) : Prop where
  id : ∃ id, (Datum.fieldOf fields "id").text? = some id ∧ id ≠ ""
  typeTag : ∃ tag, (Datum.fieldOf fields "type").text? = some tag
  operatorTag : ∃ tag, (Datum.fieldOf fields "operator").text? = some tag
  property : (Datum.fieldOf fields "property").isNull = true ∨
    ∃ property, (Datum.fieldOf fields "property").text? = some property
  expected : ∀ value, Datum.fieldOf? fields "expected" = some value → value.isJson room = true
  enabled : (Datum.fieldOf fields "enabled").isNull = true ∨
    ∃ switch, (Datum.fieldOf fields "enabled").bool? = some switch

/-- A datum has the shape of an assertion entry. -/
def IsAssertion (room : Nat) (entry : Datum) : Prop :=
  ∃ fields, entry.entries? = some fields ∧ FitsAssertion room fields

/-- The fields of an assertion are in order when they fit, and their id is not taken. -/
theorem reviewAssertion_isValid_iff {place : String} {earlier : List String}
    {fields : List (Datum × Datum)} :
    (reviewAssertion room place earlier fields).isValid = true ↔
      FitsAssertion room fields ∧
        ∀ id, (Datum.fieldOf fields "id").text? = some id → id ∉ earlier := by
  -- the warnings about tags are the last part and do not count
  have hparts : (reviewAssertion room place earlier fields).isValid =
      (reviewId place earlier (Datum.fieldOf fields "id") ++
        reviewTag place "type" (Datum.fieldOf fields "type") ++
        reviewTag place "operator" (Datum.fieldOf fields "operator") ++
        reviewProperty place (Datum.fieldOf fields "property") ++
        reviewExpected room place (Datum.fieldOf? fields "expected") ++
        reviewEnabled place (Datum.fieldOf fields "enabled")).isValid := by
    unfold reviewAssertion
    dsimp only
    rw [Review.isValid_append]
    split <;> simp
  simp only [hparts, Review.isValid_append, Bool.and_eq_true, reviewId_isValid_iff,
    reviewTag_isValid_iff, reviewProperty_isValid_iff, reviewExpected_isValid_iff,
    reviewEnabled_isValid_iff]
  constructor
  · rintro ⟨⟨⟨⟨⟨⟨id, hid, hne, hnew⟩, htype⟩, hoperator⟩, hproperty⟩, hexpected⟩, henabled⟩
    refine ⟨⟨⟨id, hid, hne⟩, htype, hoperator, hproperty, hexpected, henabled⟩, ?_⟩
    intro other hother
    rwa [← Option.some.inj (hid.symm.trans hother)]
  · rintro ⟨⟨⟨id, hid, hne⟩, htype, hoperator, hproperty, hexpected, henabled⟩, hnew⟩
    exact ⟨⟨⟨⟨⟨⟨id, hid, hne, hnew id hid⟩, htype⟩, hoperator⟩, hproperty⟩, hexpected⟩,
      henabled⟩

/-- The ids of the entries that have a proper one. -/
def properIds (items : List Datum) : List String := items.filterMap properId?

theorem FitsAssertion.properId?_eq {entry : Datum} {fields : List (Datum × Datum)}
    (hentries : entry.entries? = some fields) (hfits : FitsAssertion room fields) :
    properId? entry = (Datum.fieldOf fields "id").text? := by
  obtain ⟨id, hid, hne⟩ := hfits.id
  simp [properId?, hentries, hid, hne]

/-- The entries from some index on have the shape of assertions, and their ids differ from each
other and from the earlier ones. -/
theorem reviewAssertionsFrom_isValid_iff {index : Nat} {earlier : List String}
    {items : List Datum} (hearlier : earlier.Nodup) :
    (reviewAssertionsFrom room index earlier items).isValid = true ↔
      (∀ item ∈ items, IsAssertion room item) ∧ (earlier ++ properIds items).Nodup := by
  -- the ids that have been met grow by the id of each proper entry, and stay different
  induction items generalizing index earlier with
  | nil => simp [reviewAssertionsFrom, properIds, hearlier]
  | cons item rest ih =>
      rw [reviewAssertionsFrom, Review.isValid_append, Bool.and_eq_true, List.forall_mem_cons]
      cases hentries : item.entries? with
      | none => simp [IsAssertion, hentries]
      | some fields =>
          have hshape : IsAssertion room item ↔ FitsAssertion room fields := by
            simp [IsAssertion, hentries]
          rw [reviewAssertion_isValid_iff, hshape]
          by_cases hfits : FitsAssertion room fields
          · obtain ⟨id, hid, -⟩ := hfits.id
            have hproper : properId? item = some id := (hfits.properId?_eq hentries).trans hid
            have hids : properIds (item :: rest) = id :: properIds rest :=
              List.filterMap_cons_some hproper
            rw [hids, hproper, hid, List.append_cons]
            simp only [hfits, true_and, Option.some.injEq, forall_eq', Option.toList_some]
            have hnodup : (earlier ++ [id]).Nodup ↔ id ∉ earlier := by
              rw [← List.concat_eq_append, List.nodup_concat, and_iff_left hearlier]
            by_cases hnew : id ∈ earlier
            · have hrepeated : ¬ (earlier ++ [id] ++ properIds rest).Nodup := fun hall =>
                hnodup.mp hall.of_append_left hnew
              simp only [hnew, hrepeated, not_true_eq_false, false_and, and_false]
            · rw [ih (hnodup.mpr hnew)]
              simp [hnew]
          · simp [hfits]

/-- Assertions are in order when each of them fits and no id is taken twice. -/
theorem reviewAssertions_isValid_iff {assertions : Datum} :
    (reviewAssertions room assertions).isValid = true ↔
      ∃ items, assertions.items? = some items ∧ (∀ item ∈ items, IsAssertion room item) ∧
        (properIds items).Nodup := by
  unfold reviewAssertions
  cases assertions.items? with
  | none => simp
  | some items => simp [reviewAssertionsFrom_isValid_iff]

/-! ## Version, name and variables -/

theorem reviewVersion_isValid_iff {version : Datum} :
    (reviewVersion version).isValid = true ↔ ∃ number, version.int? = some number ∧ 1 ≤ number := by
  unfold reviewVersion
  cases version.int? <;> simp

theorem reviewName_isValid_iff {name : Datum} :
    (reviewName name).isValid = true ↔
      ∃ text, name.text? = some text ∧ Text.trim text.toList ≠ [] := by
  unfold reviewName
  cases name.text? <;> simp

/-- A datum has the shape of variables: texts with scalars. -/
def AreVariables (bindings : Datum) : Prop :=
  bindings.isNull = true ∨ ∃ entries, bindings.entries? = some entries ∧
    ∀ entry ∈ entries, (∃ name, entry.1.text? = some name) ∧ entry.2.isScalar = true

theorem reviewVariable_isValid_iff {key value : Datum} :
    (reviewVariable key value).isValid = true ↔
      (∃ name, key.text? = some name) ∧ value.isScalar = true := by
  unfold reviewVariable
  cases key.text? <;> simp

theorem reviewVariables_isValid_iff {bindings : Datum} :
    (reviewVariables bindings).isValid = true ↔ AreVariables bindings := by
  unfold reviewVariables AreVariables
  cases bindings.isNull with
  | true => simp
  | false =>
      cases bindings.entries? with
      | none => simp
      | some entries => simp [isValid_join, reviewVariable_isValid_iff]

/-! ## Rules -/

structure FitsRule (fields : List (Datum × Datum)) : Prop where
  source : ∃ source, (Datum.fieldOf fields "type").text?.bind Source.ofTag? = some source ∧
    (source.needsPath = true → (Datum.fieldOf fields "path").isGiven = true)
  path : (Datum.fieldOf fields "path").isNull = true ∨
    ∃ path, (Datum.fieldOf fields "path").text? = some path
  target : ∃ target, (Datum.fieldOf fields "variable").text? = some target ∧ target ≠ ""

def IsRule (entry : Datum) : Prop := ∃ fields, entry.entries? = some fields ∧ FitsRule fields

/-- The path of a rule is a text, and has to be there only for the sources that need one. -/
theorem reviewRulePath_isValid_iff {place : String} {source : Source} {path : Datum} :
    (reviewRulePath place (some source) path).isValid = true ↔
      (source.needsPath = true → path.isGiven = true) ∧
        (path.isNull = true ∨ ∃ text, path.text? = some text) := by
  unfold reviewRulePath
  dsimp only
  split
  · simp_all
  · simp_all [Option.isSome_iff_exists, or_iff_not_imp_left]

theorem reviewRule_isValid_iff {place : String} {fields : List (Datum × Datum)} :
    (reviewRule place fields).isValid = true ↔ FitsRule fields := by
  have htarget : ∀ target : Datum, ((!target.isGiven || target.text?.isNone) = false ↔
      ∃ text, target.text? = some text ∧ text ≠ "") := by
    intro target
    cases htext : target.text? with
    | none => simp
    | some text => simp [isGiven_iff_of_text? htext]
  simp only [reviewRule, Review.isValid_append, Review.isValid_when_error, Bool.and_eq_true,
    Bool.not_eq_true', htarget]
  cases hsource : (Datum.fieldOf fields "type").text?.bind Source.ofTag? with
  | none =>
      simp only [Option.isNone_none, Bool.true_eq_false, false_and, false_iff]
      rintro ⟨⟨source, hfound, -⟩, -, -⟩
      rw [hsource] at hfound
      cases hfound
  | some source =>
      simp only [Option.isNone_some, true_and, reviewRulePath_isValid_iff]
      constructor
      · rintro ⟨⟨hneeds, hpath⟩, htarget⟩
        exact ⟨⟨source, hsource, hneeds⟩, hpath, htarget⟩
      · rintro ⟨⟨other, hother, hneeds⟩, hpath, htarget⟩
        obtain rfl := Option.some.inj (hsource.symm.trans hother)
        exact ⟨⟨hneeds, hpath⟩, htarget⟩

theorem reviewRulesFrom_isValid_iff {index : Nat} {items : List Datum} :
    (reviewRulesFrom index items).isValid = true ↔ ∀ item ∈ items, IsRule item := by
  induction items generalizing index with
  | nil => simp [reviewRulesFrom]
  | cons item rest ih =>
      rw [reviewRulesFrom, Review.isValid_append, Bool.and_eq_true, List.forall_mem_cons, ih]
      cases hentries : item.entries? with
      | none => simp [IsRule, hentries]
      | some fields => simp [IsRule, hentries, reviewRule_isValid_iff]

def AreRules (rules : Datum) : Prop :=
  rules.isNull = true ∨ ∃ items, rules.items? = some items ∧ ∀ item ∈ items, IsRule item

theorem reviewRules_isValid_iff {rules : Datum} :
    (reviewRules rules).isValid = true ↔ AreRules rules := by
  unfold reviewRules AreRules
  cases rules.isNull with
  | true => simp
  | false =>
      cases rules.items? with
      | none => simp
      | some items => simp [reviewRulesFrom_isValid_iff]

/-! ## Suites -/

/-- The fields of a suite are in order when those that are required are there, and no others than
those that are known. -/
theorem reviewFields_isValid_iff {entries : List (Datum × Datum)} :
    (reviewFields entries).isValid = true ↔
      (∀ name ∈ requiredFields, (Datum.fieldOf? entries name).isSome = true) ∧
        ∀ entry ∈ entries, ∃ name ∈ knownFields, entry.1.text? = some name := by
  simp only [reviewFields, Review.isValid_append, isValid_join, Bool.and_eq_true, List.all_map,
    List.all_eq_true, Function.comp_apply, Review.isValid_error, Bool.false_eq_true, imp_false,
    List.mem_filter, List.mem_mergeSort, List.mem_map, not_and, not_exists, and_imp,
    Bool.not_eq_true', List.any_eq_false, decide_eq_true_eq]
  refine and_congr ?_ ?_
  · simp [Option.isSome_iff_ne_none]
  · constructor
    · intro hnone entry hentry
      by_contra hunknown
      exact hnone _ entry.1 ⟨entry, hentry, rfl⟩
        (fun name hname hkey => hunknown ⟨name, hname, hkey⟩) rfl
    · rintro hknown _ _ ⟨entry, hentry, rfl⟩ hunknown -
      obtain ⟨name, hname, hkey⟩ := hknown entry hentry
      exact hunknown name hname hkey

/-- The entries of a suite as the schema has them. -/
structure Fits (room : Nat) (entries : List (Datum × Datum)) : Prop where
  required : ∀ name ∈ requiredFields, (Datum.fieldOf? entries name).isSome = true
  known : ∀ entry ∈ entries, ∃ name ∈ knownFields, entry.1.text? = some name
  version : ∃ number, (Datum.fieldOf entries "version").int? = some number ∧ 1 ≤ number
  name : ∃ name, (Datum.fieldOf entries "name").text? = some name ∧ Text.trim name.toList ≠ []
  bindings : AreVariables (Datum.fieldOf entries "variables")
  assertions : ∃ items, (Datum.fieldOf entries "assertions").items? = some items ∧
    (∀ item ∈ items, IsAssertion room item) ∧ (properIds items).Nodup
  rules : AreRules (Datum.fieldOf entries "extract")

/-- The review of a suite finds no error exactly if its entries fit the schema. -/
theorem review_isValid_iff {entries : List (Datum × Datum)} :
    (review room entries).isValid = true ↔ Fits room entries := by
  unfold review
  dsimp only
  -- the fields are looked into only when none of them is missing or unknown
  cases hfields : (reviewFields entries).isValid with
  | false =>
      simp only [Bool.not_false, if_true, hfields, Bool.false_eq_true, false_iff]
      intro hfits
      have hvalid := reviewFields_isValid_iff.mpr ⟨hfits.required, hfits.known⟩
      rw [hfields] at hvalid
      cases hvalid
  | true =>
      obtain ⟨hrequired, hknown⟩ := reviewFields_isValid_iff.mp hfields
      simp only [Bool.not_true, Bool.false_eq_true, if_false, Review.isValid_append,
        Bool.and_eq_true, reviewVersion_isValid_iff, reviewName_isValid_iff,
        reviewVariables_isValid_iff, reviewAssertions_isValid_iff, reviewRules_isValid_iff]
      constructor
      · rintro ⟨⟨⟨⟨hversion, hname⟩, hbindings⟩, hassertions⟩, hrules⟩
        exact ⟨hrequired, hknown, hversion, hname, hbindings, hassertions, hrules⟩
      · rintro ⟨-, -, hversion, hname, hbindings, hassertions, hrules⟩
        exact ⟨⟨⟨⟨hversion, hname⟩, hbindings⟩, hassertions⟩, hrules⟩

end Assay.Suite
