import Assay.Loading
import Assay.Proofs.Datum.Plain
import Assay.Proofs.Suite.Schema
import Assay.Proofs.Text
import Assay.Proofs.Traversal

/-! # The shape of suites

The shape of a suite as it is described to its author, in terms of the data themselves: which names
have values, and of which kind. A suite is accepted exactly if its entries have this shape. Tags
that name no type or no operator do not matter, as they give warnings only.

An expected value has to have JSON text, and the review tries to write it. So the shape depends on
the room that the stack leaves for the levels of collections in it.
-/

namespace Assay

theorem Source.ofTag?_eq_some_iff {tag : String} {source : Source} :
    ofTag? tag = some source ↔ source.tag = tag :=
  find?_tag_eq_some_iff ofTag?_tag

namespace Datum

variable {fields : List (Datum × Datum)} {name : String}

/-! ## Fields that are given -/

theorem text?_eq_some_iff {datum : Datum} {content : String} :
    datum.text? = some content ↔ datum = .text content := by
  cases datum <;> simp [text?]

theorem int?_eq_some_iff {datum : Datum} {content : Int} :
    datum.int? = some content ↔ datum = .int content := by
  cases datum <;> simp [int?]

theorem bool?_eq_some_iff {datum : Datum} {content : Bool} :
    datum.bool? = some content ↔ datum = .bool content := by
  cases datum <;> simp [bool?]

/-- What is read from data of one form only is read from a field that is given in this form. -/
theorem read_fieldOf_iff {α : Type} {read : Datum → Option α} {form : α → Datum}
    (hnull : read null = none)
    (hform : ∀ {datum content}, read datum = some content ↔ datum = form content) {content : α} :
    read (fieldOf fields name) = some content ↔ fieldOf? fields name = some (form content) := by
  rw [read_fieldOf hnull, Option.bind_eq_some_iff]
  simp only [hform, exists_eq_right]

theorem text?_fieldOf_iff {content : String} :
    (fieldOf fields name).text? = some content ↔ fieldOf? fields name = some (.text content) :=
  read_fieldOf_iff rfl text?_eq_some_iff

theorem int?_fieldOf_iff {content : Int} :
    (fieldOf fields name).int? = some content ↔ fieldOf? fields name = some (.int content) :=
  read_fieldOf_iff rfl int?_eq_some_iff

theorem isNull_iff {datum : Datum} : datum.isNull = true ↔ datum = .null := by
  cases datum <;> simp [isNull]

/-- A field may be left out or be null, and otherwise has a property. -/
def MayGive (fields : List (Datum × Datum)) (name : String) (property : Datum → Prop) : Prop :=
  ∀ value, fieldOf? fields name = some value → value = .null ∨ property value

theorem mayGive_iff {property : Datum → Prop} :
    MayGive fields name property ↔
      (fieldOf fields name).isNull = true ∨ property (fieldOf fields name) := by
  unfold MayGive fieldOf
  cases fieldOf? fields name with
  | none => simp [isNull]
  | some value => simp [isNull_iff]

end Datum

namespace Suite

open Datum (fieldOf fieldOf? MayGive mayGive_iff)

/-! ## Shapes -/

structure AssertionShape (room : Nat) (fields : List (Datum × Datum)) (id : String) : Prop where
  id : fieldOf? fields "id" = some (.text id) ∧ id ≠ ""
  typeTag : ∃ tag, fieldOf? fields "type" = some (.text tag)
  operatorTag : ∃ tag, fieldOf? fields "operator" = some (.text tag)
  property : MayGive fields "property" fun value => ∃ property, value = .text property
  expected : ∀ value, fieldOf? fields "expected" = some value → value.IsPlain room
  enabled : MayGive fields "enabled" fun value => ∃ switch, value = .bool switch

/-- The path of a rule: a text that is not empty, unless the source is read without a path. -/
def PathShape (fields : List (Datum × Datum)) : Source → Prop
  | .json | .jsonpath | .header | .regex =>
    ∃ path, fieldOf? fields "path" = some (.text path) ∧ path ≠ ""
  | .status | .body => MayGive fields "path" fun value => ∃ path, value = .text path

structure RuleShape (fields : List (Datum × Datum)) : Prop where
  source : ∃ source : Source, fieldOf? fields "type" = some (.text source.tag) ∧
    PathShape fields source
  target : ∃ target, fieldOf? fields "variable" = some (.text target) ∧ target ≠ ""

def HasAssertionShape (room : Nat) (item : Datum) (id : String) : Prop :=
  ∃ fields, item.entries? = some fields ∧ AssertionShape room fields id

def HasRuleShape (item : Datum) : Prop := ∃ fields, item.entries? = some fields ∧ RuleShape fields

def BindingsShape (value : Datum) : Prop :=
  ∃ bindings, value.entries? = some bindings ∧
    ∀ binding ∈ bindings, (∃ name, binding.1 = .text name) ∧ binding.2.IsPlainScalar

/-- The assertions of a suite, no two of which have the same id. -/
def AssertionsShape (room : Nat) (value : Datum) : Prop :=
  ∃ items ids, value.items? = some items ∧ List.Forall₂ (HasAssertionShape room) items ids ∧
    ids.Nodup

def RulesShape (value : Datum) : Prop :=
  ∃ items, value.items? = some items ∧ ∀ item ∈ items, HasRuleShape item

/-- The entries of a suite. -/
structure Shape (room : Nat) (entries : List (Datum × Datum)) : Prop where
  required : ∀ name ∈ ["version", "name", "assertions"], ∃ value, fieldOf? entries name = some value
  known : ∀ entry ∈ entries,
    ∃ name ∈ ["version", "name", "assertions", "variables", "extract"], entry.1 = .text name
  version : ∃ number, fieldOf? entries "version" = some (.int number) ∧ 1 ≤ number
  name : ∃ name, fieldOf? entries "name" = some (.text name) ∧
    ∃ c ∈ name.toList, Text.isBlank c = false
  bindings : MayGive entries "variables" BindingsShape
  assertions : ∃ value, fieldOf? entries "assertions" = some value ∧ AssertionsShape room value
  rules : MayGive entries "extract" RulesShape

/-! ## The shapes and the schema -/

variable {room : Nat} {fields entries : List (Datum × Datum)}

theorem assertionShape_iff {id : String} :
    AssertionShape room fields id ↔
      FitsAssertion room fields ∧ (fieldOf fields "id").text? = some id := by
  constructor
  · intro hshape
    obtain ⟨hid, hne⟩ := hshape.id
    have hid := Datum.text?_fieldOf_iff.mpr hid
    refine ⟨⟨⟨id, hid, hne⟩, ?_, ?_, ?_, ?_, ?_⟩, hid⟩
    · simpa only [Datum.text?_fieldOf_iff] using hshape.typeTag
    · simpa only [Datum.text?_fieldOf_iff] using hshape.operatorTag
    · simpa only [Datum.text?_eq_some_iff] using mayGive_iff.mp hshape.property
    · simpa only [Datum.isJson_iff] using hshape.expected
    · simpa only [Datum.bool?_eq_some_iff] using mayGive_iff.mp hshape.enabled
  · rintro ⟨hfits, hid⟩
    obtain ⟨other, hother, hne⟩ := hfits.id
    obtain rfl := Option.some.inj (hid.symm.trans hother)
    refine ⟨⟨Datum.text?_fieldOf_iff.mp hid, hne⟩, ?_, ?_, ?_, ?_, ?_⟩
    · simpa only [Datum.text?_fieldOf_iff] using hfits.typeTag
    · simpa only [Datum.text?_fieldOf_iff] using hfits.operatorTag
    · exact mayGive_iff.mpr (by simpa only [Datum.text?_eq_some_iff] using hfits.property)
    · simpa only [Datum.isJson_iff] using hfits.expected
    · exact mayGive_iff.mpr (by simpa only [Datum.bool?_eq_some_iff] using hfits.enabled)

/-- The entries of assertions with given ids are those that fit the schema under these ids. -/
theorem forall₂_assertionShape_iff {items : List Datum} {ids : List String} :
    List.Forall₂ (HasAssertionShape room) items ids ↔
      (∀ item ∈ items, IsAssertion room item) ∧ properIds items = ids := by
  induction items generalizing ids with
  | nil => simp [properIds, eq_comm]
  | cons item rest ih =>
      rw [List.forall₂_cons_left_iff, List.forall_mem_cons]
      constructor
      · rintro ⟨id, others, ⟨fields, hfields, hshape⟩, hothers, rfl⟩
        obtain ⟨hfits, hid⟩ := assertionShape_iff.mp hshape
        obtain ⟨hrest, rfl⟩ := ih.mp hothers
        have hproper : properId? item = some id := (hfits.properId?_eq hfields).trans hid
        exact ⟨⟨⟨fields, hfields, hfits⟩, hrest⟩, List.filterMap_cons_some hproper⟩
      · rintro ⟨⟨⟨fields, hfields, hfits⟩, hrest⟩, rfl⟩
        obtain ⟨id, hid, -⟩ := hfits.id
        have hproper : properId? item = some id := (hfits.properId?_eq hfields).trans hid
        exact ⟨id, properIds rest, ⟨fields, hfields, assertionShape_iff.mpr ⟨hfits, hid⟩⟩,
          ih.mpr ⟨hrest, rfl⟩, List.filterMap_cons_some hproper⟩

theorem pathShape_iff {source : Source} :
    PathShape fields source ↔
      (source.needsPath = true → (fieldOf fields "path").isGiven = true) ∧
        ((fieldOf fields "path").isNull = true ∨
          ∃ path, (fieldOf fields "path").text? = some path) := by
  have hneeded : (∃ path, fieldOf? fields "path" = some (.text path) ∧ path ≠ "") ↔
      (fieldOf fields "path").isGiven = true ∧ ((fieldOf fields "path").isNull = true ∨
        ∃ path, (fieldOf fields "path").text? = some path) := by
    simp only [← Datum.text?_fieldOf_iff]
    cases htext : (fieldOf fields "path").text? with
    | none => cases hpath : fieldOf fields "path" <;> simp [Datum.isNull, Datum.isGiven]
    | some path => simp [isGiven_iff_of_text? htext]
  have hfree : (MayGive fields "path" fun value => ∃ path, value = .text path) ↔
      (fieldOf fields "path").isNull = true ∨
        ∃ path, (fieldOf fields "path").text? = some path := by
    simp only [mayGive_iff, Datum.text?_eq_some_iff]
  cases source with
  | json | jsonpath | header | regex => simpa [PathShape, Source.needsPath] using hneeded
  | status | body => simpa [PathShape, Source.needsPath] using hfree

theorem ruleShape_iff : RuleShape fields ↔ FitsRule fields := by
  have hsource : ∀ source : Source, fieldOf? fields "type" = some (.text source.tag) ↔
      (fieldOf fields "type").text?.bind Source.ofTag? = some source := by
    intro source
    simp only [Option.bind_eq_some_iff, Datum.text?_fieldOf_iff, Source.ofTag?_eq_some_iff]
    constructor
    · exact fun hgiven => ⟨_, hgiven, rfl⟩
    · rintro ⟨tag, hgiven, rfl⟩
      exact hgiven
  constructor
  · rintro ⟨⟨source, hgiven, hpath⟩, htarget⟩
    obtain ⟨hneeds, hpath⟩ := pathShape_iff.mp hpath
    refine ⟨⟨source, (hsource source).mp hgiven, hneeds⟩, hpath, ?_⟩
    simpa only [Datum.text?_fieldOf_iff] using htarget
  · rintro ⟨⟨source, hgiven, hneeds⟩, hpath, htarget⟩
    refine ⟨⟨source, (hsource source).mpr hgiven, pathShape_iff.mpr ⟨hneeds, hpath⟩⟩, ?_⟩
    simpa only [Datum.text?_fieldOf_iff] using htarget

theorem mayGive_bindingsShape_iff :
    MayGive entries "variables" BindingsShape ↔ AreVariables (fieldOf entries "variables") := by
  simp only [mayGive_iff, BindingsShape, AreVariables, Datum.text?_eq_some_iff,
    Datum.isScalar_iff]

theorem assertionsShape_iff :
    (∃ value, fieldOf? entries "assertions" = some value ∧ AssertionsShape room value) ↔
      ∃ items, (fieldOf entries "assertions").items? = some items ∧
        (∀ item ∈ items, IsAssertion room item) ∧ (properIds items).Nodup := by
  have hread : (fieldOf entries "assertions").items? =
      (fieldOf? entries "assertions").bind Datum.items? := Datum.read_fieldOf rfl _ _
  rw [hread]
  simp only [AssertionsShape, Option.bind_eq_some_iff, forall₂_assertionShape_iff]
  constructor
  · rintro ⟨value, hgiven, items, _, hitems, ⟨hshapes, rfl⟩, hnodup⟩
    exact ⟨items, ⟨value, hgiven, hitems⟩, hshapes, hnodup⟩
  · rintro ⟨items, ⟨value, hgiven, hitems⟩, hshapes, hnodup⟩
    exact ⟨value, hgiven, items, _, hitems, ⟨hshapes, rfl⟩, hnodup⟩

theorem mayGive_rulesShape_iff :
    MayGive entries "extract" RulesShape ↔ AreRules (fieldOf entries "extract") := by
  simp only [mayGive_iff, RulesShape, AreRules, HasRuleShape, IsRule, ruleShape_iff]

/-- The shape of the fields, as it is documented, is what the review asks for. -/
theorem fieldsShape_iff :
    ((∀ name ∈ ["version", "name", "assertions"], ∃ value, fieldOf? entries name = some value) ∧
      ∀ entry ∈ entries,
        ∃ name ∈ ["version", "name", "assertions", "variables", "extract"],
          entry.1 = .text name) ↔
      (∀ name ∈ requiredFields, (fieldOf? entries name).isSome = true) ∧
        ∀ entry ∈ entries, ∃ name ∈ knownFields, entry.1.text? = some name := by
  have hrequired : ∀ name, name ∈ ["version", "name", "assertions"] ↔ name ∈ requiredFields := by
    intro name
    simp only [requiredFields, List.mem_cons, List.not_mem_nil]
    tauto
  have hknown : ∀ name, name ∈ ["version", "name", "assertions", "variables", "extract"] ↔
      name ∈ knownFields := by
    intro name
    simp only [knownFields, List.mem_cons, List.not_mem_nil]
    tauto
  simp only [hrequired, hknown, Option.isSome_iff_exists, Datum.text?_eq_some_iff]

/-- The shape of a suite is what the schema demands. -/
theorem shape_iff : Shape room entries ↔ Fits room entries := by
  constructor
  · intro hshape
    obtain ⟨hrequired, hknown⟩ := fieldsShape_iff.mp ⟨hshape.required, hshape.known⟩
    refine ⟨hrequired, hknown, ?_, ?_, mayGive_bindingsShape_iff.mp hshape.bindings,
      assertionsShape_iff.mp hshape.assertions, mayGive_rulesShape_iff.mp hshape.rules⟩
    · simpa only [Datum.int?_fieldOf_iff] using hshape.version
    · simpa only [Datum.text?_fieldOf_iff, ne_eq, Text.trim_eq_nil_iff, not_forall,
        Bool.not_eq_true, exists_prop] using hshape.name
  · intro hfits
    obtain ⟨hrequired, hknown⟩ := fieldsShape_iff.mpr ⟨hfits.required, hfits.known⟩
    refine ⟨hrequired, hknown, ?_, ?_, mayGive_bindingsShape_iff.mpr hfits.bindings,
      assertionsShape_iff.mpr hfits.assertions, mayGive_rulesShape_iff.mpr hfits.rules⟩
    · simpa only [Datum.int?_fieldOf_iff] using hfits.version
    · simpa only [Datum.text?_fieldOf_iff, ne_eq, Text.trim_eq_nil_iff, not_forall,
        Bool.not_eq_true, exists_prop] using hfits.name

/-! ## Acceptance -/

/-- The names of known fields can always be written. -/
theorem Shape.keysAreWritable (hshape : Shape room entries) :
    Datum.keysAreWritable entries = true := by
  refine List.all_eq_true.mpr fun entry hentry => ?_
  obtain ⟨name, -, hname⟩ := hshape.known entry hentry
  rw [hname]
  rfl

/-- A suite is accepted exactly if its entries have the shape of a suite, whatever warnings the
review gives. -/
theorem isAccepted_iff_shape (room : Nat) (entries : List (Datum × Datum)) :
    (isAccepted room entries = true ↔ Shape room entries) ∧
      ∀ warnings,
        Review.isValid { review room entries with warnings } = (review room entries).isValid := by
  refine ⟨?_, fun _ => rfl⟩
  rw [isAccepted, Bool.and_eq_true, review_isValid_iff, ← shape_iff]
  exact ⟨And.right, fun hshape => ⟨hshape.keysAreWritable, hshape⟩⟩

end Suite

end Assay
