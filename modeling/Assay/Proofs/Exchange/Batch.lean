import Assay.Proofs.Exchange.Readable
import Assay.Proofs.Traversal

/-! # Several texts and several paths

A list of texts is filled as each of its texts is by itself, although the table is read for all of
them first. The nodes at a list of paths are the members of one object, which is written as each
node is by itself, although the document is read only once.
-/

namespace Assay.Exchange

open Json (Value)

/-! ## Lists of texts -/

theorem asStrings?_eq_some_iff {value : Value} {texts : List String} :
    value.asStrings? = some texts ↔ value = .array (texts.map .string) := by
  have hstring : ∀ item text, Value.asString? item = some text ↔ item = .string text := by
    intro item text
    cases item <;> simp [Value.asString?]
  cases value with
  | array items =>
      simp only [Value.asStrings?, mapM_eq_some_iff, hstring, Value.array.injEq]
      rw [← List.forall₂_map_right_iff (R := Eq) (f := Value.string), List.forall₂_eq_eq_eq]
  | _ => simp [Value.asStrings?]

theorem texts?_eq_some_iff {text : String} {texts : List String} :
    texts? text = some texts ↔ Json.parse text = .ok (.array (texts.map .string)) := by
  simp only [texts?, Option.bind_eq_some_iff, value?_eq_some_iff, asStrings?_eq_some_iff,
    exists_eq_right]

theorem texts?_eq_none_iff {text : String} :
    texts? text = none ↔ ∀ texts : List String,
      Json.parse text ≠ .ok (.array (texts.map .string)) := by
  simp only [Option.eq_none_iff_forall_ne_some, Ne, texts?_eq_some_iff]

/-! ## Filling -/

/-- A text that is returned before the table is read is one that no table changes. -/
theorem substitute_eq (text table : String) :
    substitute text table =
      match table? table with
      | none => text
      | some bindings => Template.substitute bindings text := by
  unfold substitute
  split
  next hearly =>
    cases table? table with
    | none => rfl
    | some bindings => simp only [Template.substitute, hearly, Bool.true_or, if_true]
  next => rfl

/-- A list is returned early under an empty table, which changes no text. -/
theorem substituteAll_eq_map (bindings : Table String String) (texts : List String) :
    Template.substituteAll bindings texts = texts.map (Template.substitute bindings) := by
  unfold Template.substituteAll
  split
  next hempty =>
    have hsame : ∀ text, Template.substitute bindings text = text := by
      intro text
      simp only [Template.substitute, hempty, Bool.or_true, if_true]
    rw [funext hsame, List.map_id']
  next => rfl

theorem substituteAll_of_texts {texts table : String} {items : List String}
    (hitems : texts? texts = some items) :
    substituteAll texts table = textsText (items.map fun text => substitute text table) := by
  simp only [substituteAll, hitems, substitute_eq]
  cases table? table with
  | none => rw [List.map_id']
  | some bindings => rw [← substituteAll_eq_map]

/-- A list of texts is filled text by text, whatever stands for the table, and the answer is again
a list of as many texts. What is no list of texts is answered by an empty list. -/
theorem texts_are_filled_one_by_one (texts table : String) :
    (∀ items : List String, Json.parse texts = .ok (.array (items.map .string)) →
      substituteAll texts table =
          Json.canonical (.array (items.map fun text => .string (substitute text table))) ∧
        ∃ filled : List Value, Json.parse (substituteAll texts table) = .ok (.array filled) ∧
          filled.length = items.length) ∧
    ((∀ items : List String, Json.parse texts ≠ .ok (.array (items.map .string))) →
      substituteAll texts table = "[]") := by
  constructor
  · intro items hitems
    have hanswer : substituteAll texts table =
        textsText (items.map fun text => substitute text table) :=
      substituteAll_of_texts (texts?_eq_some_iff.mpr hitems)
    have hfilled := parse_textsText (items.map fun text => substitute text table)
    refine ⟨?_, _, hanswer ▸ hfilled, by simp⟩
    rw [hanswer, textsText, List.map_map]
    rfl
  · intro hnone
    rw [substituteAll, texts?_eq_none_iff.mpr hnone]
    rfl

/-- The law at a text with a placeholder and one without, and at an array that is no list of
texts. -/
theorem two_texts_are_filled_one_by_one :
    Json.parse "[\"\x7b\x7b x\x7d\x7d\",\"b\"]" =
        .ok (.array (["\x7b\x7b x\x7d\x7d", "b"].map .string)) ∧
      substituteAll "[\"\x7b\x7b x\x7d\x7d\",\"b\"]" "\x7b\"x\":\"1\"\x7d" =
        Json.canonical (.array (["\x7b\x7b x\x7d\x7d", "b"].map fun text =>
          .string (substitute text "\x7b\"x\":\"1\"\x7d"))) ∧
      substituteAll "[1]" "\x7b\"x\":\"1\"\x7d" = "[]" := by
  have htexts : Json.parse "[\"\x7b\x7b x\x7d\x7d\",\"b\"]" =
      .ok (.array (["\x7b\x7b x\x7d\x7d", "b"].map .string)) := by cbv
  have hnone : ∀ items : List String, Json.parse "[1]" ≠ .ok (.array (items.map .string)) :=
    texts?_eq_none_iff.mp (by cbv)
  exact ⟨htexts, ((texts_are_filled_one_by_one _ _).1 _ htexts).1,
    (texts_are_filled_one_by_one _ _).2 hnone⟩

/-! ## Collecting -/

/-- The nodes at a list of paths are collected as a table of the paths that lead somewhere. -/
theorem extractAll_eq_ofEntries {document : Value} {places : List String}
    {found : String → Option Value}
    (hfound : ∀ path ∈ places, Json.resolve document path = .ok (found path)) :
    Json.extractAll document places =
      .ok (Table.ofEntries (places.filterMap fun path => (found path).map (path, ·))) := by
  have hstep : ∀ table path, (Json.resolve document path).map (Json.collect table path) =
      ((Json.resolve document path).map fun node => node.map (path, ·)).map
        fun entry => Table.putAll table entry.toList := by
    intro table path
    rcases Json.resolve document path with refusal | _ | node <;> rfl
  have hread : (places.mapM fun path =>
      (Json.resolve document path).map fun node => node.map (path, ·)) =
        .ok (places.map fun path => (found path).map (path, ·)) := by
    refine mapM_eq_ok_map fun path hpath => ?_
    rw [hfound path hpath]
    rfl
  rw [Json.extractAll_eq, Table.foldlM_eq_mapM hstep, hread, Except.map, List.filterMap_map]
  rfl

theorem filterMap_pair_eq_map {places : List String} (found : String → Option Value) :
    (places.filterMap fun path => (found path).map (path, ·)) =
      (places.filter fun path => (found path).isSome).map
        fun path => (path, (found path).getD .null) := by
  induction places with
  | nil => rfl
  | cons path rest ih =>
      cases hnode : found path with
      | none => simp [hnode, ih]
      | some node => simp [hnode, ih]

/-- The text of a node that is there is not that of a node that is not. -/
theorem render_ne_undefinedText_iff {found : Option Value}
    (hnode : ∀ node ∈ found, node.IsNode) :
    Json.render found ≠ Json.undefinedText ↔ found.isSome = true := by
  cases found with
  | none => simp [Json.render]
  | some node =>
      refine iff_of_true (fun hsame => ?_) rfl
      have hparse := (hnode node rfl).parse_canonical
      obtain ⟨refusal, hrefused⟩ := Json.parse_undefinedText
      rw [show Json.canonical node = Json.undefinedText from hsame, hrefused] at hparse
      cases hparse

/-- The object of the nodes at some paths, put together from the texts of the single nodes. -/
def objectText (written : String → String) (places : List String) : String :=
  "\x7b" ++ ",".intercalate (places.map fun path =>
    Json.canonical (.string path) ++ ":" ++ written path) ++ "\x7d"

/-- An object of nodes that are all found is written as the texts of the nodes by their paths. -/
theorem canonical_object_of_found {places : List String} {found : String → Option Value}
    (hfound : ∀ path ∈ places, (found path).isSome = true) :
    Json.canonical (.object (places.map fun path => (path, (found path).getD .null))) =
      objectText (fun path => Json.render (found path)) places := by
  rw [Json.canonical_object, objectText, List.map_map]
  have hmembers : ∀ path ∈ places, Json.canonical ((found path).getD .null) =
      Json.render (found path) := by
    intro path hpath
    obtain ⟨node, hnode⟩ := Option.isSome_iff_exists.mp (hfound path hpath)
    rw [hnode]
    rfl
  rw [List.map_congr_left fun path hpath => by rw [Function.comp_apply, hmembers path hpath]]

theorem extractAll_of_parse {document paths : String} {value : Value} {places : List String}
    (hparse : Json.parse document = .ok value) (hplaces : texts? paths = some places) :
    extractAll document paths =
      (Json.extractAll value places).map fun found => Json.canonical (.object found) := by
  rw [extractAll, value?_eq_some_iff.mpr hparse, hplaces]

theorem extractAll_of_refused {document paths : String}
    (hrefused : value? document = none ∨ texts? paths = none) :
    extractAll document paths = .ok "\x7b\x7d" := by
  unfold extractAll
  split
  next hvalue hplaces => simp [hvalue, hplaces] at hrefused
  next => rfl

/-- The nodes at a list of paths are answered by an object with the single answers in it: one for
each path that leads somewhere, where the path first occurs. -/
theorem extractAll_eq_objectText {document paths : String} {places : List String}
    (hplaces : texts? paths = some places)
    (hfits : ∀ path ∈ places, ∀ segment ∈ Json.segments path, segment.IndexFits) :
    ∃ written : String → String, (∀ path ∈ places, extract document path = .ok (written path)) ∧
      extractAll document paths = .ok (objectText written
        (places.filter fun path => written path ≠ Json.undefinedText).eraseDups) := by
  cases hparse : Json.parse document with
  | error refusal =>
      refine ⟨fun _ => Json.undefinedText, fun path _ => ?_, ?_⟩
      · exact Json.extract_of_refused ⟨refusal, hparse⟩ path
      · have hnone : value? document = none := by rw [value?, hparse]; rfl
        rw [extractAll_of_refused (Or.inl hnone)]
        simp [objectText]
  | ok value =>
      have hresolve : ∀ path ∈ places, ∃ node, Json.resolve value path = .ok node :=
        fun path hpath => Json.exists_follow_of_indexFits (hfits path hpath) value
      choose! found hfound using hresolve
      refine ⟨fun path => Json.render (found path), fun path hpath => ?_, ?_⟩
      · rw [extract, Json.extract_of_parse hparse, hfound path hpath]
        rfl
      · have hkept : (places.filter fun path => Json.render (found path) ≠ Json.undefinedText) =
            places.filter fun path => (found path).isSome := by
          refine List.filter_congr fun path hpath => ?_
          have hnode : ∀ node ∈ found path, node.IsNode := fun node hnode =>
            (Json.isNode_of_parse hparse).follow ((hfound path hpath).trans (congrArg _ hnode))
          simp only [render_ne_undefinedText_iff hnode, Bool.decide_eq_true]
        rw [extractAll_of_parse hparse hplaces, extractAll_eq_ofEntries hfound,
          filterMap_pair_eq_map, Table.ofEntries_map_key, hkept, Except.map]
        exact congrArg Except.ok (canonical_object_of_found (by simp))

/-- The nodes at a list of paths are answered by an object of the single answers, one for each path
that leads somewhere, where the path first occurs. The object is empty if there is no document, or
no list of paths. -/
theorem nodes_are_extracted_one_by_one (document paths : String) :
    (∀ places : List String, Json.parse paths = .ok (.array (places.map .string)) →
      (∀ path ∈ places, ∀ segment ∈ Json.segments path, segment.IndexFits) →
        ∃ written : String → String,
          (∀ path ∈ places, extract document path = .ok (written path)) ∧
            extractAll document paths = .ok (objectText written
              (places.filter fun path => written path ≠ Json.undefinedText).eraseDups)) ∧
    ((∀ value, Json.parse document ≠ .ok value) →
      extractAll document paths = .ok "\x7b\x7d") ∧
    ((∀ places : List String, Json.parse paths ≠ .ok (.array (places.map .string))) →
      extractAll document paths = .ok "\x7b\x7d") := by
  refine ⟨fun places hplaces hfits => ?_, fun hrefused => ?_, fun hnone => ?_⟩
  · exact extractAll_eq_objectText (texts?_eq_some_iff.mpr hplaces) hfits
  · refine extractAll_of_refused (Or.inl ?_)
    simpa only [Option.eq_none_iff_forall_ne_some, Ne, value?_eq_some_iff] using hrefused
  · exact extractAll_of_refused (Or.inr (texts?_eq_none_iff.mpr hnone))

example : extractAll "\x7b\"a\":[\"undefined\"]\x7d" "[\"a[0]\",\"b\",\"\",\"a[0]\"]" =
    .ok "\x7b\"a[0]\":\"undefined\",\"\":\x7b\"a\":[\"undefined\"]\x7d\x7d" := by cbv

/-- The law at a repeated path, at one that leads to the word for nothing as a string, at one that
leads nowhere, and at the document itself. -/
theorem four_nodes_are_extracted_one_by_one :
    Json.parse "[\"a[0]\",\"b\",\"\",\"a[0]\"]" =
        .ok (.array (["a[0]", "b", "", "a[0]"].map .string)) ∧
      ∃ written : String → String,
        (∀ path ∈ ["a[0]", "b", "", "a[0]"],
          extract "\x7b\"a\":[\"undefined\"]\x7d" path = .ok (written path)) ∧
        extractAll "\x7b\"a\":[\"undefined\"]\x7d" "[\"a[0]\",\"b\",\"\",\"a[0]\"]" =
          .ok (objectText written (["a[0]", "b", "", "a[0]"].filter fun path =>
            written path ≠ Json.undefinedText).eraseDups) := by
  have hpaths : Json.parse "[\"a[0]\",\"b\",\"\",\"a[0]\"]" =
      .ok (.array (["a[0]", "b", "", "a[0]"].map .string)) := by cbv
  have hitem : Json.segments "a[0]" = [.indexed ['a'] ['0']] := by cbv
  have hmember : Json.segments "b" = [.field ['b']] := by cbv
  have hwhole : Json.segments "" = [] := by cbv
  refine ⟨hpaths, (nodes_are_extracted_one_by_one _ _).1 _ hpaths ?_⟩
  have hfits : (1 : Nat) ≤ Number.digitLimit := by decide
  simp [hitem, hmember, hwhole, Json.Segment.IndexFits, hfits]

end Assay.Exchange
