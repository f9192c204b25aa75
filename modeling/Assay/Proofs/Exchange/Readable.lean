import Assay.Proofs.Exchange.Boundary
import Assay.Proofs.Exchange.Encoding
import Assay.Proofs.Json.Collection
import Assay.Proofs.Json.Nesting
import Assay.Proofs.Json.Profile

/-! # Answers are documents

What the operations on texts answer in JSON can be given to them again. The one thing that does
not come back is a document at the limit on nesting that is collected whole: the collection is one
level deeper than the document, and nothing that can be read holds it.
-/

namespace Assay.Exchange

open Json (Value)

variable {document paths output : String} {found : Table String Value}

/-- A listed path leads to a node of a document. -/
def Leads (document paths path : String) (node : Value) : Prop :=
  ∃ value places, Json.parse document = .ok value ∧ texts? paths = some places ∧
    path ∈ places ∧ Json.resolve value path = .ok (some node)

/-- What a call answers is JSON text: all compound answers are, and the text of a node that is
there. The size of a text is written in its profile if it does not have too many digits. -/
def Call.GivesJson : Call → String → Prop
  | substituteAll _ _, _ | findVariables _, _ | extractAll _ _, _ | run _ _, _ => True
  | extract _ _, output => output ≠ Json.undefinedText
  | profile document, _ => document.utf8ByteSize < 10 ^ Number.digitLimit
  | _, _ => False

/-- A document just below the limit on nesting is collected whole. -/
def Call.Outgrows : Call → Prop
  | extractAll document paths => ∃ whole, Leads document paths "" whole ∧
      whole.depth + 1 = Json.nestingLimit
  | _ => False

/-! ## Lists of texts -/

theorem parse_textsText (texts : List String) :
    Json.parse (textsText texts) = .ok (.array (texts.map .string)) :=
  parse_list (fun _ => .string) texts

theorem isDocument_textsText (texts : List String) : isDocument (textsText texts) = true :=
  Json.isDocument_iff.mpr ⟨_, parse_textsText texts⟩

theorem isDocument_substituteAll (texts table : String) :
    isDocument (substituteAll texts table) = true := by
  unfold substituteAll
  split
  next => exact isDocument_textsText []
  next =>
    split
    next => exact isDocument_textsText _
    next => exact isDocument_textsText _

/-! ## Single nodes -/

/-- What is extracted is a document unless nothing is found. -/
theorem isDocument_extract {path : String} (hextract : extract document path = .ok output)
    (hfound : output ≠ Json.undefinedText) : isDocument output = true := by
  cases hparse : Json.parse document with
  | error refusal =>
      rw [extract, Json.extract_of_refused ⟨refusal, hparse⟩] at hextract
      exact absurd (Except.ok.inj hextract).symm hfound
  | ok value =>
      rw [extract, Json.extract_of_parse hparse] at hextract
      rcases hresolve : Json.resolve value path with refusal | _ | node
      · simp [hresolve, Except.map] at hextract
      · rw [hresolve] at hextract
        exact absurd (Except.ok.inj hextract).symm hfound
      · rw [hresolve] at hextract
        obtain rfl : Json.canonical node = output := Except.ok.inj hextract
        have hnode := (Json.isNode_of_parse hparse).follow hresolve
        exact Json.isDocument_iff.mpr ⟨node, hnode.parse_canonical⟩

/-! ## Collections -/

/-- A table holds the nodes to which the listed paths of a document lead, and nothing else. It can
be read unless it holds a document at the limit. -/
structure Gathers (document paths : String) (found : Table String Value) : Prop where
  representable : (Value.object found).Representable
  get?_iff : ∀ path node, found.get? path = some node ↔ Leads document paths path node
  depth_lt_iff : (Value.object found).depth < Json.nestingLimit ↔
    ¬ (Call.extractAll document paths).Outgrows

/-- If no path leads anywhere then nothing is gathered. -/
theorem Gathers.nil (hnowhere : ∀ path node, ¬ Leads document paths path node) :
    Gathers document paths [] where
  representable := .object List.nodup_nil (by simp)
  get?_iff path node := by simp [Table.get?, hnowhere]
  depth_lt_iff := by
    refine iff_of_true (by decide) ?_
    rintro ⟨whole, hwhole, -⟩
    exact hnowhere _ _ hwhole

theorem leads_iff {value : Value} {places : List String} (hparse : Json.parse document = .ok value)
    (hplaces : texts? paths = some places) {path : String} {node : Value} :
    Leads document paths path node ↔
      path ∈ places ∧ Json.resolve value path = .ok (some node) := by
  constructor
  · rintro ⟨other, others, hother, hothers, hleads⟩
    obtain rfl := Except.ok.inj (hparse.symm.trans hother)
    obtain rfl := Option.some.inj (hplaces.symm.trans hothers)
    exact hleads
  · exact fun hleads => ⟨value, places, hparse, hplaces, hleads⟩

/-- What is collected from a value is what a text with that value is asked for. -/
theorem Gathers.of_collects {value : Value} {places : List String}
    (hparse : Json.parse document = .ok value) (hplaces : texts? paths = some places)
    (hfound : Json.Collects value places found) : Gathers document paths found where
  representable := hfound.representable (Json.isNode_of_parse hparse)
  get?_iff path node := (hfound.get?_iff path node).trans (leads_iff hparse hplaces).symm
  depth_lt_iff := by
    rw [hfound.depth_lt_iff (Json.isNode_of_parse hparse), Call.Outgrows, not_iff_not]
    simp only [leads_iff hparse hplaces, Json.resolve_empty, Except.ok.injEq, Option.some.injEq]
    constructor
    · rintro ⟨hlisted, hdepth⟩
      exact ⟨value, ⟨hlisted, rfl⟩, hdepth⟩
    · rintro ⟨whole, ⟨hlisted, rfl⟩, hdepth⟩
      exact ⟨hlisted, hdepth⟩

/-- What is answered for several paths is the text of what they gather. -/
theorem exists_gathers (hextract : extractAll document paths = .ok output) :
    ∃ found, output = Json.canonical (.object found) ∧ Gathers document paths found := by
  unfold extractAll at hextract
  split at hextract
  next value places hvalue hplaces =>
    rw [value?_eq_some_iff] at hvalue
    obtain ⟨found, hfound, rfl⟩ := map_eq_ok_iff.mp hextract
    exact ⟨found, rfl, .of_collects hvalue hplaces (Json.collects_of_extractAll hfound)⟩
  next hunreadable =>
    -- without a document or a list of paths the answer is that of an empty object
    refine ⟨[], (Except.ok.inj hextract).symm, .nil ?_⟩
    rintro path node ⟨value, places, hparse, hplaces, -⟩
    exact hunreadable value places (value?_eq_some_iff.mpr hparse) hplaces

/-- What is gathered is answered by a document exactly if no document at the limit is collected
whole. -/
theorem isDocument_extractAll_iff (hextract : extractAll document paths = .ok output) :
    isDocument output = true ↔ ¬ (Call.extractAll document paths).Outgrows := by
  obtain ⟨found, rfl, hfound⟩ := exists_gathers hextract
  exact (Json.isDocument_canonical_iff hfound.representable).trans hfound.depth_lt_iff

/-! ## Profiles -/

/-- The profile of a text can be read if the size of the text has few enough digits. -/
theorem shallow_profile (hsize : document.utf8ByteSize < 10 ^ Number.digitLimit) :
    Shallow 1 (Json.profile document).toValue := by
  have hbound : ∀ {count : Nat}, count ≤ document.utf8ByteSize → Shallow 0 (.int count) :=
    fun hcount => .int_of_natAbs_lt (hcount.trans_lt hsize)
  unfold Json.Profile.toValue Json.profile
  cases hparse : Json.parse document with
  | error refusal => exact .object (by simp [Table.keys]) (by simp [hbound])
  | ok value =>
      have hchildren := Json.children_le_size hparse
      have hkeys := hbound ((Nat.le_add_right _ _).trans hchildren)
      have hlength := hbound ((Nat.le_add_left _ _).trans hchildren)
      have hdepth : Shallow 0 (.int (Json.Shape.ofValue value).depth) := by
        have hmeasured : (Json.Shape.ofValue value).depth = value.depth :=
          Json.measuredDepth_eq_depth value
        have hlimit : value.depth < 128 := Json.depth_of_parse hparse
        exact .int (by omega) (by omega)
      exact .object (by simp [Table.keys]) (by simp [hbound, hkeys, hlength, hdepth])

theorem isDocument_profile (hsize : document.utf8ByteSize < 10 ^ Number.digitLimit) :
    isDocument (profile document) = true :=
  Json.isDocument_iff.mpr ⟨_, (shallow_profile hsize).parse_canonical (by decide)⟩

/-! ## Verdicts -/

theorem isDocument_run {assertions response : String}
    (hrun : run assertions response = .ok output) : isDocument output = true := by
  by_cases hdescribed : (∃ listed, DescribesAssertions assertions listed) ∧
      ∃ described, DescribesResponse response described
  · obtain ⟨⟨listed, hlisted⟩, described, hresponse⟩ := hdescribed
    rw [run_of_described hlisted hresponse] at hrun
    obtain ⟨verdicts, -, rfl⟩ := map_eq_ok_iff.mp hrun
    exact Json.isDocument_iff.mpr ⟨_, parse_list shallow_verdictJson verdicts⟩
  · rw [run_of_not_described hdescribed] at hrun
    obtain rfl := Except.ok.inj hrun
    cbv

/-! ## All answers -/

theorem eq_ok_of_map_text {result : Except Failure String}
    (hanswer : result.map Answer.text = .ok (.text output)) : result = .ok output := by
  obtain ⟨written, hwritten, htext⟩ := map_eq_ok_iff.mp hanswer
  rw [hwritten, Answer.text.inj htext]

/-- What a call answers in JSON is a document, unless it outgrows what is read. -/
theorem isDocument_answer {call : Call} (hanswer : call.answer = .ok (.text output))
    (hgives : call.GivesJson output) (hfits : ¬ call.Outgrows) : isDocument output = true := by
  cases call with
  | substituteAll texts table =>
      obtain rfl := Answer.text.inj (Except.ok.inj hanswer)
      exact isDocument_substituteAll texts table
  | findVariables text =>
      obtain rfl := Answer.text.inj (Except.ok.inj hanswer)
      exact isDocument_textsText _
  | extract document path =>
      exact isDocument_extract (mapError_eq_ok_iff.mp (eq_ok_of_map_text hanswer)) hgives
  | extractAll document paths =>
      have hextract := mapError_eq_ok_iff.mp (eq_ok_of_map_text hanswer)
      exact (isDocument_extractAll_iff hextract).mpr hfits
  | profile document =>
      obtain rfl := Answer.text.inj (Except.ok.inj hanswer)
      exact isDocument_profile hgives
  | run assertions response => exact isDocument_run (eq_ok_of_map_text hanswer)
  | _ => nomatch hgives

/-- A document at the limit on nesting cannot be held by anything that can be read. -/
theorem depth_of_held {text key : String} {held node : Value}
    (hparse : Json.parse text = .ok (.object found)) (hheld : found.get? key = some held)
    (hnode : node.Representable) (hsame : held.Same node) :
    node.depth + 1 < Json.nestingLimit := by
  have hobject := Json.isNode_of_parse hparse
  have hchild : (Value.object found).field? key = some held := hheld
  have hdepth := Json.depth_lt_of_field? hchild
  have hlimit := hobject.depth
  rw [← (hobject.field hchild).representable.depth_eq_of_same hnode hsame]
  omega

/-- What a call gives as JSON text is a document, except for a collection that holds a document just
below the limit on nesting as a whole. What several paths gather is read back as the nodes to which
they lead, by path, and nothing else. -/
theorem answers_are_read_back :
    (∀ (call : Call) (output : String), call.answer = .ok (.text output) →
      call.GivesJson output → ¬ call.Outgrows → isDocument output = true) ∧
    ∀ document paths output : String, extractAll document paths = .ok output →
      (isDocument output = true ↔ ¬ (Call.extractAll document paths).Outgrows) ∧
      ∀ value, Json.parse output = .ok value →
        ∃ found : Table String Value, value = .object found ∧
          (∀ path node, Leads document paths path node →
            ∃ held, found.get? path = some held ∧ held.Same node) ∧
          ∀ path ∈ found.keys, ∃ node, Leads document paths path node := by
  refine ⟨fun call output => isDocument_answer, fun document paths output hextract => ?_⟩
  refine ⟨isDocument_extractAll_iff hextract, fun value hparse => ?_⟩
  obtain ⟨found, rfl, hfound⟩ := exists_gathers hextract
  have hdepth := (Json.isDocument_canonical_iff hfound.representable).mp
    (Json.isDocument_iff.mpr ⟨value, hparse⟩)
  have hread := Json.parse_canonical hfound.representable hdepth
  obtain rfl := Except.ok.inj (hread.symm.trans hparse)
  refine ⟨found, rfl, fun path node hleads => ?_, fun path hkey => ?_⟩
  · have hheld := (hfound.get?_iff path node).mpr hleads
    have hchild : (Value.object found).field? path = some node := hheld
    exact ⟨node, hheld, ((Json.isNode_of_parse hparse).field hchild).representable.same_refl⟩
  · obtain ⟨node, hheld⟩ := Table.exists_get?_iff.mpr hkey
    exact ⟨node, (hfound.get?_iff path node).mp hheld⟩

/-- Both laws for an array at the empty path, with another path that leads nowhere. -/
theorem gathered_array_is_read_back :
    isDocument "\x7b\"\":[1]\x7d" = true ∧
      ∃ found : Table String Value, Json.parse "\x7b\"\":[1]\x7d" = .ok (.object found) ∧
        ∃ held, found.get? "" = some held ∧ held.Same (.array [.int 1]) := by
  obtain ⟨hdocuments, hgathered⟩ := answers_are_read_back
  have hparse : Json.parse "[1]" = .ok (.array [.int 1]) := by cbv
  have hplaces : texts? "[\"\",\"b\"]" = some ["", "b"] := by cbv
  have hextract : extractAll "[1]" "[\"\",\"b\"]" = .ok "\x7b\"\":[1]\x7d" := by cbv
  have hanswer : (Call.extractAll "[1]" "[\"\",\"b\"]").answer =
      .ok (.text "\x7b\"\":[1]\x7d") := by
    rw [Call.answer, hextract]
    rfl
  have hfits : ¬ (Call.extractAll "[1]" "[\"\",\"b\"]").Outgrows := by
    rintro ⟨whole, hleads, hdepth⟩
    obtain rfl := Option.some.inj (Except.ok.inj ((leads_iff hparse hplaces).mp hleads).2)
    exact absurd hdepth (by decide)
  have hdocument := hdocuments _ _ hanswer trivial hfits
  obtain ⟨value, hread⟩ := Json.isDocument_iff.mp hdocument
  obtain ⟨-, hcollected⟩ := hgathered _ _ _ hextract
  obtain ⟨found, rfl, hheld, -⟩ := hcollected value hread
  refine ⟨hdocument, found, hread, hheld "" (.array [.int 1]) ?_⟩
  exact (leads_iff hparse hplaces).mpr ⟨by decide, Json.resolve_empty _⟩

/-- A document of one hundred and twenty-seven arrays inside each other is collected whole. The
answer is no document, and nothing that can be read holds the document. -/
theorem whole_document_at_limit_is_not_read_back :
    ∃ output whole, (Call.extractAll (String.ofList (Json.nestedText 126)) "[\"\"]").answer =
        .ok (.text output) ∧ isDocument output = false ∧
      Leads (String.ofList (Json.nestedText 126)) "[\"\"]" "" whole ∧
      ∀ (text : String) (found : Table String Value) (held : Value),
        Json.parse text = .ok (.object found) → found.get? "" = some held → ¬ held.Same whole := by
  have hlevels : 126 + 1 < Json.nestingLimit := by decide
  obtain ⟨whole, hparse, hdepth⟩ := Json.exists_parse_nestedText hlevels
  have hplaces : texts? "[\"\"]" = some [""] := by cbv
  have hleads := (leads_iff hparse hplaces).mpr
    ⟨List.mem_singleton.mpr rfl, Json.resolve_empty whole⟩
  have hextract : extractAll (String.ofList (Json.nestedText 126)) "[\"\"]" =
      .ok (Json.canonical (.object [("", whole)])) := by
    rw [extractAll, value?_eq_some_iff.mpr hparse, hplaces]
    rfl
  refine ⟨_, whole, by rw [Call.answer, hextract]; rfl, ?_, hleads, ?_⟩
  · rw [← Bool.not_eq_true, isDocument_extractAll_iff hextract, not_not]
    exact ⟨whole, hleads, by rw [hdepth]; rfl⟩
  · intro text found held htext hheld hsame
    have hlimit := depth_of_held htext hheld (Json.representable_of_parse hparse) hsame
    rw [hdepth] at hlimit
    exact absurd hlimit (by decide)

end Assay.Exchange
