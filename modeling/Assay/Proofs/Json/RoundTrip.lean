import Assay.Json.Profile
import Assay.Proofs.Json.Acceptance
import Assay.Proofs.Json.Writer

/-! # Rendering and parsing

A representable value below the limit on nesting is read back from its canonical text and from
every indented text. So reformatting a text does not change the document that it denotes, and
reformatting it twice is like reformatting it once.
-/

namespace Assay.Json

/-! ## Values -/

theorem Tree.WrittenAs.isSentence {tree : Tree} {written : List Char}
    (hwritten : tree.WrittenAs written) : tree.IsSentence (String.ofList written).toList := by
  have hsentence := Tree.IsSentence.intro .nil hwritten .nil
  rwa [List.nil_append, List.append_nil, ← String.toList_ofList (l := written)] at hsentence

/-- A representable value is read back from its canonical text. -/
theorem parse_canonical {value : Value} (hvalue : value.Representable)
    (hdepth : value.depth < nestingLimit) : parse (canonical value) = .ok value := by
  obtain ⟨tree, htree⟩ := hvalue.exists_tree
  exact parse_of_denotes htree.canonical.isSentence htree.denotes (htree.depth ▸ hdepth)

theorem isDocument_iff {text : String} :
    isDocument text = true ↔ ∃ value, parse text = .ok value := by
  unfold isDocument
  cases parse text <;> simp

/-- The canonical text of a representable value is a document only below the limit on nesting. -/
theorem isDocument_canonical_iff {value : Value} (hvalue : value.Representable) :
    isDocument (canonical value) = true ↔ value.depth < nestingLimit := by
  rw [isDocument_iff]
  constructor
  · rintro ⟨other, hparse⟩
    obtain ⟨tree, htree⟩ := hvalue.exists_tree
    obtain ⟨hother, -, hdepth⟩ :=
      (parse_eq_ok_iff_of_isSentence htree.canonical.isSentence).mp hparse
    rwa [htree.canonical.isSentence.value_unique htree.canonical.isSentence htree.denotes hother]
  · exact fun hdepth => ⟨value, parse_canonical hvalue hdepth⟩

/-- A representable value is read back from its text with any indentation. -/
theorem parse_indented {value : Value} (hvalue : value.Representable)
    (hdepth : value.depth < nestingLimit) (indent : Nat) :
    parse (indented indent value) = .ok value := by
  obtain ⟨tree, htree⟩ := hvalue.exists_tree
  exact parse_of_denotes (htree.indented indent 0).isSentence htree.denotes
    (htree.depth ▸ hdepth)

variable {text : String} {document : Value}

theorem depth_of_parse (hparse : parse text = .ok document) : document.depth < nestingLimit :=
  (parse_eq_ok_iff.mp hparse).2

theorem parse_canonical_of_parse (hparse : parse text = .ok document) :
    parse (canonical document) = .ok document :=
  parse_canonical (representable_of_parse hparse) (depth_of_parse hparse)

theorem parse_pretty_of_parse (hparse : parse text = .ok document) :
    parse (pretty document) = .ok document :=
  parse_indented (representable_of_parse hparse) (depth_of_parse hparse) 2

/-! ## Texts -/

/-- Canonical and indented text have the same documents as the text. -/
theorem parse_minify_format (hparse : parse text = .ok document) :
    parse (minify text) = .ok document ∧ parse (format text) = .ok document := by
  unfold minify format
  rw [hparse]
  exact ⟨parse_canonical_of_parse hparse, parse_pretty_of_parse hparse⟩

theorem minify_eq (hparse : parse text = .ok document) : minify text = canonical document := by
  rw [minify, hparse]

theorem format_eq (hparse : parse text = .ok document) : format text = pretty document := by
  rw [format, hparse]

/-- Rendering is undone by parsing, and reformatting a text keeps its document. -/
theorem rendering_is_undone_by_parsing (text : String) :
    (∀ value, parse text = .ok value →
      parse (canonical value) = .ok value ∧ parse (pretty value) = .ok value) ∧
      minify (format text) = minify text ∧ format (minify text) = format text ∧
      minify (minify text) = minify text ∧ format (format text) = format text ∧
      isDocument (minify text) = isDocument text ∧ isDocument (format text) = isDocument text := by
  refine ⟨fun value hparse => ⟨parse_canonical_of_parse hparse, parse_pretty_of_parse hparse⟩, ?_⟩
  cases hparse : parse text with
  | error refusal =>
      -- a text that is no document is left as it is by both
      have hminify : minify text = text := by rw [minify, hparse]
      have hformat : format text = text := by rw [format, hparse]
      simp only [hminify, hformat, and_self]
  | ok document =>
      obtain ⟨hminify, hformat⟩ := parse_minify_format hparse
      refine ⟨?_, ?_, ?_, ?_, ?_, ?_⟩
      · rw [minify_eq hformat, minify_eq hparse]
      · rw [format_eq hminify, format_eq hparse]
      · rw [minify_eq hminify, minify_eq hparse]
      · rw [format_eq hformat, format_eq hparse]
      · rw [isDocument, isDocument, hminify, hparse]
      · rw [isDocument, isDocument, hformat, hparse]

/-- The law at a text with blanks, a repeated name and an escape. -/
theorem rendering_of_repeated_name_is_undone :
    parse (canonical (.object [("a", .array []), ("b", .string "x\n")])) =
        .ok (.object [("a", .array []), ("b", .string "x\n")]) ∧
      parse (pretty (.object [("a", .array []), ("b", .string "x\n")])) =
        .ok (.object [("a", .array []), ("b", .string "x\n")]) := by
  have hparse : parse " \x7b\"a\":[1,-2],\"b\":\"x\\n\",\"a\":[]\x7d" =
      .ok (.object [("a", .array []), ("b", .string "x\n")]) := by cbv
  exact (rendering_is_undone_by_parsing _).1 _ hparse

end Assay.Json
