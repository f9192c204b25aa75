import Assay.Proofs.Json.Denotation
import Assay.Proofs.Json.Unambiguous

/-! # Accepted texts

A document is accepted exactly if its text is a sentence of the grammar whose numerals denote
values, unless too many arrays and objects are open at once in the text or in its value.
-/

namespace Assay.Json

variable {text : String}

/-- The accepted texts, with both limits on nesting: that of the reader on the text, and that of
the document on its value. -/
theorem parse_eq_ok_iff_exists_tree {value : Value} :
    parse text = .ok value ↔
      ∃ tree : Tree, tree.IsSentence text.toList ∧ tree.Denotes value ∧
        tree.depth ≤ openLimit ∧ value.depth < nestingLimit := by
  rw [parse_eq_ok_iff, readDocument_eq_ok_iff_exists_tree]
  constructor
  · rintro ⟨⟨tree, hsentence, hdenotes, hopen⟩, hdepth⟩
    exact ⟨tree, hsentence, hdenotes, hopen, hdepth⟩
  · rintro ⟨tree, hsentence, hdenotes, hopen, hdepth⟩
    exact ⟨⟨tree, hsentence, hdenotes, hopen⟩, hdepth⟩

/-- A sentence is accepted when its value stays within the depth of a document, and the sentence
within what can be open at once. -/
theorem parse_eq_ok_iff_of_isSentence {tree : Tree} {value : Value}
    (hsentence : tree.IsSentence text.toList) :
    parse text = .ok value ↔
      tree.Denotes value ∧ tree.depth ≤ openLimit ∧ value.depth < nestingLimit := by
  rw [parse_eq_ok_iff_exists_tree]
  constructor
  · rintro ⟨other, hother, hlimits⟩
    rwa [hsentence.unique hother]
  · exact fun hlimits => ⟨tree, hsentence, hlimits⟩

/-- A sentence below the limit on nesting is accepted with the value that it denotes. -/
theorem parse_of_denotes {tree : Tree} {value : Value}
    (hsentence : tree.IsSentence text.toList) (hdenotes : tree.Denotes value)
    (hdepth : tree.depth < nestingLimit) : parse text = .ok value := by
  have hlimits : nestingLimit ≤ openLimit := by decide
  refine (parse_eq_ok_iff_of_isSentence hsentence).mpr ⟨hdenotes, ?_, ?_⟩
  · exact (hdepth.trans_le hlimits).le
  · exact hdenotes.depth_le.trans_lt hdepth

/-- An accepted document is representable. -/
theorem representable_of_parse {value : Value} (hparse : parse text = .ok value) :
    value.Representable := by
  obtain ⟨tree, hsentence, hdenotes, -, -⟩ := parse_eq_ok_iff_exists_tree.mp hparse
  obtain ⟨-, written, -, hwritten, -, -⟩ := hsentence.exists_text
  exact hdenotes.representable hwritten

/-- Only sentences of the grammar are accepted, with the one value that they denote, and every
sentence is accepted whose numerals denote values and whose arrays and objects are not nested to
the limit. -/
theorem parse_accepts_the_grammar (text : String) :
    (∀ value, parse text = .ok value →
      (∃ tree : Tree, tree.IsSentence text.toList ∧ tree.NumeralsFit ∧ tree.Denotes value) ∧
        ∀ (tree : Tree) (other : Value), tree.IsSentence text.toList → tree.Denotes other →
          other = value) ∧
      ∀ tree : Tree, tree.IsSentence text.toList → tree.NumeralsFit →
        tree.depth < nestingLimit → ∃ value, tree.Denotes value ∧ parse text = .ok value := by
  constructor
  · intro value hparse
    obtain ⟨tree, hsentence, hdenotes, -, -⟩ := parse_eq_ok_iff_exists_tree.mp hparse
    refine ⟨⟨tree, hsentence, Tree.numeralsFit_iff.mpr ⟨value, hdenotes⟩, hdenotes⟩, ?_⟩
    intro other otherValue hother hotherDenotes
    exact hother.value_unique hsentence hotherDenotes hdenotes
  · intro tree hsentence hfit hdepth
    obtain ⟨value, hdenotes⟩ := Tree.numeralsFit_iff.mp hfit
    exact ⟨value, hdenotes, parse_of_denotes hsentence hdenotes hdepth⟩

/-- Both directions at texts with an empty array, with and without blanks around it. -/
theorem parse_accepts_nested_empty_array :
    (∃ tree : Tree, tree.IsSentence "[[ ],-1]".toList ∧ tree.NumeralsFit ∧
        tree.Denotes (.array [.array [], .int (-1)])) ∧
      ∃ value, (Tree.array []).Denotes value ∧ parse "[ ]" = .ok value := by
  have hparse : parse "[[ ],-1]" = .ok (.array [.array [], .int (-1)]) := by cbv
  have hblank : AreBlanks [' '] := fun c hmem => Or.inl (List.mem_singleton.mp hmem)
  have hsentence : (Tree.array []).IsSentence "[ ]".toList :=
    .intro .nil (.emptyArray hblank) .nil
  refine ⟨((parse_accepts_the_grammar _).1 _ hparse).1, ?_⟩
  exact (parse_accepts_the_grammar _).2 (.array []) hsentence (.array (by simp)) (by decide)

end Assay.Json
