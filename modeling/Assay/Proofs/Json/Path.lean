import Assay.Json.Path
import Assay.Proofs.Json.RoundTrip
import Assay.Proofs.Traversal

/-! # Paths compose

A path with a point in it leads where its first part and then its second part lead. The node at
a path is again a document, so the law holds for texts as well: a node is written so that it is
read back, and the text for a node that is not there is no document.
-/

namespace Assay.Json

open Number (TooManyDigits)

/-! ## Segments -/

theorem splitOn_append_cons (separator : Char) (left right : List Char) :
    Text.splitOn separator (left ++ separator :: right) =
      Text.splitOn separator left ++ Text.splitOn separator right := by
  induction left with
  | nil => simp [Text.splitOn]
  | cons c rest ih =>
      have hparts := Text.splitOn_ne_nil separator rest
      rw [List.cons_append, Text.splitOn, Text.splitOn, ih]
      split
      next => rfl
      next =>
        cases hsplit : Text.splitOn separator rest with
        | nil => exact absurd hsplit hparts
        | cons part parts => rfl

/-- Two paths joined by a point have the segments of both. -/
theorem segments_append {first second : String} (hfirst : first ≠ "") (hsecond : second ≠ "") :
    segments (first ++ "." ++ second) = segments first ++ segments second := by
  have hempty : ∀ {path : String}, path ≠ "" → path.isEmpty = false := by
    intro path hpath
    rwa [← Bool.not_eq_true, String.isEmpty_iff]
  have hlong : first ++ "." ++ second ≠ "" := by
    intro hnil
    simpa using congrArg String.toList hnil
  unfold segments
  rw [hempty hfirst, hempty hsecond, hempty hlong]
  simp only [Bool.false_eq_true, if_false]
  rw [← List.map_append, ← splitOn_append_cons]
  simp

/-- The continuation of a path at a node, if there is one. -/
def continueAt (found : Except TooManyDigits (Option Value))
    (next : Value → Except TooManyDigits (Option Value)) : Except TooManyDigits (Option Value) :=
  match found with
  | .error refusal => .error refusal
  | .ok none => .ok none
  | .ok (some node) => next node

/-- Segments in a row are followed one after the other, and nothing is found behind nothing. -/
theorem follow_append (value : Value) (first second : List Segment) :
    follow value (first ++ second) = continueAt (follow value first) (follow · second) := by
  induction first generalizing value with
  | nil => rfl
  | cons segment rest ih =>
      rw [List.cons_append, follow, follow]
      rcases segment.step value with refusal | _ | child
      · rfl
      · rfl
      · exact ih child

/-- A path in two parts leads where the second part leads from the node at the first. -/
theorem resolve_append {first second : String} (hfirst : first ≠ "") (hsecond : second ≠ "")
    (document : Value) :
    resolve document (first ++ "." ++ second) =
      continueAt (resolve document first) (resolve · second) := by
  unfold resolve
  rw [segments_append hfirst hsecond, follow_append]

/-! ## Nodes of a document -/

/-- A value that can be a node of a document. -/
structure Value.IsNode (value : Value) : Prop where
  representable : value.Representable
  depth : value.depth < nestingLimit

theorem isNode_of_parse {text : String} {document : Value} (hparse : parse text = .ok document) :
    document.IsNode := ⟨representable_of_parse hparse, depth_of_parse hparse⟩

theorem Value.IsNode.parse_canonical {value : Value} (hnode : value.IsNode) :
    parse (canonical value) = .ok value :=
  Json.parse_canonical hnode.representable hnode.depth

theorem Value.IsNode.field {value child : Value} {key : String} (hnode : value.IsNode)
    (hchild : value.field? key = some child) : child.IsNode := by
  cases value with
  | object members =>
      have hmem := Table.mem_of_get?_eq_some hchild
      cases hnode.representable with
      | object _ hmembers =>
          exact ⟨hmembers _ hmem, (depth_of_mem_members hmem).trans hnode.depth⟩
  | _ => simp [Value.field?] at hchild

theorem Value.IsNode.item {value child : Value} {index : Nat} (hnode : value.IsNode)
    (hchild : value.item? index = some child) : child.IsNode := by
  cases value with
  | array items =>
      have hmem := List.mem_of_getElem? hchild
      cases hnode.representable with
      | array hitems => exact ⟨hitems _ hmem, (depth_of_mem_items hmem).trans hnode.depth⟩
  | _ => simp [Value.item?] at hchild

/-- One segment leads from a node to a node. -/
theorem Value.IsNode.step {value child : Value} {segment : Segment} (hnode : value.IsNode)
    (hstep : segment.step value = .ok (some child)) : child.IsNode := by
  unfold Segment.step at hstep
  split at hstep
  next key => exact hnode.field (Except.ok.inj hstep)
  next key digits =>
    split at hstep
    next => simp at hstep
    next array hfield =>
      obtain ⟨index, -, hitem⟩ := map_eq_ok_iff.mp hstep
      exact (hnode.field hfield).item hitem

/-- A path leads from a node to a node. -/
theorem Value.IsNode.follow {value node : Value} {path : List Segment} (hnode : value.IsNode)
    (hfollow : follow value path = .ok (some node)) : node.IsNode := by
  induction path generalizing value with
  | nil =>
      obtain rfl := Option.some.inj (Except.ok.inj hfollow)
      exact hnode
  | cons segment rest ih =>
      rw [Json.follow] at hfollow
      rcases hstep : segment.step value with refusal | _ | child
      · simp [hstep] at hfollow
      · simp [hstep] at hfollow
      · rw [hstep] at hfollow
        exact ih (hnode.step hstep) hfollow

/-! ## Indexes that are read -/

/-- The index of a segment, if it has one, is not too long to be read. -/
def Segment.IndexFits : Segment → Prop
  | .field _ => True
  | .indexed _ digits => digits.length ≤ Number.digitLimit

theorem exists_step_of_indexFits {segment : Segment} (hfits : segment.IndexFits)
    (value : Value) : ∃ found, segment.step value = .ok found := by
  cases segment with
  | field key => exact ⟨_, rfl⟩
  | indexed key digits =>
      rw [Segment.step]
      cases value.field? (String.ofList key) with
      | none => exact ⟨none, rfl⟩
      | some child =>
          dsimp only
          rw [Number.readDigits, if_neg (not_lt.mpr hfits)]
          exact ⟨_, rfl⟩

/-- A path is followed when all its indices can be converted. -/
theorem exists_follow_of_indexFits {path : List Segment}
    (hfits : ∀ segment ∈ path, segment.IndexFits) (value : Value) :
    ∃ found, follow value path = .ok found := by
  induction path generalizing value with
  | nil => exact ⟨some value, rfl⟩
  | cons segment rest ih =>
      obtain ⟨hfirst, hrest⟩ := List.forall_mem_cons.mp hfits
      obtain ⟨found, hfound⟩ := exists_step_of_indexFits hfirst value
      rw [follow, hfound]
      cases found with
      | none => exact ⟨none, rfl⟩
      | some child => exact ih hrest child

/-! ## Extraction from texts -/

/-- The text for a node that is not there is no document. -/
theorem parse_undefinedText : ∃ refusal, parse undefinedText = .error refusal := by
  cases hparse : parse undefinedText with
  | error refusal => exact ⟨refusal, rfl⟩
  | ok value =>
      obtain ⟨tree, hsentence, -, -, -⟩ := parse_eq_ok_iff_exists_tree.mp hparse
      obtain ⟨behind, written, htext, hwritten, -, -⟩ := hsentence.exists_text
      have hstarts := hwritten.startsValue.append behind
      rw [← htext] at hstarts
      exact absurd rfl (hstarts.head?_ne (by decide) (by decide))

theorem extract_of_refused {text : String} (hrefused : ∃ refusal, parse text = .error refusal)
    (path : String) : extract text path = .ok undefinedText := by
  obtain ⟨refusal, hparse⟩ := hrefused
  rw [extract, hparse]

theorem extract_of_parse {text : String} {document : Value} (hparse : parse text = .ok document)
    (path : String) : extract text path = (resolve document path).map render := by
  rw [extract, hparse]

/-- Extracting along a path in two parts is extracting from what the first part gives. -/
theorem extract_append {first second : String} (hfirst : first ≠ "") (hsecond : second ≠ "")
    (text : String) :
    ((extract text first).bind fun inner => extract inner second) =
      extract text (first ++ "." ++ second) := by
  cases hparse : parse text with
  | error refusal =>
      rw [extract_of_refused ⟨refusal, hparse⟩, extract_of_refused ⟨refusal, hparse⟩]
      exact extract_of_refused parse_undefinedText second
  | ok document =>
      rw [extract_of_parse hparse, extract_of_parse hparse, resolve_append hfirst hsecond]
      rcases hfound : resolve document first with refusal | _ | node
      · rfl
      · -- the text for a node that is not there is no document, so nothing is found in it
        exact extract_of_refused parse_undefinedText second
      · exact extract_of_parse ((isNode_of_parse hparse).follow hfound).parse_canonical second

/-- What is extracted is the text for a node that is not there, or a document that is exactly the
node; and extraction along a path in two parts goes by its parts. -/
theorem extraction_composes (text : String) :
    (∀ path, (∀ segment ∈ segments path, segment.IndexFits) →
      (extract text path = .ok undefinedText ∧
        ((∃ refusal, parse text = .error refusal) ∨
          ∃ document, parse text = .ok document ∧ resolve document path = .ok none)) ∨
      ∃ document node written, parse text = .ok document ∧
        resolve document path = .ok (some node) ∧ extract text path = .ok written ∧
        written ≠ undefinedText ∧ parse written = .ok node) ∧
    ∀ first second : String, first ≠ "" → second ≠ "" →
      (∀ document, resolve document (first ++ "." ++ second) =
        continueAt (resolve document first) (resolve · second)) ∧
      ((extract text first).bind fun inner => extract inner second) =
        extract text (first ++ "." ++ second) := by
  constructor
  · intro path hfits
    cases hparse : parse text with
    | error refusal =>
        exact Or.inl ⟨extract_of_refused ⟨refusal, hparse⟩ path, Or.inl ⟨refusal, rfl⟩⟩
    | ok document =>
        obtain ⟨found, hfound⟩ := exists_follow_of_indexFits hfits document
        rw [← resolve] at hfound
        have hextract := extract_of_parse hparse path
        rw [hfound] at hextract
        cases found with
        | none => exact Or.inl ⟨hextract, Or.inr ⟨document, rfl, hfound⟩⟩
        | some node =>
            have hwritten := ((isNode_of_parse hparse).follow hfound).parse_canonical
            refine Or.inr ⟨document, node, canonical node, rfl, hfound, hextract, ?_, hwritten⟩
            intro hsame
            obtain ⟨refusal, hrefused⟩ := parse_undefinedText
            rw [hsame, hrefused] at hwritten
            nomatch hwritten
  · intro first second hfirst hsecond
    exact ⟨resolve_append hfirst hsecond, extract_append hfirst hsecond text⟩

/-- The law at a path with an index, and with the name of a member behind it. -/
theorem extraction_of_item_composes :
    (∃ document node written,
        parse "\x7b\"a\":[\x7b\"b\":null\x7d]\x7d" = .ok document ∧
        resolve document "a[0]" = .ok (some node) ∧
        extract "\x7b\"a\":[\x7b\"b\":null\x7d]\x7d" "a[0]" = .ok written ∧
        written ≠ undefinedText ∧ parse written = .ok node) ∧
      ((extract "\x7b\"a\":[\x7b\"b\":null\x7d]\x7d" "a[0]").bind fun inner =>
          extract inner "b") =
        extract "\x7b\"a\":[\x7b\"b\":null\x7d]\x7d" ("a[0]" ++ "." ++ "b") := by
  have hsegments : segments "a[0]" = [.indexed ['a'] ['0']] := by cbv
  have hfits : ∀ segment ∈ segments "a[0]", segment.IndexFits := by
    rw [hsegments, List.forall_mem_singleton]
    exact (by decide : 1 ≤ Number.digitLimit)
  have hextract : extract "\x7b\"a\":[\x7b\"b\":null\x7d]\x7d" "a[0]" =
      .ok "\x7b\"b\":null\x7d" := by cbv
  obtain ⟨hfirst, hboth⟩ := extraction_composes "\x7b\"a\":[\x7b\"b\":null\x7d]\x7d"
  refine ⟨(hfirst "a[0]" hfits).resolve_left fun hundefined => ?_, ?_⟩
  · have hsame := Except.ok.inj (hextract.symm.trans hundefined.1)
    exact absurd hsame (by decide)
  · exact (hboth "a[0]" "b" (by decide) (by decide)).2

end Assay.Json
