import Assay.Proofs.Json.Layout
import Assay.Proofs.Json.Denotation

/-! # Both renderings write the same tree

For a representable value there is one tree that denotes it and that the canonical text and every
indented text write. The tree is exactly as deep as the value, since nothing in it is repeated.
-/

namespace Assay.Json

open Number (Double)

/-! ## Strings -/

theorem readHex?_hexDigits {code : Nat} (hcode : code < 0x20) :
    (Text.hexDigits 4 code).length = 4 ∧
      Number.readHex? (Text.hexDigits 4 code) = some code := by
  revert code
  decide

/-- A character is written by an escape of one letter, by its number, or as it is. -/
theorem escapeChar_cases (c : Char) :
    (∃ letter, (letter, c) ∈ shortEscapes ∧ escapeChar c = ['\\', letter]) ∨
      (c.toNat < 0x20 ∧ escapeChar c = '\\' :: 'u' :: Text.hexDigits 4 c.toNat) ∨
        (c ≠ '"' ∧ c ≠ '\\' ∧ 0x20 ≤ c.toNat ∧ escapeChar c = [c]) := by
  unfold escapeChar
  split_ifs with hquote hbackslash hline hreturn htab hback hfeed hcontrol
  · exact Or.inl ⟨'"', by rw [hquote]; decide, rfl⟩
  · exact Or.inl ⟨'\\', by rw [hbackslash]; decide, rfl⟩
  · exact Or.inl ⟨'n', by rw [hline]; decide, rfl⟩
  · exact Or.inl ⟨'r', by rw [hreturn]; decide, rfl⟩
  · exact Or.inl ⟨'t', by rw [htab]; decide, rfl⟩
  · exact Or.inl ⟨'b', by rw [hback]; decide, rfl⟩
  · exact Or.inl ⟨'f', by rw [hfeed]; decide, rfl⟩
  · exact Or.inr (Or.inl ⟨hcontrol, rfl⟩)
  · exact Or.inr (Or.inr ⟨hquote, hbackslash, not_lt.mp hcontrol, rfl⟩)

/-- The text of a character in a string names the code of the character. -/
theorem CodesWrittenAs.escapeChar (c : Char) {codes : List Nat} {text : List Char}
    (hcodes : CodesWrittenAs codes text) :
    CodesWrittenAs (c.toNat :: codes) (escapeChar c ++ text) := by
  rcases escapeChar_cases c with ⟨letter, hletter, htext⟩ | ⟨hcontrol, htext⟩ |
    ⟨hquote, hbackslash, hplain, htext⟩
  · rw [htext]
    exact .short hletter hcodes
  · obtain ⟨hlength, hread⟩ := readHex?_hexDigits hcontrol
    obtain ⟨c₁, c₂, c₃, c₄, hdigits⟩ := List.length_eq_four.mp hlength
    rw [hdigits] at htext hread
    obtain ⟨d₁, d₂, d₃, d₄, h₁, h₂, h₃, h₄, hcode⟩ := readHex?_four.mp hread
    rw [htext, hcode]
    exact .numbered h₁ h₂ h₃ h₄ hcodes
  · rw [htext]
    exact .plain hquote hbackslash hplain hcodes

def codesOf (value : String) : List Nat := value.toList.map Char.toNat

theorem codesOf_writtenAs (value : String) :
    CodesWrittenAs (codesOf value) (value.toList.flatMap escapeChar) := by
  unfold codesOf
  induction value.toList with
  | nil => exact .nil
  | cons c rest ih => exact ih.escapeChar c

/-- No character has the code of half a pair. -/
theorem not_surrogate_toNat (c : Char) : ¬ (0xD800 ≤ c.toNat ∧ c.toNat < 0xE000) := by
  rintro ⟨hlow, hhigh⟩
  have hvalid := c.valid
  simp only [UInt32.isValidChar, Nat.isValidChar] at hvalid
  change _ ≤ c.val.toNat at hlow
  change c.val.toNat < _ at hhigh
  omega

theorem charOfCode_toNat (c : Char) : Text.charOfCode c.toNat = c := by
  have hplain := not_surrogate_toNat c
  rw [Text.charOfCode, if_neg, Char.ofNat_toNat]
  rw [Bool.or_eq_true, isHighSurrogate_iff, isLowSurrogate_iff]
  omega

/-- The codes of a text denote the text. -/
theorem codesOf_denote (value : String) : CodesDenote (codesOf value) value.toList := by
  unfold codesOf
  induction value.toList with
  | nil => exact .nil
  | cons c rest ih =>
      have hsingle := not_surrogate_toNat c
      have hdenote := @CodesDenote.single c.toNat _ _ (fun hhigh => absurd hhigh (by omega)) ih
      rwa [charOfCode_toNat] at hdenote

/-! ## Values -/

/-- A tree that denotes a value, is as deep as the value, and is written by all its renderings. -/
structure Tree.Renders (tree : Tree) (value : Value) : Prop where
  denotes : tree.Denotes value
  depth : tree.depth = value.depth
  canonical : tree.WrittenAs (canonicalText value)
  indented : ∀ indent margin, tree.WrittenAs (indentedText indent margin value)

/-- A line starts with blanks only, so layout does not change what is read. -/
theorem areBlanks_lineStart (margin : Nat) : AreBlanks (lineStart margin) := by
  intro c hmem
  rcases List.mem_cons.mp hmem with rfl | hmem
  · exact Or.inr (Or.inr (Or.inl rfl))
  · exact Or.inl (List.eq_of_mem_replicate hmem)

structure Tree.RendersItems (trees : List Tree) (items : List Value) : Prop where
  denotes : Tree.ItemsDenote trees items
  depth : Tree.depthOfItems trees = Value.depthOfItems items
  canonical : Tree.ItemsWrittenAs trees (canonicalItems items)
  indented : ∀ indent margin {behind}, AreBlanks behind →
    Tree.ItemsWrittenAs trees (indentedItems indent margin items ++ behind)

/-- Items that can be rendered can be rendered in a row. -/
theorem Tree.exists_rendersItems {item : Value} {rest : List Value}
    (hitems : ∀ value ∈ item :: rest, ∃ tree : Tree, tree.Renders value) :
    ∃ trees, Tree.RendersItems trees (item :: rest) := by
  induction rest generalizing item with
  | nil =>
      obtain ⟨tree, htree⟩ := hitems item List.mem_cons_self
      refine ⟨[tree], .cons htree.denotes .nil, ?_, ?_, fun indent margin behind hbehind => ?_⟩
      · rw [Tree.depthOfItems, Value.depthOfItems, htree.depth]
        rfl
      · have hone := Tree.ItemsWrittenAs.one .nil htree.canonical .nil
        rwa [List.nil_append, List.append_nil] at hone
      · exact .one (areBlanks_lineStart margin) (htree.indented indent margin) hbehind
  | cons next rest ih =>
      -- the line break before the closing bracket belongs to the last item
      obtain ⟨⟨tree, htree⟩, hrest⟩ := List.forall_mem_cons.mp hitems
      obtain ⟨trees, htrees⟩ := ih hrest
      refine ⟨tree :: trees, .cons htree.denotes htrees.denotes, ?_, ?_,
        fun indent margin behind hbehind => ?_⟩
      · rw [Tree.depthOfItems, Value.depthOfItems, htree.depth, htrees.depth]
      · have hmore := Tree.ItemsWrittenAs.more .nil htree.canonical .nil htrees.canonical
        rwa [List.nil_append, List.append_nil] at hmore
      · have hmore := Tree.ItemsWrittenAs.more (areBlanks_lineStart margin)
          (htree.indented indent margin) .nil (htrees.indented indent margin hbehind)
        rw [List.append_nil] at hmore
        simpa [indentedItems] using hmore

structure Tree.RendersMembers (trees : List (List Nat × Tree)) (members : List (String × Value)) :
    Prop where
  denotes : Tree.MembersDenote trees members
  depth : Tree.depthOfMembers trees = Value.depthOfMembers members
  canonical : Tree.MembersWrittenAs trees (canonicalMembers members)
  indented : ∀ indent margin {behind}, AreBlanks behind →
    Tree.MembersWrittenAs trees (indentedMembers indent margin members ++ behind)

/-- A name, a colon and a value are a member, with blanks before the value or without. -/
theorem stringText_member (name : String) {blanks text : List Char} {value : Tree}
    (hblanks : AreBlanks blanks) (hvalue : value.WrittenAs text) :
    Tree.MemberWrittenAs (codesOf name) value (stringText name ++ ':' :: blanks ++ text) := by
  have hmember := Tree.MemberWrittenAs.intro (codesOf_writtenAs name) .nil hblanks hvalue
  simpa [stringText] using hmember

theorem Tree.exists_rendersMembers {member : String × Value} {rest : List (String × Value)}
    (hmembers : ∀ entry ∈ member :: rest, ∃ tree : Tree, tree.Renders entry.2) :
    ∃ trees, Tree.RendersMembers trees (member :: rest) := by
  have hblank : AreBlanks [' '] := fun c hmem => Or.inl (List.mem_singleton.mp hmem)
  induction rest generalizing member with
  | nil =>
      obtain ⟨tree, htree⟩ := hmembers member List.mem_cons_self
      have hname := codesOf_denote member.1
      refine ⟨[(codesOf member.1, tree)], ?_, ?_, ?_, fun indent margin behind hbehind => ?_⟩
      · have hone := Tree.MembersDenote.cons hname htree.denotes .nil
        rwa [String.ofList_toList] at hone
      · rw [Tree.depthOfMembers, Value.depthOfMembers, htree.depth]
        rfl
      · have hone := Tree.MembersWrittenAs.one .nil
          (stringText_member member.1 .nil htree.canonical) .nil
        simpa [canonicalMembers] using hone
      · have hone := Tree.MembersWrittenAs.one (areBlanks_lineStart margin)
          (stringText_member member.1 hblank (htree.indented indent margin)) hbehind
        simpa [indentedMembers] using hone
  | cons next rest ih =>
      obtain ⟨⟨tree, htree⟩, hrest⟩ := List.forall_mem_cons.mp hmembers
      obtain ⟨trees, htrees⟩ := ih hrest
      have hname := codesOf_denote member.1
      refine ⟨(codesOf member.1, tree) :: trees, ?_, ?_, ?_, fun indent margin behind hbehind => ?_⟩
      · have hmore := Tree.MembersDenote.cons hname htree.denotes htrees.denotes
        rwa [String.ofList_toList] at hmore
      · rw [Tree.depthOfMembers, Value.depthOfMembers, htree.depth, htrees.depth]
      · have hmore := Tree.MembersWrittenAs.more .nil
          (stringText_member member.1 .nil htree.canonical) .nil htrees.canonical
        simpa [canonicalMembers] using hmore
      · have hmore := Tree.MembersWrittenAs.more (areBlanks_lineStart margin)
          (stringText_member member.1 hblank (htree.indented indent margin)) .nil
          (htrees.indented indent margin hbehind)
        simpa [indentedMembers] using hmore

/-- A representable value has a tree that all its renderings write. -/
theorem Value.Representable.exists_tree {value : Value} (hvalue : value.Representable) :
    ∃ tree : Tree, tree.Renders value := by
  induction hvalue with
  | null => exact ⟨.null, .null, rfl, .null, fun _ _ => .null⟩
  | @bool value =>
      cases value with
      | true => exact ⟨.bool true, .bool, rfl, .true, fun _ _ => .true⟩
      | false => exact ⟨.bool false, .bool, rfl, .false, fun _ _ => .false⟩
  | @int value hlength =>
      have hwritten := Tree.WrittenAs.number (intText_writtenAs value)
      exact ⟨_, .number (intText_denotes hlength), rfl, hwritten, fun _ _ => hwritten⟩
  | @double number hfinite =>
      obtain ⟨numeral, hwritten, hdenotes⟩ := exists_numeral_of_doubleText hfinite
      exact ⟨.number numeral, .number hdenotes, rfl, .number hwritten, fun _ _ => .number hwritten⟩
  | @string value =>
      have hwritten := Tree.WrittenAs.string (codesOf_writtenAs value)
      have hdenotes := Tree.Denotes.string (codesOf_denote value)
      rw [String.ofList_toList] at hdenotes
      exact ⟨_, hdenotes, rfl, hwritten, fun _ _ => hwritten⟩
  | @array items _ ih =>
      cases items with
      | nil =>
          exact ⟨.array [], .array .nil, rfl, .emptyArray .nil, fun _ _ => .emptyArray .nil⟩
      | cons item rest =>
          obtain ⟨trees, htrees⟩ := Tree.exists_rendersItems ih
          refine ⟨.array trees, .array htrees.denotes, congrArg Nat.succ htrees.depth,
            .array htrees.canonical, fun indent margin => ?_⟩
          have hitems := htrees.indented indent (margin + indent) (areBlanks_lineStart margin)
          exact .array hitems
  | @object members hnames _ ih =>
      have hmerged : IsMerged members members := by
        have hentries := isMerged_ofEntries members
        rwa [Table.ofEntries_eq_self hnames] at hentries
      cases members with
      | nil =>
          exact ⟨.object [], .object .nil hmerged, rfl, .emptyObject .nil,
            fun _ _ => .emptyObject .nil⟩
      | cons member rest =>
          obtain ⟨trees, htrees⟩ := Tree.exists_rendersMembers ih
          refine ⟨.object trees, .object htrees.denotes hmerged, congrArg Nat.succ htrees.depth,
            .object htrees.canonical, fun indent margin => ?_⟩
          have hmembers := htrees.indented indent (margin + indent) (areBlanks_lineStart margin)
          exact .object hmembers

/-! ## Members -/

/-- The canonical members are separated by commas, without blanks. -/
theorem canonicalMembers_eq_intercalate (members : List (String × Value)) :
    canonicalMembers members =
      List.intercalate [','] (members.map fun member =>
        stringText member.1 ++ ':' :: canonicalText member.2) := by
  induction members with
  | nil => rfl
  | cons member rest ih =>
      cases rest with
      | nil => simp [canonicalMembers]
      | cons next others => simp [canonicalMembers, ih]

/-- The canonical text of an object is that of its names and values. -/
theorem canonical_object (members : List (String × Value)) :
    canonical (.object members) =
      "\x7b" ++ ",".intercalate (members.map fun member =>
        canonical (.string member.1) ++ ":" ++ canonical member.2) ++ "\x7d" := by
  apply String.toList_injective
  simp [canonical, canonicalText, canonicalMembers_eq_intercalate, scalarText, Function.comp_def]

end Assay.Json
