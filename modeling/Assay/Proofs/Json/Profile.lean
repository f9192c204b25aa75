import Assay.Json.Profile
import Assay.Proofs.Json.Acceptance

/-! # The size of a text bounds what it holds

Every item and every member of a document takes at least one character of its text. So the counts
in the profile of a text are never greater than its size.
-/

namespace Assay.Json

/-! ## Children take room -/

/-- Items are at most one more than the characters they are written with. -/
theorem Tree.ItemsWrittenAs.length_le {items : List Tree} {text : List Char}
    (hwritten : Tree.ItemsWrittenAs items text) : items.length ≤ text.length + 1 := by
  induction items generalizing text with
  | nil => exact Nat.zero_le _
  | cons item rest ih =>
      cases hwritten with
      | one => exact Nat.le_add_left 1 _
      | more _ _ _ hitems =>
          have hrest := ih hitems
          simp only [List.length_cons, List.length_append]
          omega

theorem Tree.MembersWrittenAs.length_le {members : List (List Nat × Tree)} {text : List Char}
    (hwritten : Tree.MembersWrittenAs members text) : members.length ≤ text.length + 1 := by
  induction members generalizing text with
  | nil => exact Nat.zero_le _
  | cons member rest ih =>
      cases hwritten with
      | one => exact Nat.le_add_left 1 _
      | more _ _ _ hmembers =>
          have hrest := ih hmembers
          simp only [List.length_cons, List.length_append]
          omega

theorem Tree.ItemsDenote.length_eq {items : List Tree} {values : List Value}
    (hdenote : Tree.ItemsDenote items values) : values.length = items.length := by
  induction items generalizing values with
  | nil =>
      cases hdenote
      rfl
  | cons item rest ih =>
      cases hdenote with
      | cons _ hvalues => exact congrArg Nat.succ (ih hvalues)

theorem Tree.MembersDenote.length_eq {members : List (List Nat × Tree)}
    {entries : List (String × Value)} (hdenote : Tree.MembersDenote members entries) :
    entries.length = members.length := by
  induction members generalizing entries with
  | nil =>
      cases hdenote
      rfl
  | cons member rest ih =>
      cases hdenote with
      | cons _ _ hentries => exact congrArg Nat.succ (ih hentries)

/-- A text has a character for every child of its value. -/
theorem Tree.Denotes.children_le {tree : Tree} {text : List Char} {value : Value}
    (hwritten : tree.WrittenAs text) (hdenotes : tree.Denotes value) :
    (Shape.ofValue value).keys + (Shape.ofValue value).length ≤ text.length := by
  cases hdenotes with
  | @array items values hitems =>
      have hlength := hitems.length_eq
      cases hwritten with
      | emptyArray => simp_all [Shape.ofValue]
      | array hwritten =>
          have hroom := hwritten.length_le
          simp only [Shape.ofValue, List.length_cons, List.length_append, List.length_nil]
          omega
  | @object members entries table hmembers hmerged =>
      have hlength := hmembers.length_eq
      -- repeated names make the table shorter than the list of the members written
      have hkept : table.length ≤ entries.length :=
        hmerged.eq_ofEntries ▸ Table.length_ofEntries_le entries
      cases hwritten with
      | emptyObject => simp_all [Shape.ofValue]
      | object hwritten =>
          have hroom := hwritten.length_le
          simp only [Shape.ofValue, List.length_cons, List.length_append, List.length_nil]
          omega
  | number hnumeral => cases hnumeral <;> exact Nat.zero_le _
  | _ => exact Nat.zero_le _

/-! ## Sizes in bytes -/

theorem length_le_utf8ByteSize (text : String) : text.toList.length ≤ text.utf8ByteSize := by
  rw [← String.utf8Len_toList]
  induction text.toList with
  | nil => exact le_rfl
  | cons c rest ih =>
      have hsize := c.utf8Size_pos
      rw [List.length_cons, String.utf8Len_cons]
      omega

/-- The counts of a document are no greater than the size of its text. -/
theorem children_le_size {text : String} {value : Value} (hparse : parse text = .ok value) :
    (Shape.ofValue value).keys + (Shape.ofValue value).length ≤ text.utf8ByteSize := by
  obtain ⟨tree, hsentence, hdenotes, -, -⟩ := parse_eq_ok_iff_exists_tree.mp hparse
  refine le_trans ?_ (length_le_utf8ByteSize text)
  generalize text.toList = written at hsentence
  obtain ⟨-, hwritten, -⟩ := hsentence
  have hroom := hdenotes.children_le hwritten
  simp only [List.length_append]
  omega

end Assay.Json
