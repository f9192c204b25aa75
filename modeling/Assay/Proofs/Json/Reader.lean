import Assay.Proofs.Json.Step
import Assay.Proofs.Table

/-! # Reading is parsing by the grammar

The strict reader takes exactly the ways to write a tree that denotes a value, and gives that
value. The two directions are proved for values inside a text, with any text behind them that does
not continue a numeral, and then for documents.
-/

namespace Assay.Json

open Number (Double)

/-! ## Whatever is read is written by the grammar -/

/-- Whatever a reader of values takes is written as a tree that denotes it, in which a bounded
number of arrays and objects are open at once. -/
def IsSound (allowed : Nat) (readItem : Reader Value) : Prop :=
  ∀ ⦃text rest : List Char⦄ ⦃value : Value⦄, Takes readItem text value rest →
    ∃ tree written, text = written ++ rest ∧ Tree.WrittenAs tree written ∧
      Tree.Denotes tree value ∧ tree.depth ≤ allowed

theorem Tree.ItemsWrittenAs.blanks_append {blanks text : List Char} {items : List Tree}
    (hblanks : AreBlanks blanks) (hitems : Tree.ItemsWrittenAs items text) :
    Tree.ItemsWrittenAs items (blanks ++ text) := by
  cases hitems with
  | one hbefore hitem hbehind =>
      simp only [← List.append_assoc]
      exact .one (hblanks.append hbefore) hitem hbehind
  | more hbefore hitem hbehind hitems =>
      simp only [← List.append_assoc]
      exact .more (hblanks.append hbefore) hitem hbehind hitems

theorem Tree.MembersWrittenAs.blanks_append {blanks text : List Char}
    {members : List (List Nat × Tree)} (hblanks : AreBlanks blanks)
    (hmembers : Tree.MembersWrittenAs members text) :
    Tree.MembersWrittenAs members (blanks ++ text) := by
  cases hmembers with
  | one hbefore hmember hbehind =>
      simp only [← List.append_assoc]
      exact .one (hblanks.append hbefore) hmember hbehind
  | more hbefore hmember hbehind hmembers =>
      simp only [← List.append_assoc]
      exact .more (hblanks.append hbefore) hmember hbehind hmembers

/-- The character behind the blanks of a text, with the blanks before it. -/
theorem exists_blanks_of_skipBlanks {text rest : List Char} {c : Char}
    (hnext : skipBlanks text = c :: rest) :
    ∃ blanks, AreBlanks blanks ∧ text = blanks ++ c :: rest := by
  obtain ⟨blanks, hblanks, htext⟩ := exists_blanks text
  exact ⟨blanks, hblanks, hnext ▸ htext⟩

variable {allowed : Nat} {readItem : Reader Value} {text rest : List Char}

/-- What is read as items is written as items that denote it, if the reader of one item is sound. -/
theorem exists_items_of_takes (hsound : IsSound allowed readItem) {values : List Value}
    (htakes : Takes (readItems readItem) text values rest) :
    ∃ items written, text = written ++ ']' :: rest ∧ Tree.ItemsWrittenAs items written ∧
      Tree.ItemsDenote items values ∧ Tree.depthOfItems items ≤ allowed := by
  induction hlength : text.length using Nat.strong_induction_on generalizing text values with
  | _ length ih =>
      subst hlength
      -- the loop goes on behind a comma, with a text that is shorter by the item and the comma
      obtain ⟨value, behind, hitem, hnext⟩ := takes_readItems_iff.mp htakes
      have hshorter := hitem.length_lt
      obtain ⟨tree, written, rfl, hwritten, hdenotes, hdepth⟩ := hsound hitem
      rcases hnext with ⟨hclose, rfl⟩ | ⟨others, more, hcomma, hothers, rfl⟩
      · obtain ⟨blanks, hblanks, rfl⟩ := exists_blanks_of_skipBlanks hclose
        refine ⟨[tree], [] ++ written ++ blanks, by simp, .one .nil hwritten hblanks,
          .cons hdenotes .nil, ?_⟩
        simpa [Tree.depthOfItems] using hdepth
      · have hlast := length_of_skipBlanks hcomma
        have hblanksLast := length_skipBlanks_le others
        obtain ⟨items, writtenItems, hrest, hwrittenItems, hdenoteItems, hdepthItems⟩ :=
          ih _ (by omega) hothers rfl
        obtain ⟨blanks, hblanks, rfl⟩ := exists_blanks_of_skipBlanks hcomma
        obtain ⟨before, hbefore, htext⟩ := exists_blanks others
        refine ⟨tree :: items, [] ++ written ++ blanks ++ ',' :: (before ++ writtenItems), ?_,
          .more .nil hwritten hblanks (hwrittenItems.blanks_append hbefore),
          .cons hdenotes hdenoteItems, ?_⟩
        · rw [htext, hrest]
          simp
        · exact max_le hdepth hdepthItems

/-- What is read as a name is a string and a colon, with blanks around the colon. -/
theorem exists_name_of_takes {name : String} (htakes : Takes readName text name rest) :
    ∃ codes nameText chars before behind,
      text = '"' :: nameText ++ '"' :: before ++ ':' :: behind ++ rest ∧
        CodesWrittenAs codes nameText ∧ CodesDenote codes chars ∧ name = String.ofList chars ∧
        AreBlanks before ∧ AreBlanks behind := by
  obtain ⟨opened, behindName, behindColon, rfl, hstring, hcolon, rfl⟩ :=
    takes_readName_iff.mp htakes
  obtain ⟨codes, nameText, chars, rfl, hwritten, hdenote, rfl⟩ :=
    exists_codes_of_readString hstring
  obtain ⟨before, hbefore, rfl⟩ := exists_blanks_of_skipBlanks hcolon
  obtain ⟨behind, hbehind, htext⟩ := exists_blanks behindColon
  refine ⟨codes, nameText, chars, before, behind, ?_, hwritten, hdenote, rfl, hbefore, hbehind⟩
  nth_rewrite 1 [htext]
  simp

theorem exists_members_of_takes (hsound : IsSound allowed readItem)
    {written : List (String × Value)} (htakes : Takes (readMembers readItem) text written rest) :
    ∃ members membersText, text = membersText ++ '}' :: rest ∧
      Tree.MembersWrittenAs members membersText ∧ Tree.MembersDenote members written ∧
      Tree.depthOfMembers members ≤ allowed := by
  induction hlength : text.length using Nat.strong_induction_on generalizing text written with
  | _ length ih =>
      subst hlength
      obtain ⟨name, behindName, value, behind, hname, hvalue, hnext⟩ :=
        takes_readMembers_iff.mp htakes
      have hshorter := hname.length_lt
      have hshorterValue := hvalue.length_lt
      obtain ⟨codes, nameText, chars, before, between, rfl, hcodes, hdenote, rfl, hbefore,
        hbetween⟩ := exists_name_of_takes hname
      obtain ⟨tree, valueText, rfl, hwritten, hdenotes, hdepth⟩ := hsound hvalue
      have hmember := Tree.MemberWrittenAs.intro hcodes hbefore hbetween hwritten
      rcases hnext with ⟨hclose, rfl⟩ | ⟨others, more, hcomma, hothers, rfl⟩
      · obtain ⟨blanks, hblanks, rfl⟩ := exists_blanks_of_skipBlanks hclose
        refine ⟨_, _, ?_, .one .nil hmember hblanks, .cons hdenote hdenotes .nil, ?_⟩
        · simp
        · simpa [Tree.depthOfMembers] using hdepth
      · have hlast := length_of_skipBlanks hcomma
        have hblanksLast := length_skipBlanks_le others
        obtain ⟨members, membersText, hrest, hwrittenMembers, hdenoteMembers, hdepthMembers⟩ :=
          ih _ (by omega) hothers rfl
        obtain ⟨blanks, hblanks, rfl⟩ := exists_blanks_of_skipBlanks hcomma
        obtain ⟨beforeNext, hbeforeNext, htext⟩ := exists_blanks others
        refine ⟨_, _, ?_, .more .nil hmember hblanks (hwrittenMembers.blanks_append hbeforeNext),
          .cons hdenote hdenotes hdenoteMembers, ?_⟩
        · rw [htext, hrest]
          simp
        · exact max_le hdepth hdepthMembers

theorem isMerged_ofEntries (written : List (String × Value)) :
    IsMerged written (Table.ofEntries written) :=
  ⟨Table.keys_ofEntries written, Table.get?_ofEntries written⟩

/-- The merged members are the table of the entries. -/
theorem IsMerged.eq_ofEntries {written : List (String × Value)} {members : Table String Value}
    (hmerged : IsMerged written members) : members = Table.ofEntries written := by
  refine (Table.eq_of_keys_of_get? (Table.nodup_keys_ofEntries written) ?_ ?_).symm
  · rw [Table.keys_ofEntries, hmerged.keys]
  · intro name
    rw [Table.get?_ofEntries, hmerged.get?]

/-- The words of the scalars are trees without depth. -/
theorem writtenAs_of_mem_scalarWords {choice : List Char × Value}
    (hmem : choice ∈ scalarWords) :
    ∃ tree, Tree.WrittenAs tree choice.1 ∧ Tree.Denotes tree choice.2 ∧ tree.depth = 0 := by
  simp only [scalarWords, List.mem_cons, List.not_mem_nil, or_false] at hmem
  rcases hmem with rfl | rfl | rfl
  · exact ⟨.null, .null, .null, rfl⟩
  · exact ⟨.bool true, .true, .bool, rfl⟩
  · exact ⟨.bool false, .false, .bool, rfl⟩

/-- The strict reader of scalars reads nothing but scalars of the grammar. -/
theorem isSound_readScalar (allowed : Nat) : IsSound allowed (readScalar .strict) := by
  intro text rest value htakes
  rcases takes_readScalar htakes with ⟨choice, hmem, rfl, rfl⟩ | ⟨numeral, hread, hdenotes⟩
  · obtain ⟨tree, hwritten, hdenotes, hdepth⟩ := writtenAs_of_mem_scalarWords hmem
    exact ⟨tree, choice.1, rfl, hwritten, hdenotes, hdepth ▸ Nat.zero_le allowed⟩
  · obtain ⟨written, rfl, hwritten⟩ := writtenAs_of_readNumeral hread
    exact ⟨.number numeral, written, rfl, .number hwritten, .number hdenotes, Nat.zero_le allowed⟩

/-- What is read as an array is one, a level deeper than what is read inside. -/
theorem exists_tree_of_readArray (hsound : IsSound allowed readItem) {value : Value}
    (hread : ∃ hrest, readArray readItem text = .ok (value, ⟨rest, hrest⟩)) :
    ∃ tree written, '[' :: text = written ++ rest ∧ Tree.WrittenAs tree written ∧
      Tree.Denotes tree value ∧ tree.depth ≤ allowed + 1 := by
  rcases readArray_eq_ok_iff.mp hread with ⟨hclose, rfl⟩ | ⟨-, items, hitems, rfl⟩
  · obtain ⟨blanks, hblanks, rfl⟩ := exists_blanks_of_skipBlanks hclose
    exact ⟨.array [], '[' :: blanks ++ [']'], by simp, .emptyArray hblanks, .array .nil,
      Nat.succ_le_succ (Nat.zero_le allowed)⟩
  · obtain ⟨trees, written, htext, hwritten, hdenote, hdepth⟩ :=
      exists_items_of_takes hsound hitems
    obtain ⟨before, hbefore, hall⟩ := exists_blanks text
    refine ⟨.array trees, '[' :: (before ++ written) ++ [']'], ?_,
      .array (hwritten.blanks_append hbefore), .array hdenote, Nat.succ_le_succ hdepth⟩
    rw [hall, htext]
    simp

theorem exists_tree_of_readObject (hsound : IsSound allowed readItem) {value : Value}
    (hread : ∃ hrest, readObject readItem text = .ok (value, ⟨rest, hrest⟩)) :
    ∃ tree written, '{' :: text = written ++ rest ∧ Tree.WrittenAs tree written ∧
      Tree.Denotes tree value ∧ tree.depth ≤ allowed + 1 := by
  rcases readObject_eq_ok_iff.mp hread with ⟨hclose, rfl⟩ | ⟨-, written, hmembers, rfl⟩
  · obtain ⟨blanks, hblanks, rfl⟩ := exists_blanks_of_skipBlanks hclose
    exact ⟨.object [], '{' :: blanks ++ ['}'], by simp, .emptyObject hblanks,
      .object .nil (isMerged_ofEntries []), Nat.succ_le_succ (Nat.zero_le allowed)⟩
  · obtain ⟨members, membersText, htext, hwritten, hdenote, hdepth⟩ :=
      exists_members_of_takes hsound hmembers
    obtain ⟨before, hbefore, hall⟩ := exists_blanks text
    refine ⟨.object members, '{' :: (before ++ membersText) ++ ['}'], ?_,
      .object (hwritten.blanks_append hbefore), .object hdenote (isMerged_ofEntries written),
      Nat.succ_le_succ hdepth⟩
    rw [hall, htext]
    simp

/-- Values are read soundly if the values inside them are. -/
theorem isSound_readValue_of
    (hbelow : ∀ below, allowed = below + 1 → IsSound below (readValue .strict below)) :
    IsSound allowed (readValue .strict allowed) := by
  intro text rest value htakes
  -- the first character decides which reader goes on
  by_cases hquote : '"' ∈ text.head?
  · obtain ⟨opened, rfl⟩ := List.head?_eq_some_iff.mp hquote
    obtain ⟨content, hread, rfl⟩ := takes_readValue_string_iff.mp htakes
    obtain ⟨codes, written, chars, rfl, hwritten, hdenote, rfl⟩ :=
      exists_codes_of_readString hread
    exact ⟨.string codes, '"' :: written ++ ['"'], by simp, .string hwritten, .string hdenote,
      Nat.zero_le allowed⟩
  · by_cases hbracket : '[' ∈ text.head?
    · obtain ⟨opened, rfl⟩ := List.head?_eq_some_iff.mp hbracket
      obtain ⟨below, rfl, hread⟩ := takes_readValue_array_iff.mp htakes
      exact exists_tree_of_readArray (hbelow below rfl) hread
    · by_cases hbrace : '{' ∈ text.head?
      · obtain ⟨opened, rfl⟩ := List.head?_eq_some_iff.mp hbrace
        obtain ⟨below, rfl, hread⟩ := takes_readValue_object_iff.mp htakes
        exact exists_tree_of_readObject (hbelow below rfl) hread
      · rw [Takes, readValue_eq_readScalar hquote hbracket hbrace] at htakes
        exact isSound_readScalar allowed htakes

/-- The strict reader takes only texts of the grammar, with the value that they denote. -/
theorem isSound_readValue (allowed : Nat) : IsSound allowed (readValue .strict allowed) := by
  induction allowed with
  | zero =>
      apply isSound_readValue_of
      rintro below ⟨⟩
  | succ allowed ih =>
      apply isSound_readValue_of
      rintro below ⟨⟩
      exact ih

/-! ## Whatever the grammar writes is read -/

/-- A text that starts with the first character of a value. -/
def StartsValue (text : List Char) : Prop :=
  ∃ c ∈ text.head?, c ∈ ['n', 't', 'f', '"', '[', '{', '-'] ∨ c.isDigit = true

theorem StartsValue.append {text : List Char} (hstarts : StartsValue text) (rest : List Char) :
    StartsValue (text ++ rest) := by
  obtain ⟨c, hhead, hc⟩ := hstarts
  obtain ⟨others, rfl⟩ := List.head?_eq_some_iff.mp hhead
  exact ⟨c, rfl, hc⟩

/-- A value does not start with a character of some other use. -/
theorem StartsValue.head?_ne {text : List Char} (hstarts : StartsValue text) {c : Char}
    (hletters : c ∉ ['n', 't', 'f', '"', '[', '{', '-']) (hdigit : c.isDigit = false) :
    text.head? ≠ some c := by
  rintro hhead
  obtain ⟨first, hfirst, hchoice⟩ := hstarts
  obtain rfl := Option.some.inj (hfirst.symm.trans hhead)
  rcases hchoice with hmem | hfirst
  · exact hletters hmem
  · simp [hdigit] at hfirst

theorem StartsValue.startsSolid {text : List Char} (hstarts : StartsValue text) :
    StartsSolid text := by
  intro c hhead
  rw [← Bool.not_eq_true, isJsonBlank_iff]
  rintro (rfl | rfl | rfl | rfl) <;> exact hstarts.head?_ne (by decide) (by decide) hhead

theorem Numeral.WrittenAs.exists_head {numeral : Numeral} {text : List Char}
    (hwritten : numeral.WrittenAs text) :
    ∃ c rest, text = c :: rest ∧ (c = '-' ∨ c.isDigit = true) := by
  obtain @⟨negative, whole, _, _, _, _, hwhole, _, _⟩ := hwritten
  cases negative with
  | true => exact ⟨'-', _, rfl, Or.inl rfl⟩
  | false =>
      cases hwhole with
      | zero => exact ⟨'0', _, rfl, Or.inr (by decide)⟩
      | @digits first _ hfirst hdigits =>
          exact ⟨first, _, rfl, Or.inr ((areDigits_iff.mp hdigits).2 first List.mem_cons_self)⟩

theorem Numeral.WrittenAs.startsValue {numeral : Numeral} {text : List Char}
    (hwritten : numeral.WrittenAs text) : StartsValue text := by
  obtain ⟨c, rest, rfl, rfl | hdigit⟩ := hwritten.exists_head
  · exact ⟨'-', rfl, Or.inl (by decide)⟩
  · exact ⟨c, rfl, Or.inr hdigit⟩

theorem Tree.MemberWrittenAs.startsValue {name : List Nat} {value : Tree} {text : List Char}
    (hmember : Tree.MemberWrittenAs name value text) : StartsValue text := by
  cases hmember
  exact ⟨'"', rfl, Or.inl (by decide)⟩

/-- The first character of a tree is no blank and closes nothing. -/
theorem Tree.WrittenAs.startsValue {tree : Tree} {text : List Char}
    (hwritten : tree.WrittenAs text) : StartsValue text := by
  cases hwritten with
  | number hnumeral => exact hnumeral.startsValue
  | _ => exact ⟨_, rfl, Or.inl (by decide)⟩

/-- A numeral is none of the words and none of the constants. -/
theorem findWord?_numeral {numeral : Numeral} {written : List Char}
    (hwritten : numeral.WrittenAs written) (rest : List Char) :
    findWord? scalarWords (written ++ rest) = none ∧
      findWord? constantWords (written ++ rest) = none := by
  obtain @⟨negative, whole, _, _, _, _, hwhole, _, _⟩ := hwritten
  have hdigit : ∃ first others, whole = first :: others ∧ first.isDigit = true := by
    cases hwhole with
    | zero => exact ⟨'0', [], rfl, by decide⟩
    | digits _ hdigits => exact ⟨_, _, rfl, (areDigits_iff.mp hdigits).2 _ List.mem_cons_self⟩
  obtain ⟨first, others, rfl, hfirst⟩ := hdigit
  have hne : ∀ letter : Char, letter.isDigit = false → letter ≠ first := by
    rintro letter hletter rfl
    simp [hletter] at hfirst
  have hn := hne 'n' (by decide)
  have ht := hne 't' (by decide)
  have hf := hne 'f' (by decide)
  have hN := hne 'N' (by decide)
  have hI := hne 'I' (by decide)
  have hminus := hne '-' (by decide)
  -- a minus sign starts a constant as well, but a digit follows it here
  cases negative <;>
    simp [findWord?, scalarWords, constantWords, minusText, dropWord, hn, ht, hf, hN, hI, hminus]

theorem endsNumeral_blanks {blanks : List Char} (hblanks : AreBlanks blanks) {rest : List Char}
    (hrest : EndsNumeral rest) : EndsNumeral (blanks ++ rest) := by
  cases blanks with
  | nil => exact hrest
  | cons blank others =>
      intro c hhead
      obtain rfl := Option.some.inj hhead
      rcases hblanks _ List.mem_cons_self with rfl | rfl | rfl | rfl <;> decide

theorem EndsNumeral.cons {c : Char}
    (hc : c.isDigit = false ∧ c ≠ '.' ∧ c ≠ 'e' ∧ c ≠ 'E') (rest : List Char) :
    EndsNumeral (c :: rest) := by
  intro head hhead
  obtain rfl := Option.some.inj hhead
  exact hc

theorem EndsNumeral.nil : EndsNumeral [] := by
  intro c hhead
  simp at hhead

/-- What stands behind an item, up to the next item or the end of the container. -/
theorem skipBlanks_item {before text : List Char} (hbefore : AreBlanks before)
    (hstarts : StartsValue text) (rest : List Char) :
    skipBlanks (before ++ text ++ rest) = text ++ rest := by
  rw [List.append_assoc, skipBlanks_append hbefore,
    skipBlanks_of_startsSolid (hstarts.append rest).startsSolid]

theorem skipBlanks_mark {blanks : List Char} (hblanks : AreBlanks blanks) {mark : Char}
    (hmark : isJsonBlank mark = false) (rest : List Char) :
    skipBlanks (blanks ++ mark :: rest) = mark :: rest := by
  rw [skipBlanks_append hblanks]
  apply skipBlanks_of_startsSolid
  intro c hhead
  obtain rfl := Option.some.inj hhead
  exact hmark

/-- The first of the items that a text writes, and what follows it. -/
theorem Tree.ItemsWrittenAs.exists_first {items : List Tree}
    (hitems : Tree.ItemsWrittenAs items text) (rest : List Char) :
    ∃ item more written behind, items = item :: more ∧ item.WrittenAs written ∧
      skipBlanks (text ++ ']' :: rest) = written ++ behind ∧ EndsNumeral behind ∧
      ((more = [] ∧ skipBlanks behind = ']' :: rest) ∨
        ∃ others, Tree.ItemsWrittenAs more others ∧
          skipBlanks behind = ',' :: (others ++ ']' :: rest)) := by
  cases hitems with
  | @one item before written behind hbefore hitem hbehind =>
      refine ⟨item, [], written, behind ++ ']' :: rest, rfl, hitem, ?_,
        endsNumeral_blanks hbehind (.cons (by decide) _),
        Or.inl ⟨rfl, skipBlanks_mark hbehind (by decide) rest⟩⟩
      rw [List.append_assoc, skipBlanks_item hbefore hitem.startsValue]
  | @more item items before written behind others hbefore hitem hbehind hothers =>
      refine ⟨item, items, written, behind ++ ',' :: (others ++ ']' :: rest), rfl, hitem, ?_,
        endsNumeral_blanks hbehind (.cons (by decide) _),
        Or.inr ⟨others, hothers, skipBlanks_mark hbehind (by decide) _⟩⟩
      rw [← skipBlanks_item hbefore hitem.startsValue]
      simp

theorem Tree.ItemsWrittenAs.startsValue {items : List Tree}
    (hitems : Tree.ItemsWrittenAs items text) (rest : List Char) :
    StartsValue (skipBlanks (text ++ ']' :: rest)) := by
  obtain ⟨_, _, _, _, _, hitem, htext, -, -⟩ := hitems.exists_first rest
  exact htext ▸ hitem.startsValue.append _

/-- The first of the members that a text writes, and what follows it. -/
theorem Tree.MembersWrittenAs.exists_first {members : List (List Nat × Tree)}
    (hmembers : Tree.MembersWrittenAs members text) (rest : List Char) :
    ∃ name value more nameText before between written behind, members = (name, value) :: more ∧
      CodesWrittenAs name nameText ∧ AreBlanks before ∧ AreBlanks between ∧
      value.WrittenAs written ∧
      skipBlanks (text ++ '}' :: rest) =
        '"' :: (nameText ++ '"' :: (before ++ ':' :: (between ++ (written ++ behind)))) ∧
      EndsNumeral behind ∧
      ((more = [] ∧ skipBlanks behind = '}' :: rest) ∨
        ∃ others, Tree.MembersWrittenAs more others ∧
          skipBlanks behind = ',' :: (others ++ '}' :: rest)) := by
  cases hmembers with
  | @one name value before text behind hbefore hmember hbehind =>
      have hstarts := hmember.startsValue
      obtain ⟨hname, hbeforeColon, hbetween, hvalue⟩ := hmember
      refine ⟨name, value, [], _, _, _, _, behind ++ '}' :: rest, rfl, hname, hbeforeColon,
        hbetween, hvalue, ?_, endsNumeral_blanks hbehind (.cons (by decide) _),
        Or.inl ⟨rfl, skipBlanks_mark hbehind (by decide) rest⟩⟩
      rw [List.append_assoc, skipBlanks_item hbefore hstarts]
      simp
  | @more name value members before text behind others hbefore hmember hbehind hothers =>
      have hstarts := hmember.startsValue
      obtain ⟨hname, hbeforeColon, hbetween, hvalue⟩ := hmember
      refine ⟨name, value, members, _, _, _, _, behind ++ ',' :: (others ++ '}' :: rest), rfl,
        hname, hbeforeColon, hbetween, hvalue, ?_,
        endsNumeral_blanks hbehind (.cons (by decide) _),
        Or.inr ⟨others, hothers, skipBlanks_mark hbehind (by decide) _⟩⟩
      rw [List.append_assoc, List.append_assoc, skipBlanks_item hbefore hstarts]
      simp

theorem Tree.MembersWrittenAs.startsValue {members : List (List Nat × Tree)}
    (hmembers : Tree.MembersWrittenAs members text) (rest : List Char) :
    StartsValue (skipBlanks (text ++ '}' :: rest)) := by
  obtain ⟨_, _, _, _, _, _, _, _, _, _, _, _, _, htext, -, -⟩ := hmembers.exists_first rest
  exact htext ▸ ⟨'"', rfl, Or.inl (by decide)⟩

/-- A reader takes a tree from any way to write it, whatever ends a numeral behind it. -/
def IsComplete (readItem : Reader Value) (tree : Tree) : Prop :=
  ∀ ⦃written rest : List Char⦄ ⦃value : Value⦄, tree.WrittenAs written → tree.Denotes value →
    EndsNumeral rest → Takes readItem (written ++ rest) value rest

/-- Items are read as they are written, if the reader of one item is complete. -/
theorem takes_readItems_of_writtenAs {items : List Tree} {values : List Value}
    {written : List Char} (hcomplete : ∀ item ∈ items, IsComplete readItem item)
    (hwritten : Tree.ItemsWrittenAs items written) (hdenote : Tree.ItemsDenote items values)
    (rest : List Char) :
    Takes (readItems readItem) (skipBlanks (written ++ ']' :: rest)) values rest := by
  induction items generalizing values written with
  | nil => nomatch hwritten
  | cons item items ih =>
      obtain ⟨hitem, hitems⟩ := List.forall_mem_cons.mp hcomplete
      obtain ⟨_, _, itemText, behind, hfirst, hitemText, htext, hends, hnext⟩ :=
        hwritten.exists_first rest
      obtain ⟨rfl, rfl⟩ := List.cons.inj hfirst
      rw [htext]
      cases hdenote with
      | @cons _ _ value values hvalue hvalues =>
          refine takes_readItems_iff.mpr ⟨value, behind, hitem hitemText hvalue hends, ?_⟩
          rcases hnext with ⟨rfl, hclose⟩ | ⟨others, hothers, hcomma⟩
          · cases hvalues
            exact Or.inl ⟨hclose, rfl⟩
          · exact Or.inr ⟨_, values, hcomma, ih hitems hothers hvalues, rfl⟩

theorem takes_readName_of_writtenAs {name : List Nat} {nameText chars before between : List Char}
    (hname : CodesWrittenAs name nameText) (hdenote : CodesDenote name chars)
    (hbefore : AreBlanks before) (hbetween : AreBlanks between) {text : List Char}
    (hsolid : StartsSolid text) :
    Takes readName ('"' :: (nameText ++ '"' :: (before ++ ':' :: (between ++ text))))
      (String.ofList chars) text := by
  refine takes_readName_iff.mpr ⟨_, before ++ ':' :: (between ++ text), between ++ text, rfl,
    readString_of_codes hname hdenote _, skipBlanks_mark hbefore (by decide) _, ?_⟩
  rw [skipBlanks_append hbetween, skipBlanks_of_startsSolid hsolid]

theorem takes_readMembers_of_writtenAs {members : List (List Nat × Tree)}
    {entries : List (String × Value)} {written : List Char}
    (hcomplete : ∀ member ∈ members, IsComplete readItem member.2)
    (hwritten : Tree.MembersWrittenAs members written)
    (hdenote : Tree.MembersDenote members entries) (rest : List Char) :
    Takes (readMembers readItem) (skipBlanks (written ++ '}' :: rest)) entries rest := by
  induction members generalizing entries written with
  | nil => nomatch hwritten
  | cons member members ih =>
      obtain ⟨hmember, hmembers⟩ := List.forall_mem_cons.mp hcomplete
      obtain ⟨_, _, _, nameText, before, between, valueText, behind, hfirst, hname, hbefore,
        hbetween, hvalueText, htext, hends, hnext⟩ := hwritten.exists_first rest
      obtain ⟨rfl, rfl⟩ := List.cons.inj hfirst
      rw [htext]
      cases hdenote with
      | @cons _ chars _ value _ entries hnameDenotes hvalue hentries =>
          refine takes_readMembers_iff.mpr ⟨String.ofList chars, valueText ++ behind, value, behind,
            ?_, hmember hvalueText hvalue hends, ?_⟩
          · exact takes_readName_of_writtenAs hname hnameDenotes hbefore hbetween
              (hvalueText.startsValue.append behind).startsSolid
          · rcases hnext with ⟨rfl, hclose⟩ | ⟨others, hothers, hcomma⟩
            · cases hentries
              exact Or.inl ⟨hclose, rfl⟩
            · exact Or.inr ⟨_, entries, hcomma, ih hmembers hothers hentries, rfl⟩

/-- A tree without depth is read whatever the number of levels that are allowed. -/
theorem isComplete_scalar {tree : Tree} (hdepth : tree.depth = 0) (mode : Mode) (allowed : Nat) :
    IsComplete (readValue mode allowed) tree := by
  intro written rest value hwritten hdenotes hrest
  have hscalar : ∀ {text : List Char}, '"' ∉ text.head? → '[' ∉ text.head? → '{' ∉ text.head? →
      Takes (readScalar mode) text value rest → Takes (readValue mode allowed) text value rest := by
    intro text hquote hbracket hbrace htakes
    rwa [Takes, readValue_eq_readScalar hquote hbracket hbrace]
  cases hwritten with
  | null =>
      cases hdenotes
      exact hscalar (by simp) (by simp) (by simp) (takes_readScalar_of_word rfl)
  | true =>
      cases hdenotes
      exact hscalar (by simp) (by simp) (by simp) (takes_readScalar_of_word rfl)
  | false =>
      cases hdenotes
      exact hscalar (by simp) (by simp) (by simp) (takes_readScalar_of_word rfl)
  | number hnumeral =>
      cases hdenotes with
      | number hnumeralDenotes =>
          obtain ⟨c, others, rfl, hc⟩ := hnumeral.exists_head
          have hne : ∀ mark : Char, mark.isDigit = false → mark ≠ '-' →
              mark ∉ (c :: others ++ rest).head? := by
            rintro mark hdigit hminus hhead
            obtain rfl := Option.some.inj hhead
            rcases hc with rfl | hc
            · exact hminus rfl
            · simp [hdigit] at hc
          obtain ⟨hword, hconstant⟩ := findWord?_numeral hnumeral rest
          exact hscalar (hne _ (by decide) (by decide)) (hne _ (by decide) (by decide))
            (hne _ (by decide) (by decide)) (takes_readScalar_of_numeral hword hconstant
              (readNumeral_append hnumeral hrest) hnumeralDenotes)
  | string hcodes =>
      cases hdenotes with
      | string hdenote =>
          simp only [List.cons_append, List.append_assoc, List.nil_append]
          exact takes_readValue_string_iff.mpr ⟨_, readString_of_codes hcodes hdenote rest, rfl⟩
  | _ => simp [Tree.depth] at hdepth

/-- An array is read with one level more than its items. -/
theorem isComplete_array {items : List Tree} {below : Nat}
    (hcomplete : ∀ item ∈ items, IsComplete (readValue mode below) item) :
    IsComplete (readValue mode (below + 1)) (.array items) := by
  intro written rest value hwritten hdenotes _
  cases hdenotes with
  | @array _ values hitemsDenote =>
  cases hwritten with
  | @emptyArray blanks hblanks =>
      cases hitemsDenote
      rw [show '[' :: blanks ++ [']'] ++ rest = '[' :: (blanks ++ ']' :: rest) by simp]
      exact takes_readValue_array_iff.mpr ⟨below, rfl, readArray_eq_ok_iff.mpr
        (Or.inl ⟨skipBlanks_mark hblanks (by decide) rest, rfl⟩)⟩
  | @array _ text hitems =>
      have htakes := takes_readItems_of_writtenAs hcomplete hitems hitemsDenote rest
      rw [show '[' :: text ++ [']'] ++ rest = '[' :: (text ++ ']' :: rest) by simp]
      refine takes_readValue_array_iff.mpr ⟨below, rfl, readArray_eq_ok_iff.mpr
        (Or.inr ⟨fun behind hclose => ?_, values, htakes, rfl⟩)⟩
      exact (hitems.startsValue _).head?_ne (by decide) (by decide) (congrArg List.head? hclose)

theorem isComplete_object {members : List (List Nat × Tree)} {below : Nat}
    (hcomplete : ∀ member ∈ members, IsComplete (readValue mode below) member.2) :
    IsComplete (readValue mode (below + 1)) (.object members) := by
  intro written rest value hwritten hdenotes _
  cases hdenotes with
  | @object _ entries table hmembersDenote hmerged =>
  obtain rfl := hmerged.eq_ofEntries
  cases hwritten with
  | @emptyObject blanks hblanks =>
      cases hmembersDenote
      rw [show '{' :: blanks ++ ['}'] ++ rest = '{' :: (blanks ++ '}' :: rest) by simp]
      exact takes_readValue_object_iff.mpr ⟨below, rfl, readObject_eq_ok_iff.mpr
        (Or.inl ⟨skipBlanks_mark hblanks (by decide) rest, rfl⟩)⟩
  | @object _ text hmembers =>
      have htakes := takes_readMembers_of_writtenAs hcomplete hmembers hmembersDenote rest
      rw [show '{' :: text ++ ['}'] ++ rest = '{' :: (text ++ '}' :: rest) by simp]
      refine takes_readValue_object_iff.mpr ⟨below, rfl, readObject_eq_ok_iff.mpr
        (Or.inr ⟨fun behind hclose => ?_, entries, htakes, rfl⟩)⟩
      exact (hmembers.startsValue _).head?_ne (by decide) (by decide) (congrArg List.head? hclose)

/-- A reader that may open as many brackets as a tree has open at once takes the tree. -/
theorem isComplete_readValue (mode : Mode) {tree : Tree} {allowed : Nat}
    (hdepth : tree.depth ≤ allowed) : IsComplete (readValue mode allowed) tree := by
  -- on the brackets that are allowed and not on the tree: each child is left one bracket fewer
  induction allowed generalizing tree with
  | zero => exact isComplete_scalar (Nat.le_zero.mp hdepth) mode 0
  | succ below ih =>
      cases tree with
      | array items =>
          exact isComplete_array fun item hmem =>
            ih (Tree.depthOfItems_le_iff.mp (Nat.le_of_succ_le_succ hdepth) item hmem)
      | object members =>
          exact isComplete_object fun member hmem =>
            ih (Tree.depthOfMembers_le_iff.mp (Nat.le_of_succ_le_succ hdepth) member hmem)
      | _ => exact isComplete_scalar rfl mode (below + 1)

/-! ## Documents -/

/-- A sentence starts with no byte order mark. -/
theorem Tree.IsSentence.head?_ne_mark {tree : Tree} {text : List Char}
    (hsentence : tree.IsSentence text) : text.head? ≠ some '\uFEFF' := by
  obtain @⟨before, written, behind, hbefore, hwritten, -⟩ := hsentence
  cases before with
  | nil =>
      exact ((hwritten.startsValue.append behind).head?_ne (by decide) (by decide))
  | cons blank others =>
      intro hhead
      obtain rfl := Option.some.inj hhead
      exact absurd (hbefore _ List.mem_cons_self) (by decide)

/-- The tree of a sentence stands behind its blanks. -/
theorem Tree.IsSentence.exists_text {tree : Tree} (hsentence : tree.IsSentence text) :
    ∃ behind written, skipBlanks text = written ++ behind ∧ tree.WrittenAs written ∧
      EndsNumeral behind ∧ AreBlanks behind := by
  obtain @⟨before, written, behind, hbefore, hwritten, hbehind⟩ := hsentence
  have hends := endsNumeral_blanks hbehind .nil
  rw [List.append_nil] at hends
  exact ⟨behind, written, skipBlanks_item hbefore hwritten.startsValue behind, hwritten, hends,
    hbehind⟩

/-- A sentence that is not too deep is read, up to blanks. -/
theorem Tree.IsSentence.takes {tree : Tree} {value : Value} (hsentence : tree.IsSentence text)
    (hdenotes : tree.Denotes value) (hdepth : tree.depth ≤ allowed) (mode : Mode) :
    ∃ behind, Takes (readValue mode allowed) (skipBlanks text) value behind ∧
      AreBlanks behind := by
  obtain ⟨behind, written, htext, hwritten, hends, hbehind⟩ := hsentence.exists_text
  exact ⟨behind, htext ▸ isComplete_readValue mode hdepth hwritten hdenotes hends, hbehind⟩

/-- The strict reader accepts the sentences of the grammar that denote a value and do not have
too many arrays and objects open at once. -/
theorem readDocument_eq_ok_iff_exists_tree {value : Value} :
    readDocument .strict text = .ok value ↔
      ∃ tree : Tree, tree.IsSentence text ∧ tree.Denotes value ∧ tree.depth ≤ openLimit := by
  rw [readDocument_eq_ok_iff]
  constructor
  · rintro ⟨-, behind, htakes, hbehind⟩
    obtain ⟨tree, written, htext, hwritten, hdenotes, hdepth⟩ :=
      isSound_readValue openLimit htakes
    obtain ⟨before, hbefore, hall⟩ := exists_blanks text
    refine ⟨tree, ?_, hdenotes, hdepth⟩
    rw [hall, htext, ← List.append_assoc]
    exact .intro hbefore hwritten hbehind
  · rintro ⟨tree, hsentence, hdenotes, hdepth⟩
    exact ⟨hsentence.head?_ne_mark, hsentence.takes hdenotes hdepth .strict⟩

theorem Takes.unique {α : Type} {reader : Reader α} {left right : α}
    {behindLeft behindRight : List Char} (hleft : Takes reader text left behindLeft)
    (hright : Takes reader text right behindRight) : left = right := by
  obtain ⟨_, hleft⟩ := hleft
  obtain ⟨_, hright⟩ := hright
  exact (Prod.mk.inj (Except.ok.inj (hleft.symm.trans hright))).1

/-- A sentence denotes at most one value, whatever tree it is read as. -/
theorem Tree.IsSentence.value_unique {left right : Tree} {value other : Value}
    (hleft : left.IsSentence text) (hright : right.IsSentence text)
    (hvalue : left.Denotes value) (hother : right.Denotes other) : value = other := by
  obtain ⟨_, htakes, -⟩ := hleft.takes hvalue (Nat.le_max_left left.depth right.depth) .strict
  obtain ⟨_, hothers, -⟩ := hright.takes hother (Nat.le_max_right left.depth right.depth) .strict
  exact htakes.unique hothers

end Assay.Json
