import Assay.Proofs.Json.Reader

/-! # The grammar is unambiguous

The start of a text and the mark behind it determine the construct that is written there, so no
sentence is the text of two trees.
-/

namespace Assay.Json

variable {rest otherRest : List Char}

/-- A string ends at one place, with one list of codes. -/
theorem CodesWrittenAs.unique {codes others : List Nat} {text otherText : List Char}
    (hcodes : CodesWrittenAs codes text) (hothers : CodesWrittenAs others otherText)
    (heq : text ++ '"' :: rest = otherText ++ '"' :: otherRest) :
    codes = others ∧ rest = otherRest := by
  have hread := readCodes_of_codesWrittenAs 0 hcodes rest
  rw [heq, readCodes_of_codesWrittenAs 0 hothers otherRest] at hread
  obtain ⟨rfl, rfl⟩ := Prod.mk.inj (Except.ok.inj hread)
  exact ⟨rfl, rfl⟩

/-- A numeral ends at one place, with one set of parts. -/
theorem Numeral.WrittenAs.unique {numeral other : Numeral} {text otherText : List Char}
    (hnumeral : numeral.WrittenAs text) (hother : other.WrittenAs otherText)
    (hrest : EndsNumeral rest) (hotherRest : EndsNumeral otherRest)
    (heq : text ++ rest = otherText ++ otherRest) : numeral = other ∧ rest = otherRest := by
  have hread := readNumeral_append hnumeral hrest
  rw [heq, readNumeral_append hother hotherRest] at hread
  obtain ⟨rfl, rfl⟩ := Prod.mk.inj (Option.some.inj hread)
  exact ⟨rfl, rfl⟩

/-- No numeral starts with a character of some other use. -/
theorem Numeral.WrittenAs.ne_cons {numeral : Numeral} {text others : List Char} {c : Char}
    (hnumeral : numeral.WrittenAs text) (hminus : c ≠ '-') (hdigit : c.isDigit = false) :
    text ++ rest ≠ c :: others := by
  obtain ⟨first, tail, rfl, hfirst⟩ := hnumeral.exists_head
  intro heq
  obtain ⟨rfl, -⟩ := List.cons.inj heq
  rcases hfirst with hfirst | hfirst
  · exact hminus hfirst
  · simp [hdigit] at hfirst

/-- A text starts with at most one way to write a given tree, and with no other tree. -/
def Tree.IsDetermined (tree : Tree) : Prop :=
  ∀ ⦃other : Tree⦄ ⦃text otherText rest otherRest : List Char⦄, tree.WrittenAs text →
    other.WrittenAs otherText → EndsNumeral rest → EndsNumeral otherRest →
    text ++ rest = otherText ++ otherRest → tree = other ∧ rest = otherRest

/-- Items in a row are determined, if each of them is. -/
theorem Tree.ItemsWrittenAs.unique {items others : List Tree} {text otherText : List Char}
    (hdetermined : ∀ item ∈ items, item.IsDetermined)
    (hitems : Tree.ItemsWrittenAs items text) (hothers : Tree.ItemsWrittenAs others otherText)
    (heq : skipBlanks (text ++ ']' :: rest) = skipBlanks (otherText ++ ']' :: otherRest)) :
    items = others ∧ rest = otherRest := by
  induction items generalizing others text otherText with
  | nil => nomatch hitems
  | cons item items ih =>
      obtain ⟨hitem, hmore⟩ := List.forall_mem_cons.mp hdetermined
      obtain ⟨_, _, written, behind, hfirst, hwritten, htext, hends, hnext⟩ :=
        hitems.exists_first rest
      obtain ⟨rfl, rfl⟩ := List.cons.inj hfirst
      obtain ⟨other, more, otherWritten, otherBehind, rfl, hotherWritten, hotherText, hotherEnds,
        hotherNext⟩ := hothers.exists_first otherRest
      rw [htext, hotherText] at heq
      obtain ⟨rfl, rfl⟩ := hitem hwritten hotherWritten hends hotherEnds heq
      -- what stands behind the item is the same on both sides, a bracket or a comma
      rcases hnext with ⟨rfl, hclose⟩ | ⟨left, hleft, hcomma⟩ <;>
        rcases hotherNext with ⟨rfl, hotherClose⟩ | ⟨right, hright, hotherComma⟩
      · rw [hclose] at hotherClose
        exact ⟨rfl, (List.cons.inj hotherClose).2⟩
      · simp [hclose] at hotherComma
      · simp [hcomma] at hotherClose
      · rw [hcomma] at hotherComma
        obtain ⟨rfl, rfl⟩ := ih hmore hleft hright
          (congrArg skipBlanks (List.cons.inj hotherComma).2)
        exact ⟨rfl, rfl⟩

theorem Tree.MembersWrittenAs.unique {members others : List (List Nat × Tree)}
    {text otherText : List Char} (hdetermined : ∀ member ∈ members, member.2.IsDetermined)
    (hmembers : Tree.MembersWrittenAs members text)
    (hothers : Tree.MembersWrittenAs others otherText)
    (heq : skipBlanks (text ++ '}' :: rest) = skipBlanks (otherText ++ '}' :: otherRest)) :
    members = others ∧ rest = otherRest := by
  induction members generalizing others text otherText with
  | nil => nomatch hmembers
  | cons member members ih =>
      obtain ⟨hmember, hmore⟩ := List.forall_mem_cons.mp hdetermined
      obtain ⟨_, _, _, nameText, before, between, written, behind, hfirst, hname, hbefore,
        hbetween, hwritten, htext, hends, hnext⟩ := hmembers.exists_first rest
      obtain ⟨rfl, rfl⟩ := List.cons.inj hfirst
      obtain ⟨otherName, otherValue, more, otherNameText, otherBefore, otherBetween, otherWritten,
        otherBehind, rfl, hotherName, hotherBefore, hotherBetween, hotherWritten, hotherText,
        hotherEnds, hotherNext⟩ := hothers.exists_first otherRest
      rw [htext, hotherText] at heq
      obtain ⟨rfl, hcolon⟩ := hname.unique hotherName (List.cons.inj heq).2
      -- the names end at the same quotation mark, so the colons and the values stand together
      have hbehindColon := congrArg skipBlanks hcolon
      rw [skipBlanks_mark hbefore (by decide), skipBlanks_mark hotherBefore (by decide)]
        at hbehindColon
      have hvalue := congrArg skipBlanks (List.cons.inj hbehindColon).2
      rw [skipBlanks_append hbetween, skipBlanks_append hotherBetween,
        skipBlanks_of_startsSolid (hwritten.startsValue.append _).startsSolid,
        skipBlanks_of_startsSolid (hotherWritten.startsValue.append _).startsSolid] at hvalue
      obtain ⟨rfl, rfl⟩ := hmember hwritten hotherWritten hends hotherEnds hvalue
      rcases hnext with ⟨rfl, hclose⟩ | ⟨left, hleft, hcomma⟩ <;>
        rcases hotherNext with ⟨rfl, hotherClose⟩ | ⟨right, hright, hotherComma⟩
      · rw [hclose] at hotherClose
        exact ⟨rfl, (List.cons.inj hotherClose).2⟩
      · simp [hclose] at hotherComma
      · simp [hcomma] at hotherClose
      · rw [hcomma] at hotherComma
        obtain ⟨rfl, rfl⟩ := ih hmore hleft hright
          (congrArg skipBlanks (List.cons.inj hotherComma).2)
        exact ⟨rfl, rfl⟩

theorem Tree.isDetermined_number (numeral : Numeral) : (Tree.number numeral).IsDetermined := by
  intro other text otherText rest otherRest hwritten hother hrest hotherRest heq
  cases hwritten with
  | number hnumeral =>
      cases hother with
      | number hotherNumeral =>
          obtain ⟨rfl, rfl⟩ := hnumeral.unique hotherNumeral hrest hotherRest heq
          exact ⟨rfl, rfl⟩
      | _ => exact absurd heq (hnumeral.ne_cons (by decide) (by decide))

theorem Tree.isDetermined_string (codes : List Nat) : (Tree.string codes).IsDetermined := by
  intro other text otherText rest otherRest hwritten hother _ _ heq
  cases hwritten with
  | string hcodes =>
      cases hother with
      | string hotherCodes =>
          simp only [List.cons_append, List.append_assoc, List.nil_append, List.cons.injEq,
            true_and] at heq
          obtain ⟨rfl, rfl⟩ := hcodes.unique hotherCodes heq
          exact ⟨rfl, rfl⟩
      | number hnumeral => exact absurd heq.symm (hnumeral.ne_cons (by decide) (by decide))
      | _ => simp at heq

/-- The text behind the opening mark of a container: blanks and the closing mark, or the children
and the closing mark. -/
def Closes {α : Type} (Children : List α → List Char → Prop) (mark : Char) (children : List α)
    (opened rest : List Char) : Prop :=
  (children = [] ∧ skipBlanks opened = mark :: rest) ∨
    ∃ content, Children children content ∧ opened = content ++ mark :: rest

/-- What an opening mark opens is determined if its children are. -/
theorem Closes.unique {α : Type} {Children : List α → List Char → Prop} {mark : Char}
    {children others : List α} {opened : List Char}
    (hcloses : Closes Children mark children opened rest)
    (hothers : Closes Children mark others opened otherRest)
    (hmark : mark ∉ ['n', 't', 'f', '"', '[', '{', '-'] ∧ mark.isDigit = false)
    (hstarts : ∀ children content, Children children content →
      ∀ rest, StartsValue (skipBlanks (content ++ mark :: rest)))
    (hunique : ∀ content otherContent, Children children content →
      Children others otherContent →
      skipBlanks (content ++ mark :: rest) = skipBlanks (otherContent ++ mark :: otherRest) →
      children = others ∧ rest = otherRest) :
    children = others ∧ rest = otherRest := by
  rcases hcloses with ⟨rfl, hclose⟩ | ⟨content, hcontent, rfl⟩ <;>
    rcases hothers with ⟨rfl, hotherClose⟩ | ⟨otherContent, hotherContent, hopened⟩
  · rw [hclose] at hotherClose
    exact ⟨rfl, (List.cons.inj hotherClose).2⟩
  · -- an empty container has its closing mark where the other one has its first child
    have hchild := hstarts others otherContent hotherContent otherRest
    rw [← hopened, hclose] at hchild
    exact absurd rfl (hchild.head?_ne hmark.1 hmark.2)
  · have hchild := hstarts children content hcontent rest
    rw [hotherClose] at hchild
    exact absurd rfl (hchild.head?_ne hmark.1 hmark.2)
  · exact hunique content otherContent hcontent hotherContent (congrArg skipBlanks hopened)

/-- An array is a bracket, and then items up to the closing one. -/
theorem Tree.WrittenAs.exists_opened_array {items : List Tree} {text : List Char}
    (hwritten : (Tree.array items).WrittenAs text) (rest : List Char) :
    ∃ opened, text ++ rest = '[' :: opened ∧
      Closes Tree.ItemsWrittenAs ']' items opened rest := by
  cases hwritten with
  | @emptyArray blanks hblanks =>
      exact ⟨blanks ++ ']' :: rest, by simp, Or.inl ⟨rfl, skipBlanks_mark hblanks (by decide) rest⟩⟩
  | @array _ content hitems =>
      exact ⟨content ++ ']' :: rest, by simp, Or.inr ⟨content, hitems, rfl⟩⟩

theorem Tree.WrittenAs.exists_opened_object {members : List (List Nat × Tree)} {text : List Char}
    (hwritten : (Tree.object members).WrittenAs text) (rest : List Char) :
    ∃ opened, text ++ rest = '{' :: opened ∧
      Closes Tree.MembersWrittenAs '}' members opened rest := by
  cases hwritten with
  | @emptyObject blanks hblanks =>
      exact ⟨blanks ++ '}' :: rest, by simp, Or.inl ⟨rfl, skipBlanks_mark hblanks (by decide) rest⟩⟩
  | @object _ content hmembers =>
      exact ⟨content ++ '}' :: rest, by simp, Or.inr ⟨content, hmembers, rfl⟩⟩

/-- A text that starts with a bracket writes no tree but an array. -/
theorem Tree.WrittenAs.exists_items {tree : Tree} {text opened : List Char}
    (hwritten : tree.WrittenAs text) (heq : text ++ rest = '[' :: opened) :
    ∃ items, tree = .array items := by
  cases hwritten with
  | emptyArray => exact ⟨_, rfl⟩
  | array => exact ⟨_, rfl⟩
  | number hnumeral => exact absurd heq (hnumeral.ne_cons (by decide) (by decide))
  | _ => simp at heq

/-- A text that starts with a brace writes no tree but an object. -/
theorem Tree.WrittenAs.exists_members {tree : Tree} {text opened : List Char}
    (hwritten : tree.WrittenAs text) (heq : text ++ rest = '{' :: opened) :
    ∃ members, tree = .object members := by
  cases hwritten with
  | emptyObject => exact ⟨_, rfl⟩
  | object => exact ⟨_, rfl⟩
  | number hnumeral => exact absurd heq (hnumeral.ne_cons (by decide) (by decide))
  | _ => simp at heq

theorem Tree.isDetermined_array {items : List Tree}
    (hdetermined : ∀ item ∈ items, item.IsDetermined) : (Tree.array items).IsDetermined := by
  intro other text otherText rest otherRest hwritten hother _ _ heq
  obtain ⟨opened, htext, hopened⟩ := hwritten.exists_opened_array rest
  obtain ⟨others, rfl⟩ := hother.exists_items (heq.symm.trans htext)
  obtain ⟨otherOpened, hotherText, hotherOpened⟩ := hother.exists_opened_array otherRest
  rw [htext, hotherText] at heq
  obtain rfl := (List.cons.inj heq).2
  obtain ⟨rfl, rfl⟩ := hopened.unique hotherOpened ⟨by decide, by decide⟩
    (fun _ _ => Tree.ItemsWrittenAs.startsValue)
    (fun _ _ => Tree.ItemsWrittenAs.unique hdetermined)
  exact ⟨rfl, rfl⟩

theorem Tree.isDetermined_object {members : List (List Nat × Tree)}
    (hdetermined : ∀ member ∈ members, member.2.IsDetermined) :
    (Tree.object members).IsDetermined := by
  intro other text otherText rest otherRest hwritten hother _ _ heq
  obtain ⟨opened, htext, hopened⟩ := hwritten.exists_opened_object rest
  obtain ⟨others, rfl⟩ := hother.exists_members (heq.symm.trans htext)
  obtain ⟨otherOpened, hotherText, hotherOpened⟩ := hother.exists_opened_object otherRest
  rw [htext, hotherText] at heq
  obtain rfl := (List.cons.inj heq).2
  obtain ⟨rfl, rfl⟩ := hopened.unique hotherOpened ⟨by decide, by decide⟩
    (fun _ _ => Tree.MembersWrittenAs.startsValue)
    (fun _ _ => Tree.MembersWrittenAs.unique hdetermined)
  exact ⟨rfl, rfl⟩

/-- A word for a scalar is not the text of another tree. -/
theorem Tree.isDetermined_word {tree : Tree} (hword : tree = .null ∨ ∃ value, tree = .bool value) :
    tree.IsDetermined := by
  intro other text otherText rest otherRest hwritten hother _ _ heq
  cases hwritten with
  | null | true | false =>
      cases hother with
      | number hnumeral => exact absurd heq.symm (hnumeral.ne_cons (by decide) (by decide))
      | _ => simp_all
  | _ => simp at hword

/-- Every tree is determined by any text that starts with it. -/
theorem Tree.isDetermined (tree : Tree) : tree.IsDetermined := by
  induction tree with
  | null => exact Tree.isDetermined_word (Or.inl rfl)
  | bool value => exact Tree.isDetermined_word (Or.inr ⟨value, rfl⟩)
  | number numeral => exact Tree.isDetermined_number numeral
  | string codes => exact Tree.isDetermined_string codes
  | array items ih => exact Tree.isDetermined_array ih
  | object members ih => exact Tree.isDetermined_object ih

/-- No sentence is the text of two trees. -/
theorem Tree.IsSentence.unique {tree other : Tree} {text : List Char}
    (hsentence : tree.IsSentence text) (hother : other.IsSentence text) : tree = other := by
  obtain ⟨behind, written, htext, hwritten, hbehind, -⟩ := hsentence.exists_text
  obtain ⟨otherBehind, otherWritten, hotherText, hotherWritten, hotherBehind, -⟩ :=
    hother.exists_text
  exact (tree.isDetermined hwritten hotherWritten hbehind hotherBehind
    (htext.symm.trans hotherText)).1

end Assay.Json
