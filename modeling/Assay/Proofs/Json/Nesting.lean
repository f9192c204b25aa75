import Assay.Proofs.Json.Acceptance

/-! # Nesting in the text

The arrays and objects that are open at once are counted on the text, as brackets outside strings.
In a sentence of the grammar the greatest count is the depth of its tree. The limit on nesting is
applied to the value, so a text is not refused for what a repeated name replaces.
-/

namespace Assay.Json

/-! ## Counting brackets -/

/-- Where a place of a text is: outside strings, inside one, or behind a backslash inside one. -/
inductive Zone where
  | outside
  | inside
  | escaped

/-- A place of a text, and the number of brackets that are open there. -/
structure Place where
  zone : Zone
  opened : Nat

/-- The place behind a character. Brackets inside strings do not count. -/
def Place.step (place : Place) (c : Char) : Place :=
  match place.zone with
  | .outside =>
    if c = '"' then ⟨.inside, place.opened⟩
    else if c = '[' ∨ c = '{' then ⟨.outside, place.opened + 1⟩
    else if c = ']' ∨ c = '}' then ⟨.outside, place.opened - 1⟩
    else place
  | .inside =>
    if c = '"' then ⟨.outside, place.opened⟩
    else if c = '\\' then ⟨.escaped, place.opened⟩
    else place
  | .escaped => ⟨.inside, place.opened⟩

def Place.run (place : Place) (text : List Char) : Place := text.foldl Place.step place

/-- The greatest number of open brackets from a place to the end of a text. -/
def Place.peak (place : Place) : List Char → Nat
  | [] => place.opened
  | c :: rest => max place.opened ((place.step c).peak rest)

/-- The greatest number of brackets that are open at once in a text, outside strings. -/
def openPeak (text : List Char) : Nat := Place.peak ⟨.outside, 0⟩ text

theorem Place.run_append (place : Place) (left right : List Char) :
    place.run (left ++ right) = (place.run left).run right := List.foldl_append

theorem Place.opened_le_peak (place : Place) (text : List Char) :
    place.opened ≤ place.peak text := by
  cases text with
  | nil => exact le_rfl
  | cons c rest => exact Nat.le_max_left _ _

/-- The peak of a text in two parts is the higher one of the two peaks, the second taken from where
the first part ends. -/
theorem Place.peak_append (place : Place) (left right : List Char) :
    place.peak (left ++ right) = max (place.peak left) ((place.run left).peak right) := by
  induction left generalizing place with
  | nil => exact (Nat.max_eq_right (place.opened_le_peak right)).symm
  | cons c rest ih =>
      rw [List.cons_append, peak, peak, ih, Nat.max_assoc]
      rfl

/-- A part of a text that closes what it opens, with some number of brackets open at once. -/
def Spans (zone : Zone) (depth : Nat) (text : List Char) : Prop :=
  ∀ opened, Place.run ⟨zone, opened⟩ text = ⟨zone, opened⟩ ∧
    Place.peak ⟨zone, opened⟩ text = opened + depth

/-- Two spans in a row are a span, as high as the higher one. -/
theorem Spans.append {zone : Zone} {first second : Nat} {left right : List Char}
    (hleft : Spans zone first left) (hright : Spans zone second right) :
    Spans zone (max first second) (left ++ right) := by
  intro opened
  obtain ⟨hrunLeft, hpeakLeft⟩ := hleft opened
  obtain ⟨hrunRight, hpeakRight⟩ := hright opened
  constructor
  · rw [Place.run_append, hrunLeft, hrunRight]
  · rw [Place.peak_append, hrunLeft, hpeakLeft, hpeakRight]
    omega

/-- Characters that change nothing span no brackets. -/
theorem Spans.of_forall {zone : Zone} {text : List Char}
    (hsteps : ∀ c ∈ text, ∀ opened, Place.step ⟨zone, opened⟩ c = ⟨zone, opened⟩) :
    Spans zone 0 text := by
  intro opened
  induction text with
  | nil => exact ⟨rfl, rfl⟩
  | cons c rest ih =>
      obtain ⟨hc, hrest⟩ := List.forall_mem_cons.mp hsteps
      obtain ⟨hrun, hpeak⟩ := ih hrest
      rw [Place.peak, hc, hpeak]
      refine ⟨?_, Nat.max_self opened⟩
      rw [← List.singleton_append, Place.run_append]
      rwa [show Place.run ⟨zone, opened⟩ [c] = ⟨zone, opened⟩ from hc opened]

/-- Two characters around a text, the first of which opens what the second closes. -/
theorem Spans.between {outer inner : Zone} {depth extra : Nat} {text : List Char}
    {left right : Char} (hspans : Spans inner depth text)
    (hleft : ∀ opened, Place.step ⟨outer, opened⟩ left = ⟨inner, opened + extra⟩)
    (hright : ∀ opened, Place.step ⟨inner, opened + extra⟩ right = ⟨outer, opened⟩) :
    Spans outer (depth + extra) (left :: text ++ [right]) := by
  intro opened
  -- the text runs from the place behind the first character back to that place
  obtain ⟨hrun, hpeak⟩ := hspans (opened + extra)
  have hopen : Place.run ⟨outer, opened⟩ [left] = ⟨inner, opened + extra⟩ := hleft opened
  have hclose : Place.run ⟨inner, opened + extra⟩ [right] = ⟨outer, opened⟩ := hright opened
  rw [← List.singleton_append, Place.run_append, Place.run_append, hopen, hrun, Place.peak_append,
    Place.peak_append, Place.run_append, hopen, hrun, hpeak]
  refine ⟨hclose, ?_⟩
  simp only [Place.peak, hleft, hright]
  omega

theorem Spans.quoted {depth : Nat} {text : List Char} (hspans : Spans .inside depth text) :
    Spans .outside depth ('"' :: text ++ ['"']) :=
  show Spans .outside (depth + 0) _ from hspans.between (fun _ => rfl) fun _ => rfl

theorem Spans.bracketed {depth : Nat} {text : List Char} (hspans : Spans .outside depth text) :
    Spans .outside (depth + 1) ('[' :: text ++ [']']) :=
  hspans.between (fun _ => rfl) fun _ => rfl

theorem Spans.braced {depth : Nat} {text : List Char} (hspans : Spans .outside depth text) :
    Spans .outside (depth + 1) ('{' :: text ++ ['}']) :=
  hspans.between (fun _ => rfl) fun _ => rfl

/-! ## Brackets of the grammar -/

/-- A character that is neither a bracket nor a quotation mark. -/
def IsUnmarked (c : Char) : Prop := c ∉ ['"', '[', '{', ']', '}']

instance (c : Char) : Decidable (IsUnmarked c) := inferInstanceAs (Decidable (c ∉ _))

theorem Spans.unmarked {text : List Char} (hunmarked : ∀ c ∈ text, IsUnmarked c) :
    Spans .outside 0 text := by
  refine Spans.of_forall fun c hmem opened => ?_
  have hc := hunmarked c hmem
  simp only [IsUnmarked, List.mem_cons, List.not_mem_nil, or_false, not_or] at hc
  simp [Place.step, hc]

theorem AreBlanks.spans {blanks : List Char} (hblanks : AreBlanks blanks) :
    Spans .outside 0 blanks := by
  refine Spans.unmarked fun c hmem => ?_
  rcases hblanks c hmem with rfl | rfl | rfl | rfl <;> decide

theorem AreDigits.spans {digits : List Char} (hdigits : AreDigits digits) :
    Spans .outside 0 digits := by
  refine Spans.unmarked fun c hmem hmark => ?_
  have hdigit := (areDigits_iff.mp hdigits).2 c hmem
  simp only [List.mem_cons, List.not_mem_nil, or_false] at hmark
  rcases hmark with rfl | rfl | rfl | rfl | rfl <;> exact absurd hdigit (by decide)

theorem Spans.append_zero {zone : Zone} {left right : List Char} (hleft : Spans zone 0 left)
    (hright : Spans zone 0 right) : Spans zone 0 (left ++ right) := hleft.append hright

/-- A numeral opens nothing. -/
theorem Numeral.WrittenAs.spans {numeral : Numeral} {text : List Char}
    (hwritten : numeral.WrittenAs text) : Spans .outside 0 text := by
  obtain @⟨negative, whole, _, _, _, _, hwhole, hfraction, hexponent⟩ := hwritten
  refine ((Spans.append_zero ?_ ?_).append_zero ?_).append_zero ?_
  · exact Spans.unmarked (by cases negative <;> simp [minusText, IsUnmarked])
  · cases hwhole with
    | zero => exact Spans.unmarked (by simp [IsUnmarked])
    | digits _ hdigits => exact hdigits.spans
  · cases hfraction with
    | absent => exact Spans.unmarked (by simp)
    | present hdigits =>
        have hpoint : Spans .outside 0 ['.'] := Spans.unmarked (by simp [IsUnmarked])
        exact hpoint.append_zero hdigits.spans
  · cases hexponent with
    | absent => exact Spans.unmarked (by simp)
    | @present mark negative sign digits hmark hsign hdigits =>
        refine (Spans.unmarked ?_).append_zero hdigits.spans
        rcases hmark with rfl | rfl <;> cases hsign <;> simp [IsUnmarked]

theorem HexDigit.step_inside {c : Char} {digit : Nat} (hdigit : HexDigit c digit) (opened : Nat) :
    Place.step ⟨.inside, opened⟩ c = ⟨.inside, opened⟩ := by
  have hquote : c ≠ '"' := by
    rintro rfl
    cases hdigit <;> contradiction
  have hbackslash : c ≠ '\\' := by
    rintro rfl
    cases hdigit <;> contradiction
  simp [Place.step, hquote, hbackslash]

/-- The inside of a string opens nothing, for brackets count only outside. -/
theorem CodesWrittenAs.spans {codes : List Nat} {text : List Char}
    (hcodes : CodesWrittenAs codes text) : Spans .inside 0 text := by
  induction hcodes with
  | nil => exact Spans.of_forall (by simp)
  | @plain c codes text hquote hbackslash _ _ ih =>
      rw [← List.singleton_append]
      refine Spans.append_zero (Spans.of_forall ?_) ih
      simp [Place.step, hquote, hbackslash]
  | @short letter c codes text _ _ ih =>
      have hescape : Spans .inside 0 ['\\', letter] := by
        intro opened
        simp [Place.run, Place.peak, Place.step]
      exact hescape.append_zero ih
  | @numbered c₁ c₂ c₃ c₄ _ _ _ _ codes text h₁ h₂ h₃ h₄ _ ih =>
      have hescape : Spans .inside 0 ['\\', 'u'] := by
        intro opened
        simp [Place.run, Place.peak, Place.step]
      have hdigits : Spans .inside 0 [c₁, c₂, c₃, c₄] := by
        apply Spans.of_forall
        simp only [List.forall_mem_cons, List.not_mem_nil, false_imp_iff, implies_true, and_true]
        exact ⟨h₁.step_inside, h₂.step_inside, h₃.step_inside, h₄.step_inside⟩
      exact hescape.append_zero (hdigits.append_zero ih)

/-- Items in a row open what the deepest of them opens. -/
theorem Tree.ItemsWrittenAs.spans {items : List Tree} {text : List Char}
    (hspans : ∀ item ∈ items, ∀ text, item.WrittenAs text → Spans .outside item.depth text)
    (hwritten : Tree.ItemsWrittenAs items text) :
    Spans .outside (Tree.depthOfItems items) text := by
  induction items generalizing text with
  | nil => nomatch hwritten
  | cons item rest ih =>
      obtain ⟨hitem, hrest⟩ := List.forall_mem_cons.mp hspans
      rw [Tree.depthOfItems]
      cases hwritten with
      | one hbefore htext hbehind =>
          have hspan := (hbefore.spans.append (hitem _ htext)).append hbehind.spans
          simpa [Tree.depthOfItems] using hspan
      | more hbefore htext hbehind hothers =>
          have hspan := (hbefore.spans.append (hitem _ htext)).append hbehind.spans
          have hcomma : Spans .outside 0 [','] := Spans.unmarked (by simp [IsUnmarked])
          have hall := hspan.append (hcomma.append (ih hrest hothers))
          simpa using hall

theorem Tree.MemberWrittenAs.spans {name : List Nat} {value : Tree} {text : List Char}
    (hvalue : ∀ {valueText}, value.WrittenAs valueText → Spans .outside value.depth valueText)
    (hwritten : Tree.MemberWrittenAs name value text) : Spans .outside value.depth text := by
  obtain ⟨hname, hbefore, hbehind, hvalueText⟩ := hwritten
  have hcolon : Spans .outside 0 [':'] := Spans.unmarked (by simp [IsUnmarked])
  have hnameSpan := hname.spans.quoted.append_zero hbefore.spans
  have hall := (hnameSpan.append (hcolon.append hbehind.spans)).append (hvalue hvalueText)
  simpa using hall

/-- Members in a row open what the deepest of their values opens. -/
theorem Tree.MembersWrittenAs.spans {members : List (List Nat × Tree)} {text : List Char}
    (hspans : ∀ member ∈ members, ∀ text, member.2.WrittenAs text →
      Spans .outside member.2.depth text)
    (hwritten : Tree.MembersWrittenAs members text) :
    Spans .outside (Tree.depthOfMembers members) text := by
  induction members generalizing text with
  | nil => nomatch hwritten
  | cons member rest ih =>
      obtain ⟨hmember, hrest⟩ := List.forall_mem_cons.mp hspans
      rw [Tree.depthOfMembers]
      cases hwritten with
      | one hbefore htext hbehind =>
          have hspan := (hbefore.spans.append (htext.spans (hmember _))).append hbehind.spans
          simpa [Tree.depthOfMembers] using hspan
      | more hbefore htext hbehind hothers =>
          have hspan := (hbefore.spans.append (htext.spans (hmember _))).append hbehind.spans
          have hcomma : Spans .outside 0 [','] := Spans.unmarked (by simp [IsUnmarked])
          have hall := hspan.append (hcomma.append (ih hrest hothers))
          simpa using hall

/-- The brackets of a text that a tree writes are those of the tree. -/
theorem Tree.WrittenAs.spans {tree : Tree} {text : List Char} (hwritten : tree.WrittenAs text) :
    Spans .outside tree.depth text := by
  induction tree generalizing text with
  | null =>
      cases hwritten
      exact Spans.unmarked (by simp [IsUnmarked])
  | bool value =>
      cases hwritten <;> exact Spans.unmarked (by simp [IsUnmarked])
  | number numeral =>
      cases hwritten with
      | number hnumeral => exact hnumeral.spans
  | string codes =>
      cases hwritten with
      | string hcodes => exact hcodes.spans.quoted
  | array items ih =>
      cases hwritten with
      | emptyArray hblanks => exact hblanks.spans.bracketed
      | array hitems => exact (hitems.spans fun item hmem _ => ih item hmem).bracketed
  | object members ih =>
      cases hwritten with
      | emptyObject hblanks => exact hblanks.spans.braced
      | object hmembers => exact (hmembers.spans fun member hmem _ => ih member hmem).braced

/-- In a sentence the brackets open at once are the arrays and objects nested in its tree. -/
theorem Tree.IsSentence.openPeak_eq {tree : Tree} {text : List Char}
    (hsentence : tree.IsSentence text) : openPeak text = tree.depth := by
  obtain ⟨hbefore, hwritten, hbehind⟩ := hsentence
  have hspan := (hbefore.spans.append hwritten.spans).append hbehind.spans
  have hpeak := (hspan 0).2
  rw [openPeak, hpeak]
  omega

/-! ## Nested arrays -/

/-- Arrays inside each other, the innermost empty. -/
def nestedArrays : Nat → Tree
  | 0 => .array []
  | levels + 1 => .array [nestedArrays levels]

def nestedText : Nat → List Char
  | 0 => ['[', ']']
  | levels + 1 => '[' :: nestedText levels ++ [']']

theorem depth_nestedArrays (levels : Nat) : (nestedArrays levels).depth = levels + 1 := by
  induction levels with
  | zero => rfl
  | succ levels ih => rw [nestedArrays, Tree.depth, Tree.depthOfItems, ih]; rfl

theorem nestedArrays_writtenAs (levels : Nat) :
    (nestedArrays levels).WrittenAs (nestedText levels) := by
  induction levels with
  | zero => exact .emptyArray .nil
  | succ levels ih =>
      have hitems := Tree.ItemsWrittenAs.one .nil ih .nil
      rw [List.nil_append, List.append_nil] at hitems
      exact .array hitems

theorem nestedArrays_numeralsFit (levels : Nat) : (nestedArrays levels).NumeralsFit := by
  induction levels with
  | zero => exact .array (by simp)
  | succ levels ih => exact .array (by simpa using ih)

theorem nestedArrays_namesDiffer (levels : Nat) : (nestedArrays levels).NamesDiffer := by
  induction levels with
  | zero => exact .array (by simp)
  | succ levels ih => exact .array (by simpa using ih)

theorem nestedArrays_isSentence (levels : Nat) :
    (nestedArrays levels).IsSentence (nestedText levels) := by
  have hsentence := Tree.IsSentence.intro .nil (nestedArrays_writtenAs levels) .nil
  rwa [List.nil_append, List.append_nil] at hsentence

/-- An object with nested arrays in a member that the next one of the same name replaces. -/
def replacedTree (levels : Nat) : Tree :=
  .object [([0x61], nestedArrays levels), ([0x61], .number ⟨false, ['1'], none, none⟩)]

/-- The text of such an object. -/
def replacedText (levels : Nat) : String :=
  String.ofList ('{' :: ('"' :: 'a' :: '"' :: ':' :: nestedText levels ++
    ',' :: '"' :: 'a' :: '"' :: ':' :: '1' :: ['}']))

/-- The text is a sentence, with that object as its tree. -/
theorem replacedTree_isSentence (levels : Nat) :
    (replacedTree levels).IsSentence (replacedText levels).toList := by
  have hname : CodesWrittenAs ['a'.toNat] ['a'] :=
    .plain (by decide) (by decide) (by decide) .nil
  have hone : (Tree.number ⟨false, ['1'], none, none⟩).WrittenAs ['1'] :=
    .number (.intro (.digits (by decide) ⟨by simp, by simp⟩) .absent .absent)
  have hlast := Tree.MembersWrittenAs.one .nil (.intro hname .nil .nil hone) .nil
  have hmembers := Tree.MembersWrittenAs.more .nil
    (.intro hname .nil .nil (nestedArrays_writtenAs levels)) .nil hlast
  have hsentence := Tree.IsSentence.intro .nil (.object hmembers) .nil
  simpa [replacedText, replacedTree] using hsentence

/-- The arrays count as open, although the member they belong to is replaced. -/
theorem openPeak_replacedText (levels : Nat) :
    openPeak (replacedText levels).toList = levels + 2 := by
  rw [(replacedTree_isSentence levels).openPeak_eq, replacedTree, Tree.depth,
    Tree.depthOfMembers, depth_nestedArrays]
  simp [Tree.depthOfMembers, Tree.depth]

/-! ## The limit on nesting -/

theorem exists_refusal_iff {text : String} :
    (∃ refusal, parse text = .error refusal) ↔ ∀ value, parse text ≠ .ok value := by
  cases parse text with
  | ok value => simp
  | error refusal => simp

/-- Of the sentences in which no object repeats a name, none is accepted whose brackets are
nested to the limit. -/
theorem openPeak_lt_of_namesDiffer {text : String} {tree : Tree} {value : Value}
    (hsentence : tree.IsSentence text.toList) (hdiffer : tree.NamesDiffer)
    (hparse : parse text = .ok value) : openPeak text.toList < nestingLimit := by
  obtain ⟨hdenotes, -, hdepth⟩ := (parse_eq_ok_iff_of_isSentence hsentence).mp hparse
  rwa [hdenotes.depth_eq, hdiffer.keptDepth_eq, ← hsentence.openPeak_eq] at hdepth

/-- A sentence is refused exactly if it denotes nothing, if it is too deep for the reader, or if
what is kept of it is nested to the limit. So the limit holds for the brackets of a text in which
no object repeats a name. -/
theorem refused_iff_keptDepth {text : String} {tree : Tree}
    (hsentence : tree.IsSentence text.toList) :
    ((∃ refusal, parse text = .error refusal) ↔
        ¬ tree.NumeralsFit ∨ openLimit < openPeak text.toList ∨
          nestingLimit ≤ tree.keptDepth) ∧
      (tree.NamesDiffer → nestingLimit ≤ openPeak text.toList →
        ∃ refusal, parse text = .error refusal) := by
  constructor
  · rw [exists_refusal_iff, hsentence.openPeak_eq]
    constructor
    · intro hrefused
      by_contra hcauses
      obtain ⟨hfit, hopen, hkept⟩ : tree.NumeralsFit ∧ tree.depth ≤ openLimit ∧
          tree.keptDepth < nestingLimit := by
        simpa only [not_or, not_not, not_lt, not_le] using hcauses
      obtain ⟨value, hdenotes⟩ := Tree.numeralsFit_iff.mp hfit
      exact hrefused value ((parse_eq_ok_iff_of_isSentence hsentence).mpr
        ⟨hdenotes, hopen, hdenotes.depth_eq ▸ hkept⟩)
    · intro hcauses value hparse
      obtain ⟨hdenotes, hopen, hdepth⟩ := (parse_eq_ok_iff_of_isSentence hsentence).mp hparse
      rw [hdenotes.depth_eq] at hdepth
      rcases hcauses with hfit | hdeep | hkept
      · exact hfit (Tree.numeralsFit_iff.mpr ⟨value, hdenotes⟩)
      · exact absurd hopen (not_le.mpr hdeep)
      · exact absurd hdepth (not_lt.mpr hkept)
  · intro hdiffer hnested
    rw [exists_refusal_iff]
    intro value hparse
    exact absurd (openPeak_lt_of_namesDiffer hsentence hdiffer hparse) (not_lt.mpr hnested)

/-- Nested arrays below the limit are read with their depth. -/
theorem exists_parse_nestedText {levels : Nat} (hlevels : levels + 1 < nestingLimit) :
    ∃ value, parse (String.ofList (nestedText levels)) = .ok value ∧
      value.depth = levels + 1 := by
  have hsentence : (nestedArrays levels).IsSentence (String.ofList (nestedText levels)).toList := by
    rw [String.toList_ofList]
    exact nestedArrays_isSentence levels
  have hdepth := depth_nestedArrays levels
  obtain ⟨value, hdenotes⟩ := Tree.numeralsFit_iff.mp (nestedArrays_numeralsFit levels)
  refine ⟨value, parse_of_denotes hsentence hdenotes (hdepth ▸ hlevels), ?_⟩
  rw [hdenotes.depth_eq, (nestedArrays_namesDiffer levels).keptDepth_eq, hdepth]

/-- A hundred and twenty-eight arrays inside each other are refused. -/
theorem nestedText_refused :
    ∃ refusal, parse (String.ofList (nestedText 127)) = .error refusal := by
  have hsentence : (nestedArrays 127).IsSentence (String.ofList (nestedText 127)).toList := by
    rw [String.toList_ofList]
    exact nestedArrays_isSentence 127
  refine (refused_iff_keptDepth hsentence).2 (nestedArrays_namesDiffer 127) ?_
  rw [hsentence.openPeak_eq, depth_nestedArrays]
  decide

/-- What a member holds that is replaced does not count: the text is accepted with any depth that
the reader admits. -/
theorem parse_replacedText {levels : Nat} (hlevels : levels + 2 ≤ openLimit) :
    parse (replacedText levels) = .ok (.object [("a", .int 1)]) := by
  obtain ⟨value, hvalue⟩ := Tree.numeralsFit_iff.mp (nestedArrays_numeralsFit levels)
  have hname : CodesDenote [0x61] ['a'] := .single (by simp) .nil
  have hone : (Tree.number ⟨false, ['1'], none, none⟩).Denotes (.int 1) :=
    .number (.int (by decide))
  have hmembers := Tree.MembersDenote.cons hname hvalue (.cons hname hone .nil)
  have hdenotes := Tree.Denotes.object hmembers (isMerged_ofEntries _)
  have hsentence := replacedTree_isSentence levels
  refine (parse_eq_ok_iff_of_isSentence hsentence).mpr ⟨hdenotes, ?_, by decide⟩
  rwa [← hsentence.openPeak_eq, openPeak_replacedText]

/-- A document with a hundred and twenty-nine brackets open at once is accepted. -/
theorem replacedText_accepted :
    (replacedTree 127).IsSentence (replacedText 127).toList ∧
      nestingLimit ≤ openPeak (replacedText 127).toList ∧
      parse (replacedText 127) = .ok (.object [("a", .int 1)]) := by
  refine ⟨replacedTree_isSentence 127, ?_, parse_replacedText (by decide)⟩
  rw [openPeak_replacedText]
  decide

end Assay.Json
