import Assay.Proofs.Template.Reading

/-! # What a replacement leaves

A value that is not empty and has no brace can neither open nor close a placeholder, and it keeps
the braces around it apart. So the placeholders of a filled text are those of the text that have no
value, in their order, and filling it again changes nothing.
-/

namespace Assay.Template

variable {bindings : Table String String} {ps : List Piece} {text : List Char}

/-- A value that is not empty and has no brace. -/
structure IsInert (value : String) : Prop where
  ne_empty : value ≠ ""
  no_opening : '{' ∉ value.toList
  no_closing : '}' ∉ value.toList

/-- All values of a table are inert. -/
def AreInert (bindings : Table String String) : Prop := ∀ entry ∈ bindings, IsInert entry.2

/-- The pieces that come in the place of a piece: the characters of its value if it has one. -/
def Piece.settled (bindings : Table String String) (piece : Piece) : List Piece :=
  match piece.name?.bind bindings.get? with
  | some value => value.toList.map .literal
  | none => [piece]

@[simp] theorem filled_literal (bindings : Table String String) (c : Char) :
    (Piece.literal c).filled bindings = [c] := rfl

@[simp] theorem settled_literal (bindings : Table String String) (c : Char) :
    (Piece.literal c).settled bindings = [.literal c] := rfl

/-- A placeholder has a value, or it stays. -/
theorem placeholder_cases (hinert : AreInert bindings) (interior : List Char) :
    (∃ value, IsInert value ∧ nameOf interior ∈ bindings.keys ∧
      (Piece.placeholder interior).filled bindings = value.toList ∧
      (Piece.placeholder interior).settled bindings = value.toList.map .literal) ∨
    nameOf interior ∉ bindings.keys ∧
      (Piece.placeholder interior).filled bindings = (Piece.placeholder interior).written ∧
      (Piece.placeholder interior).settled bindings = [.placeholder interior] := by
  simp only [Piece.filled, Piece.settled, Piece.name?, Option.bind_some]
  cases hvalue : bindings.get? (nameOf interior) with
  | none => exact Or.inr ⟨Table.get?_eq_none_iff.mp hvalue, rfl, rfl⟩
  | some value =>
      have hmem := Table.exists_get?_iff.mp ⟨value, hvalue⟩
      exact Or.inl ⟨value, hinert _ (Table.mem_of_get?_eq_some hvalue), hmem, rfl, rfl⟩

/-! ## No new placeholder -/

/-- What comes in the place of a placeholder starts with something else than a closing brace. -/
theorem exists_head_filled (hinert : AreInert bindings) (interior : List Char) :
    ∃ c behind, (Piece.placeholder interior).filled bindings = c :: behind ∧ c ≠ '}' := by
  obtain ⟨value, hvalue, -, hfilled, -⟩ | ⟨-, hfilled, -⟩ := placeholder_cases hinert interior
  · have hne : value.toList ≠ [] := by simpa using hvalue.ne_empty
    obtain ⟨c, behind, hhead⟩ := List.exists_cons_of_ne_nil hne
    refine ⟨c, behind, hfilled.trans hhead, ?_⟩
    rintro rfl
    exact hvalue.no_closing (hhead ▸ List.mem_cons_self)
  · exact ⟨'{', _, hfilled, by decide⟩

/-- A closing brace at the start of a filled text was there before. -/
theorem exists_closing_of_filled (hinert : AreInert bindings) (hreading : IsReading ps text)
    {rest : List Char} (hfilled : ps.flatMap (Piece.filled bindings) = '}' :: rest) :
    ∃ behind, text = '}' :: behind := by
  cases ps with
  | nil => cases hfilled
  | cons piece others =>
      obtain ⟨behind, rfl, -, -⟩ := isReading_cons_iff.mp hreading
      rw [List.flatMap_cons] at hfilled
      cases piece with
      | literal c =>
          obtain ⟨rfl, -⟩ := List.cons.inj hfilled
          exact ⟨behind, rfl⟩
      | placeholder interior =>
          obtain ⟨c, after, hhead, hclosing⟩ := exists_head_filled hinert interior
          rw [hhead] at hfilled
          exact absurd (List.cons.inj hfilled).1 hclosing

/-- If the first closing brace of a filled text is followed by another one, so it was before. -/
theorem exists_closings_of_filled (hinert : AreInert bindings) (hreading : IsReading ps text)
    {body rest : List Char} (hbody : '}' ∉ body)
    (hfilled : ps.flatMap (Piece.filled bindings) = body ++ '}' :: '}' :: rest) :
    ∃ before behind, text = before ++ '}' :: '}' :: behind ∧ '}' ∉ before ∧
      (before = [] → body = []) := by
  induction ps generalizing body text with
  | nil => simp at hfilled
  | cons piece others ih =>
      obtain ⟨text, rfl, hfits, hothers⟩ := isReading_cons_iff.mp hreading
      rw [List.flatMap_cons] at hfilled
      cases piece with
      | literal c =>
          cases body with
          | nil =>
              obtain ⟨rfl, hrest⟩ := List.cons.inj hfilled
              obtain ⟨behind, rfl⟩ := exists_closing_of_filled hinert hothers hrest
              exact ⟨[], behind, rfl, by simp, fun _ => rfl⟩
          | cons d body =>
              obtain ⟨rfl, hrest⟩ := List.cons.inj hfilled
              rw [List.mem_cons, not_or] at hbody
              obtain ⟨before, behind, rfl, hbefore, -⟩ := ih hothers hbody.2 hrest
              refine ⟨c :: before, behind, rfl, ?_, by simp⟩
              exact List.not_mem_cons_of_ne_of_not_mem hbody.1 hbefore
      | placeholder interior =>
          -- the placeholder was closed before, whatever comes in its place
          have hclosing := IsInterior.no_closing hfits
          refine ⟨'{' :: '{' :: interior, text, ?_, by simpa using hclosing, by simp⟩
          exact written_placeholder_append interior text

/-- A character with which no placeholder starts in a text starts none in the filled text. -/
theorem startsPlaceholder_of_filled (hinert : AreInert bindings) (hreading : IsReading ps text)
    {c : Char} (hstarts : StartsPlaceholder (c :: ps.flatMap (Piece.filled bindings))) :
    StartsPlaceholder (c :: text) := by
  obtain ⟨body, rest, hbody, hfilled⟩ := hstarts
  rw [written_placeholder_append] at hfilled
  obtain ⟨rfl, hbehind⟩ := List.cons.inj hfilled
  cases ps with
  | nil => cases hbehind
  | cons piece others =>
      obtain ⟨text, rfl, hfits, hothers⟩ := isReading_cons_iff.mp hreading
      rw [List.flatMap_cons] at hbehind
      cases piece with
      | literal d =>
          obtain ⟨rfl, hrest⟩ := List.cons.inj hbehind
          obtain ⟨before, behind, rfl, hbefore, hempty⟩ :=
            exists_closings_of_filled hinert hothers hbody.no_closing hrest
          refine ⟨before, behind, ⟨mt hempty hbody.ne_nil, hbefore⟩, ?_⟩
          exact (written_placeholder_append before behind).symm
      | placeholder interior =>
          -- an opening brace before a placeholder would have been taken into it
          have hclosing := IsInterior.no_closing hfits
          refine ⟨'{' :: interior, text, ⟨by simp, by simpa using hclosing⟩, ?_⟩
          rw [written_placeholder_append, written_placeholder_append]
          rfl

/-! ## The reading of a filled text -/

/-- Text without opening braces can be put before a reading as literals. -/
theorem IsReading.literals_append {value : List Char} (hvalue : '{' ∉ value)
    (hreading : IsReading ps text) : IsReading (value.map .literal ++ ps) (value ++ text) := by
  induction value with
  | nil => exact hreading
  | cons c rest ih =>
      rw [List.mem_cons, not_or] at hvalue
      refine isReading_cons_iff.mpr ⟨rest ++ text, rfl, ?_, ih hvalue.2⟩
      rintro ⟨interior, behind, -, hstarts⟩
      exact hvalue.1 (List.cons.inj hstarts).1.symm

/-- The reading of a filled text has the characters of values, and all else as it was. -/
theorem IsReading.settled (hinert : AreInert bindings) (hreading : IsReading ps text) :
    IsReading (ps.flatMap (Piece.settled bindings)) (ps.flatMap (Piece.filled bindings)) := by
  induction ps generalizing text with
  | nil => exact isReading_nil
  | cons piece others ih =>
      obtain ⟨rest, -, hfits, hothers⟩ := isReading_cons_iff.mp hreading
      rw [List.flatMap_cons, List.flatMap_cons]
      cases piece with
      | literal c =>
          refine isReading_cons_iff.mpr ⟨_, rfl, fun hstarts => hfits ?_, ih hothers⟩
          exact startsPlaceholder_of_filled hinert hothers hstarts
      | placeholder interior =>
          obtain ⟨value, hvalue, -, hfilled, hsettled⟩ | ⟨-, hfilled, hsettled⟩ :=
            placeholder_cases hinert interior
          · rw [hfilled, hsettled]
            exact (ih hothers).literals_append hvalue.no_opening
          · rw [hfilled, hsettled]
            exact isReading_cons_iff.mpr ⟨_, rfl, hfits, ih hothers⟩

/-- Values without braces settle the pieces they replace, and make no new ones. -/
theorem pieces_substitute (hinert : AreInert bindings) (text : String) :
    pieces (substitute bindings text).toList =
      (pieces text.toList).flatMap (Piece.settled bindings) := by
  rw [substitute_eq_fill, fill, String.toList_ofList]
  exact ((isReading_pieces text.toList).settled hinert).eq_pieces.symm

/-! ## Names -/

theorem filter_eraseDups {α : Type} [DecidableEq α] (keep : α → Bool) (items : List α) :
    (items.filter keep).eraseDups = items.eraseDups.filter keep := by
  induction items using List.reverseRecOn with
  | nil => rfl
  | append_singleton items item ih =>
      rw [List.filter_append, eraseDups_concat]
      by_cases hkeep : keep item = true
      · rw [List.filter_cons_of_pos hkeep, List.filter_nil, eraseDups_concat, ih]
        by_cases hmem : item ∈ items <;> simp [hmem, hkeep]
      · rw [List.filter_cons_of_neg hkeep, List.filter_nil, List.append_nil, ih]
        by_cases hmem : item ∈ items <;> simp [hmem, hkeep]

/-- The names that remain are those without a value. -/
theorem names_settled (hinert : AreInert bindings) (ps : List Piece) :
    (ps.flatMap (Piece.settled bindings)).filterMap Piece.name? =
      (ps.filterMap Piece.name?).filter fun name => name ∉ bindings.keys := by
  induction ps with
  | nil => rfl
  | cons piece others ih =>
      rw [List.flatMap_cons, List.filterMap_append, ih]
      cases piece with
      | literal c => rfl
      | placeholder interior =>
          have hnames : (Piece.placeholder interior :: others).filterMap Piece.name? =
              nameOf interior :: others.filterMap Piece.name? := rfl
          rw [hnames]
          obtain ⟨value, -, hname, -, hsettled⟩ | ⟨hname, -, hsettled⟩ :=
            placeholder_cases hinert interior
          · rw [hsettled, List.filter_cons_of_neg (by simpa using hname), List.filterMap_map]
            simp [Function.comp_def, Piece.name?]
          · rw [hsettled, List.filter_cons_of_pos (by simpa using hname)]
            rfl

theorem findVariables_substitute (hinert : AreInert bindings) (text : String) :
    findVariables (substitute bindings text) =
      (findVariables text).filter fun name => name ∉ bindings.keys := by
  rw [findVariables_eq_eraseDups, findVariables_eq_eraseDups, names, names,
    pieces_substitute hinert, names_settled hinert, filter_eraseDups]

theorem filled_settled (hinert : AreInert bindings) (piece : Piece) :
    (piece.settled bindings).flatMap (Piece.filled bindings) = piece.filled bindings := by
  cases piece with
  | literal c => rfl
  | placeholder interior =>
      obtain ⟨value, -, -, hfilled, hsettled⟩ | ⟨-, -, hsettled⟩ :=
        placeholder_cases hinert interior
      · rw [hsettled, hfilled, List.flatMap_map]
        simp
      · rw [hsettled, List.flatMap_singleton]

theorem substitute_substitute (hinert : AreInert bindings) (text : String) :
    substitute bindings (substitute bindings text) = substitute bindings text := by
  rw [substitute_eq_fill bindings (substitute bindings text), fill, pieces_substitute hinert,
    List.flatMap_assoc, substitute_eq_fill, fill, funext (filled_settled hinert)]

/-- Values that are not empty and have no brace leave the placeholders without a value and make no
new ones. So no placeholder is left where every name has a value, and a second replacement changes
nothing. -/
theorem replacing_creates_no_placeholder (hinert : AreInert bindings) (text : String) :
    findVariables (substitute bindings text) =
        (findVariables text).filter (fun name => name ∉ bindings.keys) ∧
      ((∀ name ∈ findVariables text, name ∈ bindings.keys) →
        findVariables (substitute bindings text) = [] ∧
          hasVariables (substitute bindings text) = false) ∧
      substitute bindings (substitute bindings text) = substitute bindings text := by
  have hleft := findVariables_substitute hinert text
  refine ⟨hleft, fun hcovered => ?_, substitute_substitute hinert text⟩
  have hnone : findVariables (substitute bindings text) = [] := by
    rw [hleft, List.filter_eq_nil_iff]
    exact fun name hname => by simpa using hcovered name hname
  refine ⟨hnone, ?_⟩
  rw [← Bool.not_eq_true, hasVariables_iff_findVariables]
  exact not_not_intro hnone

/-- The law at a text with stray braces on both sides of a placeholder that has a value. -/
theorem replacing_between_braces_creates_none :
    AreInert [("a", "1")] ∧
      (∀ name ∈ findVariables "\x7b\x7bx\x7d\x7b\x7b a \x7d\x7d\x7d",
        name ∈ Table.keys [("a", "1")]) ∧
      findVariables (substitute [("a", "1")] "\x7b\x7bx\x7d\x7b\x7b a \x7d\x7d\x7d") = [] ∧
      substitute [("a", "1")]
          (substitute [("a", "1")] "\x7b\x7bx\x7d\x7b\x7b a \x7d\x7d\x7d") =
        substitute [("a", "1")] "\x7b\x7bx\x7d\x7b\x7b a \x7d\x7d\x7d" := by
  have hinert : AreInert [("a", "1")] := by
    intro entry hentry
    obtain rfl := List.mem_singleton.mp hentry
    exact ⟨by decide, by decide, by decide⟩
  have hcovered : ∀ name ∈ findVariables "\x7b\x7bx\x7d\x7b\x7b a \x7d\x7d\x7d",
      name ∈ Table.keys [("a", "1")] := by decide +kernel
  obtain ⟨-, hnone, hagain⟩ := replacing_creates_no_placeholder hinert
    "\x7b\x7bx\x7d\x7b\x7b a \x7d\x7d\x7d"
  exact ⟨hinert, hcovered, (hnone hcovered).1, hagain⟩

-- an empty value lets the braces on both sides of it meet
example : findVariables (substitute [("a", "")] "\x7b\x7bx\x7d\x7b\x7b a \x7d\x7d\x7d") =
    ["x"] := by decide +kernel

end Assay.Template
