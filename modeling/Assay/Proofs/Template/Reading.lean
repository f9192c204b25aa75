import Mathlib.Data.List.Induction
import Assay.Proofs.Table
import Assay.Proofs.Text
import Assay.Template

/-! # How a template is read

A text has one reading from left to right: where a placeholder starts it is taken, and everywhere
else a single character is. Replacing placeholders, listing their names and asking whether there is
one go by this reading, also where they return early.
-/

namespace Assay.Template

variable {bindings : Table String String} {text rest interior : List Char} {ps : List Piece}

/-! ## Placeholders -/

/-- What may stand between the braces of a placeholder. -/
structure IsInterior (interior : List Char) : Prop where
  ne_nil : interior ≠ []
  no_closing : '}' ∉ interior

/-- A placeholder stands at the start of a text. -/
def StartsPlaceholder (text : List Char) : Prop :=
  ∃ interior rest, IsInterior interior ∧ text = (Piece.placeholder interior).written ++ rest

theorem written_placeholder_append (interior rest : List Char) :
    (Piece.placeholder interior).written ++ rest =
      '{' :: '{' :: (interior ++ '}' :: '}' :: rest) := by
  simp [Piece.written]

/-- The interior of a placeholder is found, since it runs to the first closing brace. -/
theorem openPlaceholder?_eq_some_iff :
    openPlaceholder? text = some (interior, rest) ↔
      IsInterior interior ∧ text = (Piece.placeholder interior).written ++ rest := by
  constructor
  · intro hopen
    unfold openPlaceholder? at hopen
    split at hopen
    next body =>
      have hbody := List.takeWhile_append_dropWhile (p := (· ≠ '}')) (l := body)
      split at hopen
      next => simp at hopen
      next found behind hdrop hne =>
        obtain ⟨rfl, rfl⟩ := Prod.mk.inj (Option.some.inj hopen)
        refine ⟨⟨hne, fun hmem => ?_⟩, ?_⟩
        · simpa using List.all_eq_true.mp List.all_takeWhile _ hmem
        · rw [written_placeholder_append, ← hdrop, hbody]
      next => simp at hopen
    next => simp at hopen
  · rintro ⟨⟨hne, hclosing⟩, rfl⟩
    have hopen : ∀ c ∈ interior, decide (c ≠ '}') = true := by
      intro c hmem
      exact decide_eq_true fun hc => hclosing (hc ▸ hmem)
    have htake : (interior ++ '}' :: '}' :: rest).takeWhile (· ≠ '}') = interior := by
      rw [List.takeWhile_append_of_pos hopen, List.takeWhile_cons_of_neg (by decide),
        List.append_nil]
    have hdrop : (interior ++ '}' :: '}' :: rest).dropWhile (· ≠ '}') = '}' :: '}' :: rest := by
      rw [List.dropWhile_append_of_pos hopen, List.dropWhile_cons_of_neg (by decide)]
    obtain ⟨first, others, rfl⟩ := List.exists_cons_of_ne_nil hne
    rw [written_placeholder_append, openPlaceholder?, htake, hdrop]
    rfl

theorem isSome_openPlaceholder?_iff :
    (openPlaceholder? text).isSome = true ↔ StartsPlaceholder text := by
  simp only [Option.isSome_iff_exists, Prod.exists, openPlaceholder?_eq_some_iff,
    StartsPlaceholder]

theorem openPlaceholder?_eq_none_iff :
    openPlaceholder? text = none ↔ ¬ StartsPlaceholder text := by
  rw [← isSome_openPlaceholder?_iff, Bool.not_eq_true, Option.isSome_eq_false_iff,
    Option.isNone_iff_eq_none]

/-! ## The reading of a text -/

/-- A piece may stand before the rest of a text: a placeholder if its interior is one, a character
if no placeholder starts with it. -/
def Piece.FitsBefore (rest : List Char) : Piece → Prop
  | literal c => ¬ StartsPlaceholder (c :: rest)
  | placeholder interior => IsInterior interior

/-- A reading of a text from left to right: the pieces, one after the other, are the text, and
each of them may stand where it does. -/
structure IsReading (ps : List Piece) (text : List Char) : Prop where
  written : ps.flatMap Piece.written = text
  fits : ∀ before piece behind, ps = before ++ piece :: behind →
    piece.FitsBefore (behind.flatMap Piece.written)

theorem isReading_nil : IsReading [] [] where
  written := rfl
  fits := by simp

/-- A reading is a first piece that fits before the rest, and a reading of the rest. -/
theorem isReading_cons_iff {piece : Piece} :
    IsReading (piece :: ps) text ↔
      ∃ rest, text = piece.written ++ rest ∧ piece.FitsBefore rest ∧ IsReading ps rest := by
  constructor
  · rintro ⟨rfl, hfits⟩
    refine ⟨ps.flatMap Piece.written, rfl, hfits [] piece ps rfl, rfl, ?_⟩
    rintro before other behind rfl
    exact hfits (piece :: before) other behind rfl
  · rintro ⟨rest, rfl, hfirst, rfl, hfits⟩
    refine ⟨rfl, fun before other behind hps => ?_⟩
    cases before with
    | nil =>
        obtain ⟨rfl, rfl⟩ := List.cons.inj hps
        exact hfirst
    | cons first others => exact hfits others other behind (List.cons.inj hps).2

theorem pieces_nil : pieces [] = [] := by rw [pieces]

theorem pieces_cons {piece : Piece} (hfits : piece.FitsBefore rest) :
    pieces (piece.written ++ rest) = piece :: pieces rest := by
  cases piece with
  | literal c =>
      have hopen := openPlaceholder?_eq_none_iff.mpr hfits
      rw [Piece.written, List.singleton_append, pieces]
      split
      next hfound => simp [hopen] at hfound
      next => rfl
  | placeholder interior =>
      have hopen : openPlaceholder? ((Piece.placeholder interior).written ++ rest) =
          some (interior, rest) := openPlaceholder?_eq_some_iff.mpr ⟨hfits, rfl⟩
      rw [written_placeholder_append] at hopen ⊢
      rw [pieces]
      split
      next found behind hfound =>
        obtain ⟨rfl, rfl⟩ := Prod.mk.inj (Option.some.inj (hopen.symm.trans hfound))
        rfl
      next hfound => simp [hopen] at hfound

theorem pieces_of_plain {c : Char} (hplain : ¬ StartsPlaceholder (c :: rest)) :
    pieces (c :: rest) = .literal c :: pieces rest :=
  pieces_cons (show (Piece.literal c).FitsBefore rest from hplain)

theorem isReading_pieces (text : List Char) : IsReading (pieces text) text := by
  induction text using pieces.induct with
  | case1 =>
      rw [pieces_nil]
      exact isReading_nil
  | case2 c others interior rest hopen ih =>
      obtain ⟨hinterior, htext⟩ := openPlaceholder?_eq_some_iff.mp hopen
      have hfits : (Piece.placeholder interior).FitsBefore rest := hinterior
      rw [htext, pieces_cons hfits]
      exact isReading_cons_iff.mpr ⟨rest, rfl, hfits, ih⟩
  | case3 c others hopen ih =>
      have hplain := openPlaceholder?_eq_none_iff.mp hopen
      rw [pieces_of_plain hplain]
      exact isReading_cons_iff.mpr ⟨others, rfl, hplain, ih⟩

/-- There is no other reading of a text. -/
theorem IsReading.eq_pieces (hreading : IsReading ps text) : ps = pieces text := by
  induction ps generalizing text with
  | nil => rw [← hreading.written, List.flatMap_nil, pieces_nil]
  | cons piece others ih =>
      obtain ⟨rest, rfl, hfits, hothers⟩ := isReading_cons_iff.mp hreading
      rw [pieces_cons hfits, ih hothers]

/-! ## Returning early -/

theorem StartsPlaceholder.opening_infix (hstarts : StartsPlaceholder text) :
    ['{', '{'] <:+: text := by
  obtain ⟨interior, rest, -, rfl⟩ := hstarts
  rw [written_placeholder_append]
  exact ⟨[], interior ++ '}' :: '}' :: rest, rfl⟩

/-- Without opening braces there is nothing but literal text. -/
theorem pieces_of_no_opening (hopening : ¬ ['{', '{'] <:+: text) :
    pieces text = text.map .literal := by
  induction text with
  | nil => exact pieces_nil
  | cons c rest ih =>
      rw [pieces_of_plain fun hstarts => hopening hstarts.opening_infix, List.map_cons,
        ih fun hrest => hopening (List.infix_cons hrest)]

/-- A text that is returned early has no placeholder. -/
theorem pieces_of_early {text : String} (hearly : (text.isEmpty || !mayHold text) = true) :
    pieces text.toList = text.toList.map .literal := by
  apply pieces_of_no_opening
  rw [← Text.contains_iff_infix, ← mayHold]
  rcases Bool.or_eq_true_iff.mp hearly with hempty | hnone
  · rw [String.isEmpty_iff.mp hempty]
    decide
  · simpa using hnone

theorem flatMap_written_pieces (text : List Char) :
    (pieces text).flatMap Piece.written = text := (isReading_pieces text).written

theorem Piece.filled_nil (piece : Piece) : piece.filled [] = piece.written := by
  cases piece <;> rfl

/-- Returning early changes nothing. -/
theorem substitute_eq_fill (bindings : Table String String) (text : String) :
    substitute bindings text = fill bindings text := by
  unfold substitute
  split
  next hcondition =>
    rcases Bool.or_eq_true_iff.mp hcondition with hearly | hempty
    · rw [fill, pieces_of_early hearly, List.flatMap_map]
      simp [Piece.filled, Piece.name?, Piece.written]
    · rw [fill, List.isEmpty_iff.mp hempty, funext Piece.filled_nil, flatMap_written_pieces,
        String.ofList_toList]
  next => rfl

/-- The variables of a text are the names in it, without repetitions. -/
theorem findVariables_eq_eraseDups (text : String) :
    findVariables text = (names text.toList).eraseDups := by
  unfold findVariables
  split
  next hearly =>
    rw [names, pieces_of_early hearly, List.filterMap_map]
    simp [Function.comp_def, Piece.name?]
  next => rfl

/-- A placeholder starts somewhere exactly when the reading has one. -/
theorem holdsPlaceholder_iff (text : List Char) :
    holdsPlaceholder text = true ↔ ∃ interior, Piece.placeholder interior ∈ pieces text := by
  induction text using pieces.induct with
  | case1 => simp [holdsPlaceholder, pieces_nil]
  | case2 c others interior rest hopen _ =>
      obtain ⟨hinterior, htext⟩ := openPlaceholder?_eq_some_iff.mp hopen
      have hfits : (Piece.placeholder interior).FitsBefore rest := hinterior
      rw [holdsPlaceholder, hopen, htext, pieces_cons hfits]
      exact iff_of_true rfl ⟨interior, List.mem_cons_self⟩
  | case3 c others hopen ih =>
      rw [holdsPlaceholder, hopen, pieces_of_plain (openPlaceholder?_eq_none_iff.mp hopen)]
      simpa using ih

theorem hasVariables_iff (text : String) :
    hasVariables text = true ↔ ∃ interior, Piece.placeholder interior ∈ pieces text.toList := by
  rw [← holdsPlaceholder_iff, hasVariables, Bool.and_eq_true]
  refine ⟨fun hhas => hhas.2, fun hholds => ⟨?_, hholds⟩⟩
  cases hempty : text.isEmpty with
  | false => rfl
  | true =>
      rw [String.isEmpty_iff.mp hempty] at hholds
      cases hholds

theorem mem_findVariables_iff {text name : String} :
    name ∈ findVariables text ↔ ∃ piece ∈ pieces text.toList, piece.name? = some name := by
  rw [findVariables_eq_eraseDups, List.mem_eraseDups, names, List.mem_filterMap]

/-- The two questions for variables agree. -/
theorem hasVariables_iff_findVariables (text : String) :
    hasVariables text = true ↔ findVariables text ≠ [] := by
  rw [hasVariables_iff, Ne, List.eq_nil_iff_forall_not_mem, not_forall_not]
  constructor
  · rintro ⟨interior, hmem⟩
    exact ⟨nameOf interior, mem_findVariables_iff.mpr ⟨_, hmem, rfl⟩⟩
  · rintro ⟨name, hname⟩
    obtain ⟨piece, hmem, hpiece⟩ := mem_findVariables_iff.mp hname
    cases piece with
    | literal c => cases hpiece
    | placeholder interior => exact ⟨interior, hmem⟩

/-! ## First occurrences -/

/-- A list holds every item of another one once, in the order in which they first occur there. -/
structure AreFirstOccurrences {α : Type} [DecidableEq α] (firsts items : List α) : Prop where
  nodup : firsts.Nodup
  mem_iff : ∀ item, item ∈ firsts ↔ item ∈ items
  ordered : firsts.Pairwise fun left right => items.idxOf left < items.idxOf right

theorem pairwise_eraseDups {α : Type} [DecidableEq α] (items : List α) :
    items.eraseDups.Pairwise fun left right => items.idxOf left < items.idxOf right := by
  induction items using List.reverseRecOn with
  | nil => exact .nil
  | append_singleton items item ih =>
      have hindex : ∀ other ∈ items.eraseDups,
          (items ++ [item]).idxOf other = items.idxOf other := fun other hother =>
        List.idxOf_append_of_mem (List.mem_eraseDups.mp hother)
      have hold : items.eraseDups.Pairwise fun left right =>
          (items ++ [item]).idxOf left < (items ++ [item]).idxOf right :=
        ih.imp_of_mem fun hleft hright hless => by rwa [hindex _ hleft, hindex _ hright]
      rw [eraseDups_concat]
      by_cases hmem : item ∈ items
      · rwa [if_pos hmem]
      · rw [if_neg hmem, List.pairwise_append]
        refine ⟨hold, List.pairwise_singleton _ _, ?_⟩
        intro left hleft right hright
        obtain rfl := List.mem_singleton.mp hright
        rw [hindex left hleft, List.idxOf_append_of_notMem hmem]
        have hbound := List.idxOf_lt_length_of_mem (List.mem_eraseDups.mp hleft)
        omega

theorem areFirstOccurrences_eraseDups {α : Type} [DecidableEq α] (items : List α) :
    AreFirstOccurrences items.eraseDups items where
  nodup := (pairwise_eraseDups items).imp fun hless heq => by simp [heq] at hless
  mem_iff _ := List.mem_eraseDups
  ordered := pairwise_eraseDups items

/-! ## One reading for all -/

theorem nameOf_eq_iff {name : String} :
    nameOf interior = name ↔ Text.Trims interior name.toList := by
  rw [nameOf, Text.trims_iff, ← String.toList_inj, String.toList_ofList]

/-- What a piece becomes under a table. -/
inductive FilledAs (bindings : Table String String) : Piece → List Char → Prop
  | literal (c : Char) : FilledAs bindings (.literal c) [c]
  | known {interior : List Char} {name value : String}
      (hname : Text.Trims interior name.toList) (hvalue : bindings.get? name = some value) :
      FilledAs bindings (.placeholder interior) value.toList
  | unknown {interior : List Char} {name : String} (hname : Text.Trims interior name.toList)
      (habsent : name ∉ bindings.keys) :
      FilledAs bindings (.placeholder interior) (Piece.placeholder interior).written

def Piece.interior? : Piece → Option (List Char)
  | literal _ => none
  | placeholder interior => some interior

theorem filterMap_name? (ps : List Piece) :
    ps.filterMap Piece.name? = (ps.filterMap Piece.interior?).map nameOf := by
  rw [List.map_filterMap]
  congr
  funext piece
  cases piece <;> rfl

theorem filledAs_filled (bindings : Table String String) (piece : Piece) :
    FilledAs bindings piece (piece.filled bindings) := by
  cases piece with
  | literal c => exact .literal c
  | placeholder interior =>
      rw [Piece.filled, Piece.name?, Option.bind_some]
      have hname : Text.Trims interior (nameOf interior).toList := nameOf_eq_iff.mp rfl
      cases hvalue : bindings.get? (nameOf interior) with
      | some value => exact .known hname hvalue
      | none => exact .unknown hname (Table.get?_eq_none_iff.mp hvalue)

/-- A text has exactly one reading, and all functions on templates go by it. The name of a
placeholder is what stands in it, without the blanks at the two ends. -/
theorem templates_share_one_reading (text : String) :
    ∃ ps, IsReading ps text.toList ∧ (∀ others, IsReading others text.toList → others = ps) ∧
      (∀ bindings, ∃ parts, List.Forall₂ (FilledAs bindings) ps parts ∧
        (substitute bindings text).toList = parts.flatten) ∧
      (∃ names, List.Forall₂ (fun interior name => Text.Trims interior name.toList)
          (ps.filterMap Piece.interior?) names ∧
        AreFirstOccurrences (findVariables text) names) ∧
      (hasVariables text = true ↔ findVariables text ≠ []) := by
  refine ⟨pieces text.toList, isReading_pieces _, fun others hreading => hreading.eq_pieces,
    fun bindings => ⟨(pieces text.toList).map (Piece.filled bindings), ?_, ?_⟩, ?_, ?_⟩
  · rw [List.forall₂_map_right_iff, List.forall₂_same]
    exact fun piece _ => filledAs_filled bindings piece
  · rw [substitute_eq_fill, fill, String.toList_ofList, List.flatMap]
  · refine ⟨names text.toList, ?_, ?_⟩
    · rw [names, filterMap_name?, List.forall₂_map_right_iff, List.forall₂_same]
      exact fun interior _ => nameOf_eq_iff.mp rfl
    · rw [findVariables_eq_eraseDups]
      exact areFirstOccurrences_eraseDups _
  · exact hasVariables_iff_findVariables text

end Assay.Template
