import Mathlib.Data.List.TakeWhile
import Assay.Text.Basic

/-! # Cutting and trimming

A text is cut at the first occurrence of a separator, and trimmed of the blanks at its two ends and
of nothing else.
-/

namespace Assay.Text

variable {separator : Char} {text core before behind : List Char}

/-! ## Cutting -/

theorem cutAt_eq_none_iff : cutAt separator text = none ↔ separator ∉ text := by
  induction text with
  | nil => simp [cutAt]
  | cons c rest ih =>
      rw [cutAt]
      by_cases hc : c = separator
      · simp [hc]
      · simp [hc, Ne.symm hc, ih]

/-- A text is cut at its first separator. -/
theorem cutAt_eq_some_iff :
    cutAt separator text = some (before, behind) ↔
      text = before ++ separator :: behind ∧ separator ∉ before := by
  induction text generalizing before with
  | nil => simp [cutAt]
  | cons c rest ih =>
      rw [cutAt]
      by_cases hc : c = separator
      · rw [if_pos hc]
        constructor
        · intro hcut
          obtain ⟨rfl, rfl⟩ := Prod.mk.inj (Option.some.inj hcut)
          exact ⟨by rw [hc, List.nil_append], List.not_mem_nil⟩
        · rintro ⟨htext, hbefore⟩
          cases before with
          | nil => rw [(List.cons.inj htext).2]
          | cons first others =>
              have hfirst := (List.cons.inj htext).1
              exact absurd (hc ▸ hfirst ▸ List.mem_cons_self) hbefore
      · rw [if_neg hc]
        constructor
        · intro hcut
          obtain ⟨⟨others, later⟩, hrest, heq⟩ := Option.map_eq_some_iff.mp hcut
          obtain ⟨rfl, rfl⟩ := Prod.mk.inj heq
          obtain ⟨rfl, hothers⟩ := ih.mp hrest
          exact ⟨rfl, List.not_mem_cons_of_ne_of_not_mem (Ne.symm hc) hothers⟩
        · rintro ⟨htext, hbefore⟩
          cases before with
          | nil => exact absurd (List.cons.inj htext).1 hc
          | cons first others =>
              obtain ⟨rfl, rfl⟩ := List.cons.inj htext
              rw [ih.mpr ⟨rfl, fun hmem => hbefore (List.mem_cons_of_mem _ hmem)⟩, Option.map_some]

/-! ## Trimming -/

/-- Nothing is left of a text without its outer blanks exactly if it is blank. -/
theorem trim_eq_nil_iff : trim text = [] ↔ ∀ c ∈ text, isBlank c = true := by
  unfold trim
  rw [List.reverse_eq_nil_iff, List.dropWhile_eq_nil_iff]
  simp only [List.mem_reverse]
  constructor
  · intro hrest c hmem
    rw [← List.takeWhile_append_dropWhile (p := isBlank) (l := text), List.mem_append] at hmem
    exact hmem.elim List.mem_takeWhile_imp (hrest c)
  · intro hblank c hmem
    exact hblank c ((List.dropWhile_sublist _).mem hmem)

/-- A text is another one between blanks, and that other one neither starts nor ends with a
blank. -/
structure Trims (text core : List Char) : Prop where
  between : ∃ front back, text = front ++ core ++ back ∧
    (∀ c ∈ front, isBlank c = true) ∧ ∀ c ∈ back, isBlank c = true
  starts : ∀ c ∈ core.head?, isBlank c = false
  ends : ∀ c ∈ core.getLast?, isBlank c = false

theorem dropWhile_eq_self {holds : Char → Bool} (hfirst : ∀ c ∈ text.head?, holds c = false) :
    text.dropWhile holds = text := by
  cases text with
  | nil => rfl
  | cons c rest => rw [List.dropWhile_cons_of_neg (by simp [hfirst c rfl])]

theorem isBlank_of_head?_dropWhile {c : Char} (hfirst : c ∈ (text.dropWhile isBlank).head?) :
    isBlank c = false := by
  have hstop := List.head?_dropWhile_not isBlank text
  rwa [Option.mem_def.mp hfirst] at hstop

theorem trims_trim (text : List Char) : Trims text (trim text) := by
  have hfront := List.takeWhile_append_dropWhile (p := isBlank) (l := text)
  have hback : trim text ++ ((text.dropWhile isBlank).reverse.takeWhile isBlank).reverse =
      text.dropWhile isBlank := by
    rw [trim, ← List.reverse_append, List.takeWhile_append_dropWhile, List.reverse_reverse]
  constructor
  · refine ⟨text.takeWhile isBlank, ((text.dropWhile isBlank).reverse.takeWhile isBlank).reverse,
      ?_, fun c => List.mem_takeWhile_imp, fun c hmem => ?_⟩
    · rw [List.append_assoc, hback, hfront]
    · exact List.mem_takeWhile_imp (List.mem_reverse.mp hmem)
  · intro c hfirst
    have hdropped : c ∈ (text.dropWhile isBlank).head? := by
      rw [← hback, List.head?_append, Option.mem_def.mp hfirst]
      rfl
    exact isBlank_of_head?_dropWhile hdropped
  · intro c hlast
    rw [trim, List.getLast?_reverse] at hlast
    exact isBlank_of_head?_dropWhile hlast

/-- Trimming takes the blanks at the two ends away and nothing else. -/
theorem trims_iff : Trims text core ↔ trim text = core := by
  constructor
  · rintro ⟨⟨front, back, rfl, hfront, hback⟩, hstarts, hends⟩
    by_cases hcore : core = []
    · subst hcore
      rw [List.append_nil, trim_eq_nil_iff]
      exact List.forall_mem_append.mpr ⟨hfront, hback⟩
    · have hdrop : (front ++ core ++ back).dropWhile isBlank = core ++ back := by
        rw [List.append_assoc, List.dropWhile_append_of_pos hfront]
        apply dropWhile_eq_self
        rwa [List.head?_append, Option.or_of_isSome (List.isSome_head?.mpr hcore)]
      have hreverse : (core ++ back).reverse.dropWhile isBlank = core.reverse := by
        rw [List.reverse_append, List.dropWhile_append_of_pos fun c hmem =>
          hback c (List.mem_reverse.mp hmem)]
        apply dropWhile_eq_self
        rwa [List.head?_reverse]
      rw [trim, hdrop, hreverse, List.reverse_reverse]
  · rintro rfl
    exact trims_trim text

end Assay.Text
