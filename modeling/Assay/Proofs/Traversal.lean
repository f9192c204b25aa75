import Mathlib.Data.List.Forall2

/-! # Lists read item by item

A list is read when each of its items is, and then the results stand in the order of the items. It
is not read because of the first of its items that is not.
-/

namespace Assay

variable {α β ε : Type}

/-! ## One result after another -/

section

variable {result : Except ε α} {image : β} {failure : ε}

theorem map_eq_ok_iff {content : α → β} :
    result.map content = .ok image ↔ ∃ value, result = .ok value ∧ content value = image := by
  cases result <;> simp [Except.map]

theorem map_eq_error_iff {content : α → β} :
    result.map content = .error failure ↔ result = .error failure := by
  cases result <;> simp [Except.map]

theorem bind_eq_ok_iff {next : α → Except ε β} :
    result >>= next = .ok image ↔ ∃ value, result = .ok value ∧ next value = .ok image := by
  cases result <;> simp [bind, Except.bind]

theorem bind_eq_error_iff {next : α → Except ε β} :
    result >>= next = .error failure ↔
      result = .error failure ∨ ∃ value, result = .ok value ∧ next value = .error failure := by
  cases result <;> simp [bind, Except.bind]

end

/-! ## Lists -/

theorem mapM_eq_some_iff {read : α → Option β} {items : List α} {results : List β} :
    items.mapM read = some results ↔
      List.Forall₂ (fun item result => read item = some result) items results := by
  induction items generalizing results with
  | nil => simp [eq_comm]
  | cons item rest ih =>
      rw [List.mapM_cons, List.forall₂_cons_left_iff]
      simp only [Option.bind_eq_bind, Option.bind_eq_some_iff, Option.pure_def, Option.some.injEq]
      constructor
      · rintro ⟨result, hresult, others, hothers, rfl⟩
        exact ⟨result, others, hresult, ih.mp hothers, rfl⟩
      · rintro ⟨result, others, hresult, hothers, rfl⟩
        exact ⟨result, hresult, others, ih.mpr hothers, rfl⟩

/-- A traversal with errors succeeds when it does so item by item. -/
theorem mapM_eq_ok_iff {read : α → Except ε β} {items : List α} {results : List β} :
    items.mapM read = .ok results ↔
      List.Forall₂ (fun item result => read item = .ok result) items results := by
  induction items generalizing results with
  | nil => simp [pure, Except.pure, eq_comm]
  | cons item rest ih =>
      rw [List.mapM_cons, List.forall₂_cons_left_iff]
      simp only [bind_eq_ok_iff]
      constructor
      · rintro ⟨result, hresult, others, hothers, hresults⟩
        exact ⟨result, others, hresult, ih.mp hothers, (Except.ok.inj hresults).symm⟩
      · rintro ⟨result, others, hresult, hothers, rfl⟩
        exact ⟨result, hresult, others, ih.mpr hothers, rfl⟩

/-- A list is read when each of its items is known to be. -/
theorem mapM_eq_ok_map {read : α → Except ε β} {result : α → β} {items : List α}
    (hread : ∀ item ∈ items, read item = .ok (result item)) :
    items.mapM read = .ok (items.map result) := by
  rw [mapM_eq_ok_iff, List.forall₂_map_right_iff, List.forall₂_same]
  exact hread

/-- A list is not read because of the first of its items that is not. -/
theorem mapM_eq_error_iff {read : α → Except ε β} {items : List α} {failure : ε} :
    items.mapM read = .error failure ↔ ∃ before item behind, items = before ++ item :: behind ∧
      (∀ earlier ∈ before, ∃ result, read earlier = .ok result) ∧ read item = .error failure := by
  constructor
  · intro hread
    induction items with
    | nil => simp [pure, Except.pure] at hread
    | cons item rest ih =>
        simp only [List.mapM_cons, bind_eq_error_iff] at hread
        rcases hread with hitem | ⟨result, hitem, hrest | ⟨others, -, ⟨⟩⟩⟩
        · exact ⟨[], item, rest, rfl, by simp, hitem⟩
        · obtain ⟨before, found, behind, rfl, hbefore, hfailure⟩ := ih hrest
          exact ⟨item :: before, found, behind, rfl,
            List.forall_mem_cons.mpr ⟨⟨result, hitem⟩, hbefore⟩, hfailure⟩
  · rintro ⟨before, item, behind, rfl, hbefore, hfailure⟩
    induction before with
    | nil =>
        rw [List.nil_append, List.mapM_cons, hfailure]
        rfl
    | cons first others ih =>
        obtain ⟨⟨result, hresult⟩, hothers⟩ := List.forall_mem_cons.mp hbefore
        rw [List.cons_append, List.mapM_cons, hresult, ih hothers]
        rfl

/-- A list that is not read has an item that is not. -/
theorem exists_of_mapM_eq_error {read : α → Except ε β} {items : List α} {failure : ε}
    (hread : items.mapM read = .error failure) :
    ∃ item ∈ items, read item = .error failure := by
  obtain ⟨before, item, behind, rfl, -, hfailure⟩ := mapM_eq_error_iff.mp hread
  exact ⟨item, by simp, hfailure⟩

/-- In a list that gives each item back for its tag, an item is found exactly by its tag. -/
theorem find?_tag_eq_some_iff {items : List α} {tag : α → String}
    (hfound : ∀ item, items.find? (fun other => tag other = tag item) = some item)
    {name : String} {item : α} :
    items.find? (fun other => tag other = name) = some item ↔ tag item = name := by
  constructor
  · intro hitem
    have htag := List.find?_some hitem
    exact of_decide_eq_true htag
  · rintro rfl
    exact hfound item

/-- A list has related results exactly when each of its items has one. -/
theorem exists_forall₂_iff {related : α → β → Prop} {items : List α} :
    (∃ results, List.Forall₂ related items results) ↔
      ∀ item ∈ items, ∃ result, related item result := by
  induction items with
  | nil => exact ⟨fun _ => by simp, fun _ => ⟨[], .nil⟩⟩
  | cons item rest ih =>
      rw [List.forall_mem_cons, ← ih]
      constructor
      · rintro ⟨_, hresult | ⟨hresult, hothers⟩⟩
        exact ⟨⟨_, hresult⟩, _, hothers⟩
      · rintro ⟨⟨result, hresult⟩, others, hothers⟩
        exact ⟨result :: others, .cons hresult hothers⟩

/-- Each result of a list is that of one of its items. -/
theorem exists_of_mem_results {related : α → β → Prop} {items : List α} {results : List β}
    (hrelated : List.Forall₂ related items results) {result : β} (hresult : result ∈ results) :
    ∃ item ∈ items, related item result := by
  induction hrelated with
  | nil => cases hresult
  | @cons item first rest others hfirst _ ih =>
      obtain rfl | hresult := List.mem_cons.mp hresult
      · exact ⟨item, by simp, hfirst⟩
      · obtain ⟨found, hfound, hitem⟩ := ih hresult
        exact ⟨found, by simp [hfound], hitem⟩

/-- A relation that follows for each item of a list holds between the list and its results. -/
theorem forall₂_imp_of_mem {related other : α → β → Prop} {items : List α} {results : List β}
    (himp : ∀ item ∈ items, ∀ result, related item result → other item result)
    (hrelated : List.Forall₂ related items results) : List.Forall₂ other items results := by
  induction hrelated with
  | nil => exact .nil
  | cons hresult _ ih =>
      obtain ⟨hitem, hrest⟩ := List.forall_mem_cons.mp himp
      exact .cons (hitem _ hresult) (ih hrest)

/-- What holds of all results of a list can be added to the relation between items and results. -/
theorem forall₂_and_of_mem_results {related : α → β → Prop} {holds : β → Prop} {items : List α}
    {results : List β} (hresults : ∀ result ∈ results, holds result)
    (hrelated : List.Forall₂ related items results) :
    List.Forall₂ (fun item result => related item result ∧ holds result) items results := by
  induction hrelated with
  | nil => exact .nil
  | cons hresult _ ih =>
      obtain ⟨hfirst, hrest⟩ := List.forall_mem_cons.mp hresults
      exact .cons ⟨hresult, hfirst⟩ (ih hrest)

/-- Two things that may be missing are related if both are missing, or if what is there is. -/
theorem optionRel_iff {related : α → β → Prop} {left : Option α} {right : Option β} :
    Option.Rel related left right ↔
      left = none ∧ right = none ∨
        ∃ item result, left = some item ∧ right = some result ∧ related item result := by
  constructor
  · rintro (hrelated | _)
    · exact Or.inr ⟨_, _, rfl, rfl, hrelated⟩
    · exact Or.inl ⟨rfl, rfl⟩
  · rintro (⟨rfl, rfl⟩ | ⟨item, result, rfl, rfl, hrelated⟩)
    · exact .none
    · exact .some hrelated

/-- A relation that can be turned around for what is there can be turned around. -/
theorem optionRel_swap {related : α → β → Prop} {other : β → α → Prop} {left : Option α}
    {right : Option β} (hswap : ∀ item result, left = some item → right = some result →
      related item result → other result item)
    (hrelated : Option.Rel related left right) : Option.Rel other right left := by
  cases hrelated with
  | none => exact .none
  | some hitem => exact .some (hswap _ _ rfl rfl hitem)

/-- Relations that can be composed for what is there can be composed. -/
theorem optionRel_compose {γ : Type} {first : α → β → Prop} {second : β → γ → Prop}
    {both : α → γ → Prop} {left : Option α} {middle : Option β} {right : Option γ}
    (hboth : ∀ item result last, left = some item → middle = some result → right = some last →
      first item result → second result last → both item last)
    (hfirst : Option.Rel first left middle) (hsecond : Option.Rel second middle right) :
    Option.Rel both left right := by
  cases hfirst with
  | none =>
      cases hsecond
      exact .none
  | some hitem =>
      cases hsecond with
      | some hresult => exact .some (hboth _ _ _ rfl rfl rfl hitem hresult)

/-- Related lists have related entries at every place. -/
theorem rel_getElem?_of_forall₂ {related : α → β → Prop} {items : List α} {results : List β}
    (hrelated : List.Forall₂ related items results) (index : Nat) :
    Option.Rel related items[index]? results[index]? := by
  induction hrelated generalizing index with
  | nil => exact .none
  | cons hresult _ ih =>
      cases index with
      | zero => exact .some hresult
      | succ index => exact ih index

/-- What is read from every item of a list is what its results have. -/
theorem filterMap_eq_of_forall₂ {γ : Type} {related : α → β → Prop} {items : List α}
    {results : List β} {read : α → Option γ} {content : β → γ}
    (hrelated : List.Forall₂ related items results)
    (himp : ∀ item result, related item result → read item = some (content result)) :
    items.filterMap read = results.map content := by
  induction hrelated with
  | nil => rfl
  | cons hresult _ ih => rw [List.filterMap_cons_some (himp _ _ hresult), List.map_cons, ih]

/-- What is related to the results of a list is related to its items. -/
theorem forall₂_compose {γ : Type} {first : α → β → Prop} {second : β → γ → Prop}
    {both : α → γ → Prop} {items : List α} {results : List β} {ends : List γ}
    (hboth : ∀ item result last, first item result → second result last → both item last)
    (hfirst : List.Forall₂ first items results) (hsecond : List.Forall₂ second results ends) :
    List.Forall₂ both items ends := by
  induction hfirst generalizing ends with
  | nil =>
      cases hsecond
      exact .nil
  | cons hresult _ ih =>
      obtain ⟨last, others, hlast, hothers, rfl⟩ := List.forall₂_cons_left_iff.mp hsecond
      exact .cons (hboth _ _ _ hresult hlast) (ih hothers)

/-- Results that are related to the items of a list carry over what the relation implies. -/
theorem map_eq_of_forall₂ {γ : Type} {related : α → β → Prop} {items : List α}
    {results : List β} {left : α → γ} {right : β → γ}
    (hrelated : List.Forall₂ related items results)
    (himp : ∀ item result, related item result → right result = left item) :
    results.map right = items.map left := by
  induction hrelated with
  | nil => rfl
  | cons hresult _ ih => rw [List.map_cons, List.map_cons, himp _ _ hresult, ih]

/-- What is put together from the items of a list and their results stands for both. -/
theorem exists_zipWith_iff {γ : Type} {related : α → β → Prop} {combine : α → β → γ}
    {items : List α} {combined : List γ} :
    (∃ results, List.Forall₂ related items results ∧ items.zipWith combine results = combined) ↔
      List.Forall₂ (fun item part => ∃ result, related item result ∧ combine item result = part)
        items combined := by
  induction items generalizing combined with
  | nil =>
      constructor
      · rintro ⟨_, ⟨⟩, rfl⟩
        exact .nil
      · rintro ⟨⟩
        exact ⟨[], .nil, rfl⟩
  | cons item rest ih =>
      rw [List.forall₂_cons_left_iff]
      constructor
      · rintro ⟨_, hresult | ⟨hresult, hothers⟩, rfl⟩
        exact ⟨_, _, ⟨_, hresult, rfl⟩, ih.mp ⟨_, hothers, rfl⟩, rfl⟩
      · rintro ⟨_, _, ⟨result, hresult, rfl⟩, hparts, rfl⟩
        obtain ⟨others, hothers, rfl⟩ := ih.mpr hparts
        exact ⟨result :: others, .cons hresult hothers, rfl⟩

end Assay
