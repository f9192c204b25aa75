import Assay.Json.Walk
import Assay.Proofs.Json.Value

/-! # Walks measure the depth

A walk may make any of its visits next. Every round takes one value away, so a walk ends after as
many rounds as there are values before it. How deep the visits together lead stays the same from
round to round, so at its end a walk has noted the depth of the value, in whatever order it went.
-/

namespace Assay.Json

variable {value : Value} {visit : Visit} {walk next last : Walk} {rounds bound : Nat}

/-! ## Depth by children -/

namespace Value

theorem depth_of_scalar (hscalar : value.isContainer = false) : value.depth = 0 := by
  cases value with
  | array items => cases hscalar
  | object members => cases hscalar
  | _ => rfl

theorem depthOfMembers_eq (members : List (String × Value)) :
    depthOfMembers members = depthOfItems (members.map Prod.snd) := by
  induction members with
  | nil => rfl
  | cons member rest ih => rw [depthOfMembers, List.map_cons, depthOfItems, ih]

theorem depth_of_isContainer (hcontainer : value.isContainer = true) :
    value.depth = depthOfItems value.children + 1 := by
  cases value with
  | array items => rw [depth, children]
  | object members => rw [depth, depthOfMembers_eq, children]
  | _ => cases hcontainer

/-- The depth of several values is that of the deepest, and none of no values. -/
theorem depthOfItems_eq_max (items : List Value) :
    depthOfItems items = (items.map depth).max?.getD 0 := by
  induction items with
  | nil => rfl
  | cons item rest ih =>
      rw [depthOfItems, ih, List.map_cons, List.max?_cons]
      cases (rest.map depth).max? with
      | none => exact Nat.max_zero item.depth
      | some deepest => rfl

theorem sizeOfItems_of_perm {items others : List Value} (hperm : items.Perm others) :
    sizeOfItems items = sizeOfItems others := by
  induction hperm with
  | nil => rfl
  | cons item _ ih => rw [sizeOfItems, sizeOfItems, ih]
  | swap first second rest => simp only [sizeOfItems, Nat.add_left_comm]
  | trans _ _ hfirst hsecond => rw [hfirst, hsecond]

end Value

/-! ## How deep visits lead -/

/-- A visit leads no deeper than a bound. A scalar leads nowhere, wherever it stands. -/
def Visit.Within (bound : Nat) (visit : Visit) : Prop :=
  visit.value.depth = 0 ∨ visit.level + visit.value.depth ≤ bound

theorem Visit.within_of_scalar (hscalar : visit.value.isContainer = false) :
    visit.Within bound := .inl (Value.depth_of_scalar hscalar)

/-- A container is met itself, and leads where its children lead. -/
theorem Visit.within_iff_of_isContainer (hcontainer : visit.value.isContainer = true) :
    visit.Within bound ↔
      visit.level + 1 ≤ bound ∧ ∀ child ∈ visit.toChildren, child.Within bound := by
  have hdepth := Value.depth_of_isContainer hcontainer
  simp only [toChildren, List.forall_mem_map, List.mem_reverse, Within]
  constructor
  · intro hwithin
    refine ⟨by omega, fun child hchild => ?_⟩
    have hbelow := Value.depthOfItems_le_iff.mp le_rfl child hchild
    omega
  · rintro ⟨hlevel, hwithin⟩
    have hbelow : Value.depthOfItems visit.value.children ≤ bound - (visit.level + 1) := by
      apply Value.depthOfItems_le_iff.mpr
      intro child hchild
      have hchild := hwithin child hchild
      omega
    omega

/-- A walk leads no deeper than a bound, by what it has met and by the visits that are left. -/
@[mk_iff]
structure Walk.Within (bound : Nat) (walk : Walk) : Prop where
  deepest : walk.deepest ≤ bound
  visits : ∀ visit ∈ walk.stack, visit.Within bound

/-! ## Rounds in any order -/

/-- A walk makes one of its visits, which may be any of those on its stack. -/
def Walk.Leads (walk next : Walk) : Prop :=
  ∃ order : List Visit, order.Perm walk.stack ∧ next? ⟨walk.deepest, order⟩ = some next

/-- A walk comes to another one in a number of rounds, each of which makes any visit. -/
inductive Walk.LeadsIn : Nat → Walk → Walk → Prop
  | rest (walk : Walk) : LeadsIn 0 walk walk
  | visit {walk next last : Walk} {rounds : Nat} (hfirst : walk.Leads next)
      (hothers : LeadsIn rounds next last) : LeadsIn (rounds + 1) walk last

namespace Walk

theorem leads_of_next? (hnext : walk.next? = some next) : walk.Leads next :=
  ⟨walk.stack, .refl _, hnext⟩

/-- As long as visits are left, one of them can be made. -/
theorem exists_leads (hleft : walk.stack ≠ []) : ∃ next, walk.Leads next := by
  obtain ⟨next, hnext⟩ := Option.ne_none_iff_exists'.mp (mt next?_eq_none_iff.mp hleft)
  exact ⟨next, leads_of_next? hnext⟩

/-- Every round takes one value away. -/
theorem Leads.size_eq (hleads : walk.Leads next) : next.size + 1 = walk.size := by
  obtain ⟨order, hperm, hnext⟩ := hleads
  rw [size_of_next? hnext, size, size]
  exact Value.sizeOfItems_of_perm (hperm.map Visit.value)

/-- No round changes how deep a walk leads. -/
theorem within_iff_of_leads (hleads : walk.Leads next) : next.Within bound ↔ walk.Within bound := by
  obtain ⟨order, hperm, hnext⟩ := hleads
  obtain ⟨visit, rest, rfl, hstack, hdeepest⟩ := next?_eq_some_iff.mp hnext
  have hvisits : (∀ visit ∈ walk.stack, visit.Within bound) ↔
      visit.Within bound ∧ ∀ visit ∈ rest, visit.Within bound := by
    rw [← List.forall_mem_cons]
    exact forall_congr' fun visit => imp_congr_left hperm.mem_iff.symm
  rw [within_iff, within_iff, hvisits, hstack, hdeepest]
  cases hcontainer : visit.value.isContainer with
  | false =>
      have hchildren := Value.children_of_scalar hcontainer
      simp [Visit.within_of_scalar hcontainer, Visit.toChildren, hchildren]
  | true =>
      rw [if_pos rfl, Visit.within_iff_of_isContainer hcontainer, List.forall_mem_append,
        max_le_iff, and_assoc, and_assoc]

/-- Neither does a number of rounds, and each of them takes one value away. -/
theorem LeadsIn.preserves (hleads : LeadsIn rounds walk last) :
    last.size + rounds = walk.size ∧ ∀ bound, last.Within bound ↔ walk.Within bound := by
  induction hleads with
  | rest walk => exact ⟨rfl, fun _ => Iff.rfl⟩
  | visit hfirst _ ih =>
      obtain ⟨hsize, hwithin⟩ := ih
      have hfirstSize := hfirst.size_eq
      exact ⟨by omega, fun bound => (hwithin bound).trans (within_iff_of_leads hfirst)⟩

/-! ## Walks through a value -/

theorem size_start (value : Value) : (start value).size = value.size := Nat.add_zero _

theorem within_start_iff : (start value).Within bound ↔ value.depth ≤ bound := by
  simp only [within_iff, start, List.forall_mem_singleton, Visit.Within]
  omega

/-- A walk with no visit left leads no deeper than it has been. -/
theorem within_iff_of_ended (hended : last.stack = []) :
    last.Within bound ↔ last.deepest ≤ bound := by
  rw [within_iff, hended]
  simp

/-- A walk through a value has noted its depth when no visit is left. -/
theorem LeadsIn.deepest_eq (hleads : LeadsIn rounds (start value) last)
    (hended : last.stack = []) : last.deepest = value.depth := by
  apply eq_of_forall_ge_iff
  intro bound
  rw [← within_iff_of_ended hended, hleads.preserves.2, within_start_iff]

/-- The walk that always makes the first of its visits ends after as many rounds as there are values
before it. -/
theorem leadsIn_finish (walk : Walk) : LeadsIn walk.size walk ⟨walk.finish, []⟩ := by
  induction walk using finish.induct with
  | case1 walk hnext =>
      have hended : walk.stack = [] := next?_eq_none_iff.mp hnext
      rw [finish_of_none hnext]
      obtain ⟨deepest, stack⟩ := walk
      obtain rfl : stack = [] := hended
      exact .rest _
  | case2 walk next hnext ih =>
      rw [← size_of_next? hnext, finish_of_next? hnext]
      exact .visit (leads_of_next? hnext) ih

end Walk

theorem measuredDepth_eq_depth (value : Value) : value.measuredDepth = value.depth := by
  have hleads := Walk.leadsIn_finish (Walk.start value)
  exact hleads.deepest_eq rfl

end Assay.Json
