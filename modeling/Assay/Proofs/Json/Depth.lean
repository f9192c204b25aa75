import Assay.Proofs.Json.Collection

/-! # The measured depth

What the measurement of a value comes to is its depth by recursion: a scalar has none, and a
container is one deeper than its deepest child. The order in which a walk makes its visits makes no
difference to that. A path spends the depth of a document, so a node is less deep by every segment
of its path, and by one more for every index.
-/

namespace Assay.Json

/-- The measure of a value by the measures of its children. -/
theorem Value.measuredDepth_eq (value : Value) :
    value.measuredDepth =
      if value.isContainer then 1 + (value.children.map measuredDepth).max?.getD 0 else 0 := by
  rw [funext measuredDepth_eq_depth]
  cases hcontainer : value.isContainer with
  | false => exact depth_of_scalar hcontainer
  | true => rw [depth_of_isContainer hcontainer, depthOfItems_eq_max, Nat.add_comm, if_pos rfl]

/-- Every walk through a value, whichever visit it makes next, can go on until no visit is left, and
then has made one for each value and noted the depth as it is measured. The measurement is such a
walk. What it comes to is nothing for a scalar and one more than the greatest measure of a child for
a container, and a path leads to a node that is less deep by its segments and its indices. -/
theorem walks_measure_depth (value : Value) :
    (∀ rounds last, Walk.LeadsIn rounds (Walk.start value) last →
        last.size + rounds = value.size ∧
          (last.stack ≠ [] → ∃ next, last.Leads next) ∧
          (last.stack = [] → rounds = value.size ∧ last.deepest = value.measuredDepth)) ∧
      Walk.LeadsIn value.size (Walk.start value) ⟨value.measuredDepth, []⟩ ∧
      (value.measuredDepth = if value.isContainer then
        1 + (value.children.map Value.measuredDepth).max?.getD 0 else 0) ∧
      ∀ path node, resolve value path = .ok (some node) →
        node.measuredDepth + (segments path).length + (segments path).countP Segment.isIndexed ≤
          value.measuredDepth := by
  refine ⟨fun rounds last hleads => ?_, ?_, value.measuredDepth_eq, fun path node hresolve => ?_⟩
  · have hsize : last.size + rounds = value.size := by
      rw [hleads.preserves.1, Walk.size_start]
    refine ⟨hsize, Walk.exists_leads, fun hended => ⟨?_, ?_⟩⟩
    · have hnothing : last.size = 0 := by
        rw [Walk.size, hended]
        rfl
      omega
    · rw [hleads.deepest_eq hended, measuredDepth_eq_depth]
  · have hleads := Walk.leadsIn_finish (Walk.start value)
    rwa [Walk.size_start] at hleads
  · rw [measuredDepth_eq_depth, measuredDepth_eq_depth]
    exact depth_add_levels_le_of_follow hresolve

/-- A document with an array that holds another one behind a number. -/
def arrayBehindNumber : Value := .object [("a", .array [.int 1, .array [.bool true]])]

/-- The laws at a walk that visits the number before the array behind it, and at a path with an
index. -/
theorem walk_by_items_measures_depth :
    Walk.LeadsIn 5 (Walk.start arrayBehindNumber) ⟨3, []⟩ ∧
      3 = arrayBehindNumber.measuredDepth ∧
      resolve arrayBehindNumber "a[1]" = .ok (some (.array [.bool true])) ∧
      (Value.array [.bool true]).measuredDepth + 1 + 1 ≤ arrayBehindNumber.measuredDepth := by
  obtain ⟨hwalks, -, -, hpaths⟩ := walks_measure_depth arrayBehindNumber
  -- the third round makes the visit that was to be the last one first
  have hleads : Walk.LeadsIn 5 (Walk.start arrayBehindNumber) ⟨3, []⟩ :=
    .visit ⟨_, .refl _, rfl⟩ <| .visit ⟨_, .refl _, rfl⟩ <|
      .visit ⟨[⟨.int 1, 2⟩, ⟨.array [.bool true], 2⟩], .swap _ _ _, rfl⟩ <|
        .visit ⟨_, .refl _, rfl⟩ <| .visit ⟨_, .refl _, rfl⟩ <| .rest _
  have hsegments : segments "a[1]" = [.indexed ['a'] ['1']] := by cbv
  have hresolve : resolve arrayBehindNumber "a[1]" = .ok (some (.array [.bool true])) := by
    rw [resolve, hsegments]
    rfl
  have hspent := hpaths "a[1]" _ hresolve
  rw [hsegments] at hspent
  exact ⟨hleads, ((hwalks 5 _ hleads).2.2 rfl).2, hresolve, hspent⟩

end Assay.Json
