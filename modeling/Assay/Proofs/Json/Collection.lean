import Assay.Proofs.Json.Equality

/-! # Nodes collected by their paths

The nodes at several paths are collected in one object, each under its path. Such an object is one
level deeper than its deepest node. Along a path every segment goes down a level, and a second one
if it has an index, so only the empty path leads to a node that is as deep as the document.
-/

namespace Assay.Json

open Number (TooManyDigits)

variable {document node : Value} {path : String} {paths : List String}
  {found : Table String Value}

/-! ## Depth along a path -/

theorem depth_lt_of_field? {value child : Value} {key : String}
    (hchild : value.field? key = some child) : child.depth < value.depth := by
  cases value with
  | object members => exact Value.depth_of_mem_members (Table.mem_of_get?_eq_some hchild)
  | _ => nomatch hchild

theorem depth_lt_of_item? {value child : Value} {index : Nat}
    (hchild : value.item? index = some child) : child.depth < value.depth := by
  cases value with
  | array items => exact Value.depth_of_mem_items (List.mem_of_getElem? hchild)
  | _ => nomatch hchild

/-- Whether a segment takes an item of the array that its member is. -/
def Segment.isIndexed : Segment → Bool
  | .field _ => false
  | .indexed _ _ => true

/-- A segment goes down by a level, and by one more if it takes an item. -/
theorem depth_add_levels_le_of_step {value child : Value} {segment : Segment}
    (hstep : segment.step value = .ok (some child)) :
    child.depth + 1 + (if segment.isIndexed then 1 else 0) ≤ value.depth := by
  cases segment with
  | field key => exact depth_lt_of_field? (Except.ok.inj hstep)
  | indexed key digits =>
      rw [Segment.step] at hstep
      cases hfield : value.field? (String.ofList key) with
      | none => simp [hfield] at hstep
      | some array =>
          rw [hfield] at hstep
          obtain ⟨index, -, hitem⟩ := map_eq_ok_iff.mp hstep
          have hbelow := depth_lt_of_item? hitem
          have harray := depth_lt_of_field? hfield
          rw [Segment.isIndexed, if_pos rfl]
          omega

/-- A path goes down by a level for each of its segments, and by one more for each index. -/
theorem depth_add_levels_le_of_follow {value child : Value} {path : List Segment}
    (hfollow : follow value path = .ok (some child)) :
    child.depth + path.length + path.countP Segment.isIndexed ≤ value.depth := by
  induction path generalizing value with
  | nil =>
      obtain rfl := Option.some.inj (Except.ok.inj hfollow)
      exact le_rfl
  | cons segment rest ih =>
      rw [follow] at hfollow
      rcases hstep : segment.step value with refusal | _ | next
      · simp [hstep] at hfollow
      · simp [hstep] at hfollow
      · rw [hstep] at hfollow
        have hrest := ih hfollow
        have hfirst := depth_add_levels_le_of_step hstep
        rw [List.length_cons, List.countP_cons]
        omega

theorem segments_ne_nil (hpath : path ≠ "") : segments path ≠ [] := by
  have hempty : path.isEmpty = false := by rwa [← Bool.not_eq_true, String.isEmpty_iff]
  rw [segments, hempty, if_neg Bool.false_ne_true, Ne, List.map_eq_nil_iff]
  exact Text.splitOn_ne_nil '.' path.toList

/-- A path that is not empty leads to a node that is less deep than the document. -/
theorem depth_lt_of_resolve (hpath : path ≠ "")
    (hresolve : resolve document path = .ok (some node)) : node.depth < document.depth := by
  have hdepth := depth_add_levels_le_of_follow hresolve
  have hlength := List.length_pos_iff.mpr (segments_ne_nil hpath)
  omega

theorem resolve_empty (document : Value) : resolve document "" = .ok (some document) := by
  rw [resolve, segments]
  rfl

/-! ## Collections -/

/-- A table holds the nodes at a list of paths, and nothing else. -/
structure Collects (document : Value) (paths : List String) (found : Table String Value) :
    Prop where
  names : found.keys.Nodup
  get?_iff : ∀ path node, found.get? path = some node ↔
    path ∈ paths ∧ resolve document path = .ok (some node)

theorem Collects.nil (document : Value) : Collects document [] [] where
  names := List.nodup_nil
  get?_iff := by simp [Table.get?]

def collect (found : Table String Value) (path : String) : Option Value → Table String Value
  | some node => found.put path node
  | none => found

theorem extractAll_eq (document : Value) (paths : List String) :
    extractAll document paths =
      paths.foldlM (fun found path => (resolve document path).map (collect found path)) [] :=
  rfl

/-- One more path adds the node to which it leads. -/
theorem Collects.collect (hfound : Collects document paths found) {next : Option Value}
    (hresolve : resolve document path = .ok next) :
    Collects document (paths ++ [path]) (collect found path next) := by
  cases next with
  | none =>
      refine ⟨hfound.names, fun other node => ?_⟩
      rw [Json.collect, hfound.get?_iff, List.mem_append, List.mem_singleton]
      -- the path leads nowhere, so it is not among those with a node
      have hnowhere : ¬ (other = path ∧ resolve document other = .ok (some node)) := by
        rintro ⟨rfl, hother⟩
        simp [hresolve] at hother
      tauto
  | some value =>
      refine ⟨Table.nodup_keys_put hfound.names path value, fun other node => ?_⟩
      rw [Json.collect, List.mem_append, List.mem_singleton]
      by_cases hother : other = path
      · subst hother
        simp [hresolve]
      · rw [Table.get?_put_of_ne _ _ hother, hfound.get?_iff]
        simp [hother]

/-- The invariant of a collection is preserved by each of the paths that are still to be asked for.
-/
theorem Collects.foldlM {later : List String} {sofar : Table String Value}
    (hsofar : Collects document paths sofar)
    (hfound : later.foldlM (fun found path => (resolve document path).map (Json.collect found path))
      sofar = .ok found) : Collects document (paths ++ later) found := by
  induction later generalizing paths sofar with
  | nil =>
      obtain rfl := Except.ok.inj hfound
      rwa [List.append_nil]
  | cons path rest ih =>
      rw [List.foldlM_cons, bind_eq_ok_iff] at hfound
      obtain ⟨next, hnext, hothers⟩ := hfound
      obtain ⟨node, hresolve, rfl⟩ := map_eq_ok_iff.mp hnext
      have hrest := ih (hsofar.collect hresolve) hothers
      rwa [List.append_assoc, List.singleton_append] at hrest

/-- What is collected holds the nodes at the paths. -/
theorem collects_of_extractAll (hextract : extractAll document paths = .ok found) :
    Collects document paths found :=
  (Collects.nil document).foldlM ((extractAll_eq document paths).symm.trans hextract)

theorem Collects.representable (hfound : Collects document paths found)
    (hdocument : document.IsNode) : (Value.object found).Representable := by
  refine .object hfound.names fun member hmember => ?_
  have hget := Table.get?_eq_some_of_mem hfound.names hmember
  exact (hdocument.follow ((hfound.get?_iff _ _).mp hget).2).representable

/-- What is collected is one level deeper than the deepest node that is found. -/
theorem Collects.depth_le_iff (hfound : Collects document paths found) {bound : Nat} :
    (Value.object found).depth ≤ bound + 1 ↔
      ∀ path ∈ paths, ∀ node, resolve document path = .ok (some node) → node.depth ≤ bound := by
  rw [Value.depth, Nat.add_le_add_iff_right, Value.depthOfMembers_le_iff]
  constructor
  · intro hdepth path hpath node hresolve
    have hget := (hfound.get?_iff path node).mpr ⟨hpath, hresolve⟩
    exact hdepth _ (Table.mem_of_get?_eq_some hget)
  · intro hdepth member hmember
    have hget := Table.get?_eq_some_of_mem hfound.names hmember
    obtain ⟨hpath, hresolve⟩ := (hfound.get?_iff _ _).mp hget
    exact hdepth _ hpath _ hresolve

/-- A collection of nodes is below the limit on nesting unless the document itself, at its empty
path, is among them and just below the limit. -/
theorem Collects.depth_lt_iff (hfound : Collects document paths found)
    (hdocument : document.IsNode) :
    (Value.object found).depth < nestingLimit ↔
      ¬ ("" ∈ paths ∧ document.depth + 1 = nestingLimit) := by
  have hlimit := hdocument.depth
  rw [show nestingLimit = 126 + 1 + 1 from rfl] at hlimit ⊢
  rw [Nat.lt_succ_iff, hfound.depth_le_iff]
  constructor
  · rintro hnodes ⟨hempty, hdepth⟩
    have hwhole := hnodes "" hempty document (resolve_empty document)
    omega
  · intro hshallow path hpath node hresolve
    by_cases hempty : path = ""
    · subst hempty
      obtain rfl := Option.some.inj (Except.ok.inj ((resolve_empty document).symm.trans hresolve))
      have hdepth : ¬ document.depth + 1 = 126 + 1 + 1 := fun hdepth => hshallow ⟨hpath, hdepth⟩
      omega
    · -- any other path goes down, which leaves room for the level of the collection
      have hlower := depth_lt_of_resolve hempty hresolve
      omega

end Assay.Json
