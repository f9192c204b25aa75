import Assay.Json.Equality
import Assay.Proofs.Json.Path
import Assay.Proofs.Number.Equality
import Assay.Proofs.Traversal

/-! # Equality of documents

On the values that a text can denote, equality is an equivalence. Numbers are equal by their value,
whichever way they are kept, and objects by the values of their names, whatever the order. Paths
lead from equal documents to equal nodes.
-/

namespace Assay.Json

open Number (TooManyDigits)

def Value.Same (left right : Value) : Prop := equal left right = true

def Value.number? : Value → Option ℚ
  | .int value => some value
  | .double value => value.value?
  | _ => none

theorem exists_number_of_isFinite {value : Number.Double} (hfinite : value.isFinite = true) :
    ∃ number, (Value.double value).number? = some number :=
  Number.Double.exists_value_of_isFinite hfinite

variable {left right : Value}

/-! ## Values by their kind -/

theorem same_null_iff : Value.Same .null right ↔ right = .null := by
  cases right <;> simp [Value.Same, equal, scalarEqual]

theorem same_bool_iff {value : Bool} : Value.Same (.bool value) right ↔ right = .bool value := by
  cases right <;> simp [Value.Same, equal, scalarEqual, eq_comm]

theorem same_string_iff {value : String} :
    Value.Same (.string value) right ↔ right = .string value := by
  cases right <;> simp [Value.Same, equal, scalarEqual, eq_comm]

/-- A number is equal to the values that are the same number. -/
theorem same_iff_of_number {number : ℚ} (hnumber : left.number? = some number) :
    left.Same right ↔ right.number? = some number := by
  cases left with
  | int value =>
      obtain rfl := Option.some.inj hnumber
      cases right with
      | int other => simp [Value.Same, equal, scalarEqual, Value.number?, eq_comm]
      | double other => exact Number.Double.eqvInt_iff
      | _ => simp [Value.Same, equal, scalarEqual, Value.number?]
  | double value =>
      cases right with
      | int other =>
          rw [Value.number?, Option.some.injEq, eq_comm]
          refine Number.Double.eqvInt_iff.trans ?_
          rw [show value.value? = some number from hnumber, Option.some.injEq]
      | double other => exact Number.Double.eqv_iff hnumber
      | _ => simp [Value.Same, equal, scalarEqual, Value.number?]
  | _ => nomatch hnumber

/-- Arrays are compared item by item, and their lengths have to agree. -/
theorem itemsEqual_iff {items others : List Value} :
    itemsEqual items others = true ↔ List.Forall₂ Value.Same items others := by
  induction items generalizing others with
  | nil => cases others <;> simp [itemsEqual]
  | cons item rest ih =>
      cases others with
      | nil => simp [itemsEqual]
      | cons other others => simp [itemsEqual, ih, Value.Same]

theorem same_array_iff {items : List Value} :
    Value.Same (.array items) right ↔
      ∃ others, right = .array others ∧ List.Forall₂ Value.Same items others := by
  cases right with
  | array others => simp [Value.Same, equal, itemsEqual_iff]
  | _ => simp [Value.Same, equal, scalarEqual]

/-- Objects are compared by the names of one of them; their lengths are compared beforehand. -/
theorem membersEqual_iff {members others : Table String Value} :
    membersEqual members others = true ↔
      ∀ member ∈ members, ∃ value, others.get? member.1 = some value ∧ member.2.Same value := by
  induction members with
  | nil => simp [membersEqual]
  | cons member rest ih =>
      rw [membersEqual, Bool.and_eq_true, ih, List.forall_mem_cons]
      cases others.get? member.1 <;> simp [Value.Same]

/-- Objects are equal if every name has equal values in both, or none in either. -/
theorem same_object_iff {members others : Table String Value} (hnames : members.keys.Nodup)
    (hothers : others.keys.Nodup) :
    Value.Same (.object members) (.object others) ↔
      ∀ name, Option.Rel Value.Same (members.get? name) (others.get? name) := by
  rw [Value.Same, equal, Bool.and_eq_true, decide_eq_true_eq, membersEqual_iff]
  constructor
  · rintro ⟨hlength, hmembers⟩ name
    cases hget : members.get? name with
    | some value =>
        obtain ⟨other, hother, hsame⟩ := hmembers _ (Table.mem_of_get?_eq_some hget)
        rw [hother]
        exact .some hsame
    | none =>
        -- as many different names in both, so no name of the second is new
        have hsubset : members.keys ⊆ others.keys := by
          intro key hkey
          obtain ⟨member, hmember, rfl⟩ := List.mem_map.mp hkey
          obtain ⟨other, hother, -⟩ := hmembers member hmember
          exact Table.exists_get?_iff.mp ⟨other, hother⟩
        have hperm : members.keys.Perm others.keys :=
          (List.subperm_of_subset hnames hsubset).perm_of_length_le (by simp [Table.keys, hlength])
        have hnew : name ∉ others.keys := by
          rw [← hperm.mem_iff, ← Table.exists_get?_iff, hget]
          simp
        rw [Table.get?_eq_none hnew]
        exact .none
  · intro hrel
    have hkeys : ∀ name, name ∈ members.keys ↔ name ∈ others.keys := by
      intro name
      rw [← Table.exists_get?_iff, ← Table.exists_get?_iff]
      obtain ⟨hleft, hright⟩ | ⟨value, other, hleft, hright, -⟩ := optionRel_iff.mp (hrel name)
      · simp [hleft, hright]
      · simp [hleft, hright]
    have hperm := (List.perm_ext_iff_of_nodup hnames hothers).mpr hkeys
    refine ⟨by simpa [Table.keys] using hperm.length_eq, fun member hmember => ?_⟩
    have hmatch := hrel member.1
    rw [Table.get?_eq_some_of_mem hnames hmember] at hmatch
    obtain ⟨hnone, -⟩ | ⟨value, other, hvalue, hother, hsame⟩ := optionRel_iff.mp hmatch
    · cases hnone
    · obtain rfl := Option.some.inj hvalue
      exact ⟨other, hother, hsame⟩

theorem eq_object_of_same {members : Table String Value}
    (hsame : Value.Same (.object members) right) : ∃ others, right = .object others := by
  cases right with
  | object others => exact ⟨others, rfl⟩
  | _ => simp [Value.Same, equal, scalarEqual] at hsame

/-! ## Equality is an equivalence -/

theorem Value.Representable.same_refl {value : Value} (hvalue : value.Representable) :
    value.Same value := by
  induction hvalue with
  | null => exact same_null_iff.mpr rfl
  | bool => exact same_bool_iff.mpr rfl
  | int => exact (same_iff_of_number rfl).mpr rfl
  | double hfinite =>
      obtain ⟨number, hnumber⟩ := exists_number_of_isFinite hfinite
      exact (same_iff_of_number hnumber).mpr hnumber
  | string => exact same_string_iff.mpr rfl
  | array _ ih => exact same_array_iff.mpr ⟨_, rfl, List.forall₂_same.mpr ih⟩
  | @object members hnames _ ih =>
      refine (same_object_iff hnames hnames).mpr fun name => ?_
      cases hget : members.get? name with
      | none => exact .none
      | some value => exact .some (ih _ (Table.mem_of_get?_eq_some hget))

theorem Value.Representable.same_symm (hleft : left.Representable) (hright : right.Representable)
    (hsame : left.Same right) : right.Same left := by
  induction hleft generalizing right with
  | null =>
      obtain rfl := same_null_iff.mp hsame
      exact hsame
  | bool =>
      obtain rfl := same_bool_iff.mp hsame
      exact hsame
  | int => exact (same_iff_of_number ((same_iff_of_number rfl).mp hsame)).mpr rfl
  | double hfinite =>
      obtain ⟨number, hnumber⟩ := exists_number_of_isFinite hfinite
      have hother := (same_iff_of_number hnumber).mp hsame
      exact (same_iff_of_number hother).mpr hnumber
  | string =>
      obtain rfl := same_string_iff.mp hsame
      exact hsame
  | array _ ih =>
      obtain ⟨others, rfl, hitems⟩ := same_array_iff.mp hsame
      cases hright with
      | array hothers =>
          refine same_array_iff.mpr ⟨_, rfl, List.Forall₂.flip ?_⟩
          refine forall₂_imp_of_mem (fun item hitem other hother => ?_)
            (forall₂_and_of_mem_results hothers hitems)
          exact ih item hitem hother.2 hother.1
  | object hnames _ ih =>
      obtain ⟨others, rfl⟩ := eq_object_of_same hsame
      cases hright with
      | object hothers hvalues =>
          refine (same_object_iff hothers hnames).mpr fun name => ?_
          refine optionRel_swap (fun value other hvalue hother hpair => ?_)
            ((same_object_iff hnames hothers).mp hsame name)
          exact ih _ (Table.mem_of_get?_eq_some hvalue)
            (hvalues _ (Table.mem_of_get?_eq_some hother)) hpair

theorem Value.Representable.same_trans {middle : Value} (hleft : left.Representable)
    (hmiddle : middle.Representable) (hright : right.Representable) (hfirst : left.Same middle)
    (hsecond : middle.Same right) : left.Same right := by
  induction hleft generalizing middle right with
  | null =>
      obtain rfl := same_null_iff.mp hfirst
      exact hsecond
  | bool =>
      obtain rfl := same_bool_iff.mp hfirst
      exact hsecond
  | int =>
      have hnumber := (same_iff_of_number rfl).mp hfirst
      exact (same_iff_of_number rfl).mpr ((same_iff_of_number hnumber).mp hsecond)
  | double hfinite =>
      obtain ⟨number, hvalue⟩ := exists_number_of_isFinite hfinite
      have hnumber := (same_iff_of_number hvalue).mp hfirst
      exact (same_iff_of_number hvalue).mpr ((same_iff_of_number hnumber).mp hsecond)
  | string =>
      obtain rfl := same_string_iff.mp hfirst
      exact hsecond
  | @array items _ ih =>
      obtain ⟨middles, rfl, hmiddles⟩ := same_array_iff.mp hfirst
      obtain ⟨others, rfl, hothers⟩ := same_array_iff.mp hsecond
      cases hmiddle with
      | array hmiddle =>
          cases hright with
          | array hright =>
              -- each item is equal to what its counterpart in the middle is equal to
              have hcarried : List.Forall₂ (fun item middle => ∀ other : Value,
                  other.Representable → middle.Same other → item.Same other) items middles :=
                forall₂_imp_of_mem (fun item hitem middle hmiddle other hother hsame =>
                  ih item hitem hmiddle.2 hother hmiddle.1 hsame)
                  (forall₂_and_of_mem_results hmiddle hmiddles)
              refine same_array_iff.mpr ⟨others, rfl, ?_⟩
              exact forall₂_compose (fun item middle other hitem hother =>
                hitem other hother.2 hother.1) hcarried
                (forall₂_and_of_mem_results hright hothers)
  | object hnames _ ih =>
      obtain ⟨middles, rfl⟩ := eq_object_of_same hfirst
      obtain ⟨others, rfl⟩ := eq_object_of_same hsecond
      cases hmiddle with
      | object hmiddleNames hmiddles =>
          cases hright with
          | object hotherNames hothers =>
              have hfirst := (same_object_iff hnames hmiddleNames).mp hfirst
              have hsecond := (same_object_iff hmiddleNames hotherNames).mp hsecond
              -- name by name, since the members may stand in three orders
              refine (same_object_iff hnames hotherNames).mpr fun name => ?_
              refine optionRel_compose (fun value middle other hvalue hmiddle hother => ?_)
                (hfirst name) (hsecond name)
              exact ih _ (Table.mem_of_get?_eq_some hvalue)
                (hmiddles _ (Table.mem_of_get?_eq_some hmiddle))
                (hothers _ (Table.mem_of_get?_eq_some hother))

/-- Equality does not tell equal values apart. -/
theorem Value.Representable.equal_congr {left' right' : Value} (hleft : left.Representable)
    (hleft' : left'.Representable) (hright : right.Representable)
    (hright' : right'.Representable) (hsame : left.Same left') (hsame' : right.Same right') :
    equal left right = equal left' right' := by
  rw [Bool.eq_iff_iff]
  constructor
  · intro hequal
    exact hleft'.same_trans hright hright'
      (hleft'.same_trans hleft hright (hleft.same_symm hleft' hsame) hequal) hsame'
  · intro hequal
    exact hleft.same_trans hright' hright (hleft.same_trans hleft' hright' hsame hequal)
      (hright.same_symm hright' hsame')

/-! ## Equal values are equally deep -/

/-- A value is no deeper than one that is the same. -/
theorem Value.Representable.depth_le_of_same (hleft : left.Representable)
    (hright : right.Representable) (hsame : left.Same right) : left.depth ≤ right.depth := by
  induction hleft generalizing right with
  | array _ ih =>
      obtain ⟨others, rfl, hitems⟩ := same_array_iff.mp hsame
      cases hright with
      | array hothers =>
          refine Nat.succ_le_succ (Value.depthOfItems_le_iff.mpr fun item hitem => ?_)
          obtain ⟨other, hother, hitemSame⟩ := exists_of_mem_results hitems.flip hitem
          exact (ih item hitem (hothers other hother) hitemSame).trans
            (Value.depthOfItems_le_iff.mp le_rfl other hother)
  | object hnames _ ih =>
      obtain ⟨others, rfl⟩ := eq_object_of_same hsame
      cases hright with
      | object hothers hvalues =>
          refine Nat.succ_le_succ (Value.depthOfMembers_le_iff.mpr fun member hmember => ?_)
          have hmatch := (same_object_iff hnames hothers).mp hsame member.1
          rw [Table.get?_eq_some_of_mem hnames hmember] at hmatch
          obtain ⟨hnone, -⟩ | ⟨value, other, hvalue, hother, hmemberSame⟩ := optionRel_iff.mp hmatch
          · nomatch hnone
          · obtain rfl := Option.some.inj hvalue
            have hmem := Table.mem_of_get?_eq_some hother
            exact (ih member hmember (hvalues _ hmem) hmemberSame).trans
              (Value.depthOfMembers_le_iff.mp le_rfl _ hmem)
  | _ => exact Nat.zero_le _

theorem Value.Representable.depth_eq_of_same (hleft : left.Representable)
    (hright : right.Representable) (hsame : left.Same right) : left.depth = right.depth :=
  le_antisymm (hleft.depth_le_of_same hright hsame)
    (hright.depth_le_of_same hleft (hleft.same_symm hright hsame))

/-! ## Equal documents have equal nodes -/

/-- Two paths end alike: refused for the same reason, nowhere, or at equal nodes. -/
inductive SameFound :
    Except TooManyDigits (Option Value) → Except TooManyDigits (Option Value) → Prop
  | refused (refusal : TooManyDigits) : SameFound (.error refusal) (.error refusal)
  | found {node other : Option Value} (hnode : Option.Rel Value.Same node other) :
      SameFound (.ok node) (.ok other)

theorem Value.Representable.same_field (hleft : left.Representable) (hright : right.Representable)
    (hsame : left.Same right) (key : String) :
    Option.Rel Value.Same (left.field? key) (right.field? key) := by
  have hsame' := hleft.same_symm hright hsame
  cases left with
  | object members =>
      obtain ⟨others, rfl⟩ := eq_object_of_same hsame
      cases hleft with
      | object hnames _ =>
          cases hright with
          | object hothers _ => exact (same_object_iff hnames hothers).mp hsame key
  | _ =>
      cases right with
      | object others =>
          obtain ⟨members, hmembers⟩ := eq_object_of_same hsame'
          nomatch hmembers
      | _ => exact .none

theorem Value.Representable.same_item (hleft : left.Representable) (hright : right.Representable)
    (hsame : left.Same right) (index : Nat) :
    Option.Rel Value.Same (left.item? index) (right.item? index) := by
  have hsame' := hleft.same_symm hright hsame
  cases left with
  | array items =>
      obtain ⟨others, rfl, hitems⟩ := same_array_iff.mp hsame
      exact rel_getElem?_of_forall₂ hitems index
  | _ =>
      cases right with
      | array others =>
          obtain ⟨items, hitems, -⟩ := same_array_iff.mp hsame'
          nomatch hitems
      | _ => exact .none

/-- One segment leads from equal nodes to equal nodes. -/
theorem Value.IsNode.sameFound_step (hleft : left.IsNode) (hright : right.IsNode)
    (hsame : left.Same right) (segment : Segment) :
    SameFound (segment.step left) (segment.step right) := by
  cases segment with
  | field key =>
      exact .found (hleft.representable.same_field hright.representable hsame _)
  | indexed key digits =>
      rw [Segment.step, Segment.step]
      obtain ⟨hchild, hother⟩ | ⟨child, other, hchild, hother, hchildren⟩ := optionRel_iff.mp
        (hleft.representable.same_field hright.representable hsame (String.ofList key))
      · rw [hchild, hother]
        exact .found .none
      · rw [hchild, hother]
        have hitem := (hleft.field hchild).representable.same_item
          (hright.field hother).representable hchildren
        dsimp only
        cases Number.readDigits digits with
        | error refusal => exact .refused refusal
        | ok index => exact .found (hitem index)

/-- A list of segments leads from equal nodes to equal nodes. -/
theorem Value.IsNode.sameFound_follow (hleft : left.IsNode) (hright : right.IsNode)
    (hsame : left.Same right) (path : List Segment) :
    SameFound (Json.follow left path) (Json.follow right path) := by
  induction path generalizing left right with
  | nil => exact .found (.some hsame)
  | cons segment rest ih =>
      rw [Json.follow, Json.follow]
      have hstep := hleft.sameFound_step hright hsame segment
      rcases hchild : segment.step left with refusal | child <;>
        rcases hother : segment.step right with refusal' | other <;> rw [hchild, hother] at hstep
      · cases hstep
        exact .refused refusal
      · cases hstep
      · cases hstep
      · cases hstep with
        | found hnode =>
            cases hnode with
            | none => exact .found .none
            | some hnodes => exact ih (hleft.step hchild) (hright.step hother) hnodes

/-! ## The laws of documents -/

/-- A value that some text denotes. -/
def Value.IsParsed (value : Value) : Prop := ∃ text, parse text = .ok value

theorem Value.IsParsed.isNode {value : Value} (hparsed : value.IsParsed) : value.IsNode := by
  obtain ⟨text, hparse⟩ := hparsed
  exact isNode_of_parse hparse

/-- What equality is on the values that texts denote: an equivalence that goes by the values of
numbers, keeps truth values apart from all else, and takes no notice of the order of members; and
paths lead from equal values to equal nodes. -/
structure EqualityLaws : Prop where
  refl : ∀ value : Value, value.IsParsed → value.Same value
  symm : ∀ left right : Value, left.IsParsed → right.IsParsed → left.Same right → right.Same left
  trans : ∀ left middle right : Value, left.IsParsed → middle.IsParsed → right.IsParsed →
    left.Same middle → middle.Same right → left.Same right
  numbers : ∀ (left right : Value) (number : ℚ), left.number? = some number →
    (left.Same right ↔ right.number? = some number)
  booleans : ∀ (value : Bool) (right : Value),
    Value.Same (.bool value) right ↔ right = .bool value
  objects : ∀ members others : Table String Value, (Value.object members).IsParsed →
    (Value.object others).IsParsed →
      (Value.Same (.object members) (.object others) ↔
        ∀ name, Option.Rel Value.Same (members.get? name) (others.get? name))
  paths : ∀ (left right : Value) (path : String), left.IsParsed → right.IsParsed →
    left.Same right → SameFound (resolve left path) (resolve right path)

theorem equalityLaws : EqualityLaws where
  refl _ hvalue := hvalue.isNode.representable.same_refl
  symm _ _ hleft hright := hleft.isNode.representable.same_symm hright.isNode.representable
  trans _ _ _ hleft hmiddle hright := hleft.isNode.representable.same_trans
    hmiddle.isNode.representable hright.isNode.representable
  numbers _ _ _ := same_iff_of_number
  booleans _ _ := same_bool_iff
  objects _ _ hmembers hothers := by
    cases hmembers.isNode.representable with
    | object hnames _ =>
        cases hothers.isNode.representable with
        | object hotherNames _ => exact same_object_iff hnames hotherNames
  paths _ _ path hleft hright hsame :=
    hleft.isNode.sameFound_follow hright.isNode hsame (segments path)

end Assay.Json
