import Mathlib
import Assay.Json.Value
import Assay.Proofs.Number.Digits
import Assay.Proofs.Table

/-! # JSON values and their children

The depth of a value is a bound on its children. The representable values are those that a JSON
text can denote: no integer is too long, every number is finite, and the members
of an object have different names.
-/

namespace Assay.Json

open Number (Double)

namespace Value

/-- A law of all values follows if every container has it whose children have it. -/
@[induction_eliminator]
theorem induction {motive : Value → Prop} (null : motive .null)
    (bool : ∀ value, motive (.bool value)) (int : ∀ value, motive (.int value))
    (double : ∀ value, motive (.double value)) (string : ∀ text, motive (.string text))
    (array : ∀ items, (∀ item ∈ items, motive item) → motive (.array items))
    (object : ∀ members, (∀ member ∈ members, motive member.2) → motive (.object members))
    (value : Value) : motive value :=
  Value.rec (motive_1 := motive) (motive_2 := fun items => ∀ item ∈ items, motive item)
    (motive_3 := fun members => ∀ member ∈ members, motive member.2)
    (motive_4 := fun member => motive member.2) null bool int double string array object
    (fun _ hmem => nomatch hmem)
    (fun _ _ hitem hitems => List.forall_mem_cons.mpr ⟨hitem, hitems⟩)
    (fun _ hmem => nomatch hmem)
    (fun _ _ hmember hmembers => List.forall_mem_cons.mpr ⟨hmember, hmembers⟩)
    (fun _ _ hvalue => hvalue) value

/-! ## Depth -/

theorem depthOfItems_le_iff {items : List Value} {bound : Nat} :
    depthOfItems items ≤ bound ↔ ∀ item ∈ items, item.depth ≤ bound := by
  induction items with
  | nil => simp [depthOfItems]
  | cons item rest ih => rw [depthOfItems, Nat.max_le, List.forall_mem_cons, ih]

theorem depthOfMembers_le_iff {members : List (String × Value)} {bound : Nat} :
    depthOfMembers members ≤ bound ↔ ∀ member ∈ members, member.2.depth ≤ bound := by
  induction members with
  | nil => simp [depthOfMembers]
  | cons member rest ih => rw [depthOfMembers, Nat.max_le, List.forall_mem_cons, ih]

theorem depth_of_mem_items {item : Value} {items : List Value} (hmem : item ∈ items) :
    item.depth < (array items).depth :=
  Nat.lt_succ_of_le (depthOfItems_le_iff.mp le_rfl item hmem)

theorem depth_of_mem_members {member : String × Value} {members : List (String × Value)}
    (hmem : member ∈ members) : member.2.depth < (object members).depth :=
  Nat.lt_succ_of_le (depthOfMembers_le_iff.mp le_rfl member hmem)

end Value

/-! ## Representable values -/

/-- A value that is denoted by some JSON text. -/
inductive Value.Representable : Value → Prop
  | null : Representable .null
  | bool {value : Bool} : Representable (.bool value)
  | int {value : Int} (hlength : (Number.digitsOf value.natAbs).length ≤ Number.digitLimit) :
      Representable (.int value)
  | double {number : Double} (hfinite : number.isFinite = true) : Representable (.double number)
  | string {value : String} : Representable (.string value)
  | array {items : List Value} (hitems : ∀ item ∈ items, Representable item) :
      Representable (.array items)
  | object {members : Table String Value} (hnames : members.keys.Nodup)
      (hmembers : ∀ member ∈ members, Representable member.2) : Representable (.object members)

end Assay.Json
