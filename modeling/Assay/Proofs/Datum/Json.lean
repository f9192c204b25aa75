import Assay.Datum.Json
import Assay.Proofs.Table

/-! # JSON values among the data

A JSON value is a datum of the same kind, and its members are found in it under their names.
-/

namespace Assay.Datum

open Json (Value)

theorem ofJsonItems_eq_map (items : List Value) : ofJsonItems items = items.map ofJson := by
  induction items with
  | nil => rfl
  | cons item rest ih => rw [ofJsonItems, ih, List.map_cons]

@[simp] theorem text?_ofJson {value : Value} {content : String} :
    (ofJson value).text? = some content ↔ value = .string content := by
  cases value <;> simp [ofJson, text?]

@[simp] theorem int?_ofJson {value : Value} {content : Int} :
    (ofJson value).int? = some content ↔ value = .int content := by
  cases value <;> simp [ofJson, int?]

@[simp] theorem bool?_ofJson {value : Value} {content : Bool} :
    (ofJson value).bool? = some content ↔ value = .bool content := by
  cases value <;> simp [ofJson, bool?]

/-! ## Fields -/

/-- The member of an object with a given name is the entry under this name. -/
theorem fieldOf?_ofJsonMembers (members : List (String × Value)) (name : String) :
    fieldOf? (ofJsonMembers members) name = (Table.get? members name).map ofJson := by
  induction members with
  | nil => rfl
  | cons member rest ih =>
      unfold fieldOf? at ih ⊢
      rw [ofJsonMembers, Table.get?, List.find?_cons]
      by_cases hname : member.1 = name
      · simp [text?, hname]
      · simpa [text?, hname] using ih

/-- What null does not have, a field has only if it is there. -/
theorem read_fieldOf {α : Type} {read : Datum → Option α} (hnull : read null = none)
    (entries : List (Datum × Datum)) (name : String) :
    read (fieldOf entries name) = (fieldOf? entries name).bind read := by
  unfold fieldOf
  cases fieldOf? entries name with
  | none => exact hnull
  | some value => rfl

/-- What a JSON value has if and only if it has a given form, a member has if and only if it is
there in this form. -/
theorem read_member {α : Type} {read : Datum → Option α} {form : α → Value}
    (hnull : read null = none)
    (hform : ∀ value content, read (ofJson value) = some content ↔ value = form content)
    {members : List (String × Value)} {name : String} {content : α} :
    read (fieldOf (ofJsonMembers members) name) = some content ↔
      Table.get? members name = some (form content) := by
  rw [read_fieldOf hnull, fieldOf?_ofJsonMembers]
  cases Table.get? members name with
  | none => simp
  | some value => simpa using hform value content

theorem text?_member {members : List (String × Value)} {name content : String} :
    (fieldOf (ofJsonMembers members) name).text? = some content ↔
      Table.get? members name = some (.string content) :=
  read_member rfl fun _ _ => text?_ofJson

theorem int?_member {members : List (String × Value)} {name : String} {content : Int} :
    (fieldOf (ofJsonMembers members) name).int? = some content ↔
      Table.get? members name = some (.int content) :=
  read_member rfl fun _ _ => int?_ofJson

theorem bool?_member {members : List (String × Value)} {name : String} {content : Bool} :
    (fieldOf (ofJsonMembers members) name).bool? = some content ↔
      Table.get? members name = some (.bool content) :=
  read_member rfl fun _ _ => bool?_ofJson

end Assay.Datum
