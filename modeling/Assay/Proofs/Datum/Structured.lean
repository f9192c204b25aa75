import Assay.Proofs.Datum.Json
import Assay.Proofs.Datum.Plain
import Assay.Proofs.Json.Equality

/-! # Structured data as text

A JSON value is a datum of texts, numbers, truth values and null in lists and in maps. As such a
datum it is written as its canonical text, which is read back as an equal document exactly below
the limit on nesting.
-/

namespace Assay

open Json (Value)

namespace Json

/-- Every object in a value has different names, as every map has different keys. -/
inductive Value.NamesDiffer : Value → Prop
  | null : NamesDiffer .null
  | bool {value : Bool} : NamesDiffer (.bool value)
  | int {value : Int} : NamesDiffer (.int value)
  | double {number : Number.Double} : NamesDiffer (.double number)
  | string {value : String} : NamesDiffer (.string value)
  | array {items : List Value} (hitems : ∀ item ∈ items, NamesDiffer item) :
      NamesDiffer (.array items)
  | object {members : Table String Value} (hnames : members.keys.Nodup)
      (hmembers : ∀ member ∈ members, NamesDiffer member.2) : NamesDiffer (.object members)

/-- A text is read as a document that is equal to a value. -/
def ReadsEqual (text : String) (value : Value) : Prop :=
  ∃ document, parse text = .ok document ∧ document.Same value

/-- The canonical text of a value is read as an equal document below the limit on nesting. -/
theorem readsEqual_canonical_iff {value : Value} (hvalue : value.Representable) :
    ReadsEqual (canonical value) value ↔ value.depth < nestingLimit := by
  constructor
  · rintro ⟨document, hparse, -⟩
    exact (isDocument_canonical_iff hvalue).mp (isDocument_iff.mpr ⟨document, hparse⟩)
  · intro hdepth
    exact ⟨value, parse_canonical hvalue hdepth, hvalue.same_refl⟩

/-- At the limit on nesting and beyond it the canonical text of a value is no document. -/
theorem exists_refusal_canonical_iff {value : Value} (hvalue : value.Representable) :
    (∃ refusal, parse (canonical value) = .error refusal) ↔ nestingLimit ≤ value.depth := by
  rw [← not_lt, ← isDocument_canonical_iff hvalue, isDocument]
  cases parse (canonical value) <;> simp

end Json

namespace Datum

theorem mem_ofJsonMembers {members : List (String × Value)} {member : String × Value}
    (hmember : member ∈ members) :
    (text member.1, ofJson member.2) ∈ ofJsonMembers members := by
  induction members with
  | nil => cases hmember
  | cons first rest ih =>
      rw [ofJsonMembers]
      rcases List.mem_cons.mp hmember with rfl | hrest
      · exact List.mem_cons_self
      · exact List.mem_cons_of_mem _ (ih hrest)

/-- A value that has JSON text as a datum can be denoted by a text. -/
theorem representable_of_isPlain {room : Nat} {value : Value} (hdiffer : value.NamesDiffer)
    (hplain : (ofJson value).IsPlain room) : value.Representable := by
  induction hdiffer generalizing room with
  | null => exact .null
  | bool => exact .bool
  | int =>
      obtain ⟨⟨⟩⟩ | _ | _ | _ := hplain
      next hdigits =>
        exact .int ((Nat.length_toDigits_le_iff (by decide) (by decide)).mpr hdigits)
  | double =>
      obtain ⟨⟨⟩⟩ | _ | _ | _ := hplain
      next hfinite => exact .double hfinite
  | string => exact .string
  | array _ ih =>
      rw [ofJson, ofJsonItems_eq_map, isPlain_list_iff] at hplain
      obtain ⟨inner, -, hitems⟩ := hplain
      exact .array fun item hitem => ih item hitem (hitems _ (List.mem_map_of_mem hitem))
  | object hnames _ ih =>
      rw [ofJson, isPlain_map_iff] at hplain
      obtain ⟨inner, -, hentries⟩ := hplain
      exact .object hnames fun member hmember =>
        ih member hmember (hentries _ (mem_ofJsonMembers hmember)).2

theorem jsonItems?_ofJsonItems {items : List Value}
    (hitems : ∀ item ∈ items, (ofJson item).json? = some item) :
    jsonItems? (ofJsonItems items) = some items := by
  induction items with
  | nil => rfl
  | cons item rest ih =>
      obtain ⟨hitem, hrest⟩ := List.forall_mem_cons.mp hitems
      simp [ofJsonItems, jsonItems?, hitem, ih hrest]

theorem jsonMembers?_ofJsonMembers {members : List (String × Value)}
    (hmembers : ∀ member ∈ members, (ofJson member.2).json? = some member.2) :
    jsonMembers? (ofJsonMembers members) = some members := by
  induction members with
  | nil => rfl
  | cons member rest ih =>
      obtain ⟨hmember, hrest⟩ := List.forall_mem_cons.mp hmembers
      simp [ofJsonMembers, jsonMembers?, memberName?, hmember, ih hrest]

/-- A value that can be denoted by a text is the JSON value of itself as a datum. -/
theorem json?_ofJson {value : Value} (hvalue : value.Representable) :
    (ofJson value).json? = some value := by
  induction hvalue with
  | null => rfl
  | bool => rfl
  | int hlength =>
      have hfits := Number.fitsLimit_iff.mpr
        ((Nat.length_toDigits_le_iff (by decide) (by decide)).mp hlength)
      rw [ofJson, json?, if_pos hfits]
  | double hfinite => rw [ofJson, json?, if_pos hfinite]
  | string => rfl
  | array _ ih => rw [ofJson, json?, jsonItems?_ofJsonItems ih, Option.map_some]
  | object _ _ ih => rw [ofJson, json?, jsonMembers?_ofJsonMembers ih, Option.map_some]

/-- A value that is no string is written as its canonical text. -/
theorem rendered?_ofJson {value : Value} (hvalue : value.Representable)
    (hother : ∀ content, value ≠ .string content) :
    (ofJson value).rendered? = some (Json.canonical value) := by
  have hjson := json?_ofJson hvalue
  cases value with
  | string content => exact absurd rfl (hother content)
  | _ => exact congrArg (Option.map Json.canonical) hjson

end Datum

/-! ## Arrays inside each other -/

/-- Arrays inside each other, one more than the given number. -/
def Json.Value.nested : Nat → Value
  | 0 => .array []
  | levels + 1 => .array [nested levels]

section

open Json.Value (nested)

theorem depth_nested (levels : Nat) : (nested levels).depth = levels + 1 := by
  induction levels with
  | zero => rfl
  | succ levels ih => simp [nested, Value.depth, Value.depthOfItems, ih]

theorem representable_nested (levels : Nat) : (nested levels).Representable := by
  induction levels with
  | zero => exact .array (by simp)
  | succ levels ih => exact .array (by simpa using ih)

theorem namesDiffer_nested (levels : Nat) : (nested levels).NamesDiffer := by
  induction levels with
  | zero => exact .array (by simp)
  | succ levels ih => exact .array (by simpa using ih)

theorem exists_items_nested (levels : Nat) : ∃ items, nested levels = .array items := by
  cases levels <;> exact ⟨_, rfl⟩

theorem nested_ne_string (levels : Nat) (content : String) : nested levels ≠ .string content := by
  obtain ⟨items, hitems⟩ := exists_items_nested levels
  simp [hitems]

theorem isPlain_nested_iff {levels room : Nat} :
    (Datum.ofJson (nested levels)).IsPlain room ↔ levels < room := by
  rw [← Datum.isJson_iff, Datum.isJson_iff_exists, Datum.json?_ofJson (representable_nested levels)]
  simp [depth_nested]

theorem isJson_nested {levels room : Nat} (hroom : levels < room) :
    (Datum.ofJson (.nested levels)).isJson room = true :=
  Datum.isJson_iff.mpr (isPlain_nested_iff.mpr hroom)

/-- Nested arrays take one level more than there is room for when the room is their number. -/
theorem not_isPlain_nested (room : Nat) : ¬ (Datum.ofJson (.nested room)).IsPlain room := by
  rw [isPlain_nested_iff]
  exact Nat.lt_irrefl room

end

end Assay
