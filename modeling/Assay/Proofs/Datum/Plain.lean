import Assay.Proofs.Datum.Json
import Assay.Proofs.Number.Rounding

/-! # Plain data

The data that have JSON text, said without the reading of them as JSON values: scalars, and lists,
pairs and maps of plain data, where the keys of a map are scalars. A label on a collection that
contains itself is not plain.
-/

namespace Assay

namespace Number

/-- The integers that are written and read are those of at most so many digits. -/
theorem fitsLimit_iff {value : Int} :
    fitsLimit value = true ↔ value.natAbs < 10 ^ digitLimit := by
  rw [fitsLimit, decide_eq_true_eq]
  rcases Nat.eq_zero_or_pos value.natAbs with hzero | hpos
  · rw [hzero]
    exact iff_of_true (Nat.zero_le _) (Nat.pow_pos (by decide))
  · have hnonzero := Nat.pos_iff_ne_zero.mp hpos
    constructor
    · intro hcount
      exact (lt_ten_pow_digitCount hnonzero).trans_le (Nat.pow_le_pow_right (by decide) hcount)
    · intro hlt
      have hpow := (ten_pow_le_of_digitCount hnonzero).trans_lt hlt
      have hcount := (Nat.pow_lt_pow_iff_right (by decide)).mp hpow
      omega

end Number

namespace Datum

open Number (Double digitLimit)

/-- Induction on data, where a property of a collection follows from that of all its parts. -/
@[induction_eliminator]
theorem induction {motive : Datum → Prop} (null : motive .null)
    (bool : ∀ value, motive (.bool value)) (int : ∀ value, motive (.int value))
    (double : ∀ value, motive (.double value)) (text : ∀ value, motive (.text value))
    (bytes : ∀ value, motive (.bytes value)) (date : ∀ value, motive (.date value))
    (moment : ∀ value, motive (.moment value))
    (set : ∀ members, (∀ member ∈ members, motive member) → motive (.set members))
    (pair : ∀ left right, motive left → motive right → motive (.pair left right))
    (list : ∀ items, (∀ item ∈ items, motive item) → motive (.list items))
    (map : ∀ entries, (∀ entry ∈ entries, motive entry.2) → motive (.map entries))
    (knot : ∀ label body, motive body → motive (.knot label body)) (datum : Datum) :
    motive datum :=
  Datum.rec (motive_1 := motive) (motive_2 := fun items => ∀ item ∈ items, motive item)
    (motive_3 := fun entries => ∀ entry ∈ entries, motive entry.2)
    (motive_4 := fun entry => motive entry.2) null bool int double text bytes date moment set
    pair list map knot (fun _ hmem => nomatch hmem)
    (fun _ _ hitem hitems => List.forall_mem_cons.mpr ⟨hitem, hitems⟩)
    (fun _ hmem => nomatch hmem)
    (fun _ _ hentry hentries => List.forall_mem_cons.mpr ⟨hentry, hentries⟩)
    (fun _ _ _ hvalue => hvalue) datum

/-- A scalar: null, a truth value, a text, a finite number, or an integer that is not too long. -/
inductive IsPlainScalar : Datum → Prop
  | null : IsPlainScalar .null
  | bool (value : Bool) : IsPlainScalar (.bool value)
  | text (value : String) : IsPlainScalar (.text value)
  | double {value : Double} (hfinite : value.isFinite = true) : IsPlainScalar (.double value)
  | int {value : Int} (hdigits : value.natAbs < 10 ^ digitLimit) : IsPlainScalar (.int value)

/-- A datum that has JSON text, with no more than so many levels of collections. -/
inductive IsPlain : Nat → Datum → Prop
  | scalar {room : Nat} {value : Datum} (hscalar : value.IsPlainScalar) : IsPlain room value
  | pair {room : Nat} {left right : Datum} (hleft : IsPlain room left)
      (hright : IsPlain room right) : IsPlain (room + 1) (.pair left right)
  | list {room : Nat} {items : List Datum} (hitems : ∀ item ∈ items, IsPlain room item) :
      IsPlain (room + 1) (.list items)
  | map {room : Nat} {entries : List (Datum × Datum)}
      (hkeys : ∀ entry ∈ entries, entry.1.IsPlainScalar)
      (hvalues : ∀ entry ∈ entries, IsPlain room entry.2) : IsPlain (room + 1) (.map entries)

theorem isScalar_iff {datum : Datum} : datum.isScalar = true ↔ datum.IsPlainScalar := by
  constructor
  · intro hscalar
    cases datum <;> simp only [isScalar, Bool.false_eq_true] at hscalar
    case null => exact .null
    case bool value => exact .bool value
    case int value => exact .int (Number.fitsLimit_iff.mp hscalar)
    case double value => exact .double hscalar
    case text value => exact .text value
  · rintro (_ | value | value | hfinite | hdigits)
    · rfl
    · rfl
    · rfl
    · exact hfinite
    · exact Number.fitsLimit_iff.mpr hdigits

/-- A key becomes the name of a member exactly if it is a scalar. -/
theorem isSome_memberName?_iff {key : Datum} :
    key.memberName?.isSome = true ↔ key.IsPlainScalar := by
  rw [← isScalar_iff]
  cases key <;> simp [memberName?, isScalar]

/-- Whether a datum is no collection that may have JSON text. -/
def isSimple : Datum → Bool
  | pair .. | list _ | map _ => false
  | _ => true

variable {room : Nat}

theorem isJson_iff_exists {datum : Datum} :
    datum.isJson room = true ↔ ∃ value, datum.json? = some value ∧ value.depth ≤ room := by
  simp [isJson, Option.any_eq_true]

theorem isJson_iff_of_isSimple {datum : Datum} (hsimple : datum.isSimple = true) :
    datum.isJson room = true ↔ datum.IsPlain room := by
  have hscalar : datum.isJson room = datum.isScalar := by
    cases datum <;> simp only [isSimple, Bool.false_eq_true] at hsimple <;>
      simp only [isJson, json?, isScalar, Option.any_some, Option.any_none, Json.Value.depth,
        Nat.zero_le, decide_true]
    all_goals split <;> simp_all [Json.Value.depth]
  rw [hscalar, isScalar_iff]
  constructor
  · exact .scalar
  · rintro (hscalar | _ | _ | _)
    · exact hscalar
    all_goals simp [isSimple] at hsimple

/-! ## Collections -/

theorem isPlain_pair_iff {left right : Datum} :
    (pair left right).IsPlain room ↔
      ∃ inner, room = inner + 1 ∧ left.IsPlain inner ∧ right.IsPlain inner := by
  constructor
  · rintro (⟨⟨⟩⟩ | ⟨hleft, hright⟩)
    exact ⟨_, rfl, hleft, hright⟩
  · rintro ⟨inner, rfl, hleft, hright⟩
    exact .pair hleft hright

theorem isPlain_list_iff {items : List Datum} :
    (list items).IsPlain room ↔ ∃ inner, room = inner + 1 ∧ ∀ item ∈ items, item.IsPlain inner := by
  constructor
  · rintro (⟨⟨⟩⟩ | _ | hitems)
    exact ⟨_, rfl, hitems⟩
  · rintro ⟨inner, rfl, hitems⟩
    exact .list hitems

/-- Keys take no room, and the values of a map one level less than the map. -/
theorem isPlain_map_iff {entries : List (Datum × Datum)} :
    (map entries).IsPlain room ↔
      ∃ inner, room = inner + 1 ∧
        ∀ entry ∈ entries, entry.1.IsPlainScalar ∧ entry.2.IsPlain inner := by
  constructor
  · rintro (⟨⟨⟩⟩ | _ | _ | ⟨hkeys, hvalues⟩)
    exact ⟨_, rfl, fun entry hentry => ⟨hkeys entry hentry, hvalues entry hentry⟩⟩
  · rintro ⟨inner, rfl, hentries⟩
    exact .map (fun entry hentry => (hentries entry hentry).1)
      fun entry hentry => (hentries entry hentry).2

/-- A collection takes one level more than what is in it. -/
theorem exists_collection_iff {α : Type} {read : Option α} {collect : α → Json.Value}
    {depth : α → Nat} (hdepth : ∀ content, (collect content).depth = depth content + 1) :
    (∃ value, read.map collect = some value ∧ value.depth ≤ room) ↔
      ∃ inner, room = inner + 1 ∧ ∃ content, read = some content ∧ depth content ≤ inner := by
  cases read with
  | none => simp
  | some content =>
      simp only [Option.map_some, Option.some.injEq, exists_eq_left', hdepth]
      constructor
      · exact fun hroom => ⟨room - 1, by omega, by omega⟩
      · rintro ⟨inner, rfl, hinner⟩
        exact Nat.succ_le_succ hinner

/-- Items have values of no more than so many levels when each of them has. -/
theorem exists_jsonItems?_iff {items : List Datum} :
    (∃ values, jsonItems? items = some values ∧ Json.Value.depthOfItems values ≤ room) ↔
      ∀ item ∈ items, item.isJson room = true := by
  induction items with
  | nil => simp [jsonItems?, Json.Value.depthOfItems]
  | cons item rest ih =>
      rw [List.forall_mem_cons, ← ih, isJson_iff_exists, jsonItems?]
      cases item.json? <;> cases jsonItems? rest <;>
        simp [Json.Value.depthOfItems, and_comm]

theorem exists_jsonMembers?_iff {entries : List (Datum × Datum)} :
    (∃ members, jsonMembers? entries = some members ∧ Json.Value.depthOfMembers members ≤ room) ↔
      ∀ entry ∈ entries, entry.1.memberName?.isSome = true ∧ entry.2.isJson room = true := by
  induction entries with
  | nil => simp [jsonMembers?, Json.Value.depthOfMembers]
  | cons entry rest ih =>
      obtain ⟨key, value⟩ := entry
      rw [List.forall_mem_cons, ← ih, isJson_iff_exists, jsonMembers?]
      cases key.memberName? <;> cases value.json? <;> cases jsonMembers? rest <;>
        simp [Json.Value.depthOfMembers]

/-- A pair is written as the list of its two parts. -/
theorem json?_pair (left right : Datum) : json? (pair left right) = json? (list [left, right]) := by
  simp only [json?, jsonItems?]
  cases left.json? <;> cases right.json? <;> rfl

/-- A list is looked into from one call further down. -/
theorem isJson_list_iff {items : List Datum} :
    (list items).isJson room = true ↔
      ∃ inner, room = inner + 1 ∧ ∀ item ∈ items, item.isJson inner = true := by
  rw [isJson_iff_exists, json?, exists_collection_iff fun _ => rfl]
  simp only [exists_jsonItems?_iff]

/-- A map is looked into from one call further down, once its keys are found to be names. -/
theorem isJson_map_iff {entries : List (Datum × Datum)} :
    (map entries).isJson room = true ↔
      ∃ inner, room = inner + 1 ∧
        ∀ entry ∈ entries, entry.1.memberName?.isSome = true ∧ entry.2.isJson inner = true := by
  rw [isJson_iff_exists, json?, exists_collection_iff fun _ => rfl]
  simp only [exists_jsonMembers?_iff]

/-- A datum has JSON text that can be written exactly if it is plain. -/
theorem isJson_iff {datum : Datum} : datum.isJson room = true ↔ datum.IsPlain room := by
  induction datum generalizing room with
  | pair left right hleft hright =>
      have hlist : (pair left right).isJson room = (list [left, right]).isJson room := by
        rw [isJson, json?_pair, isJson]
      simp only [hlist, isJson_list_iff, isPlain_pair_iff, List.forall_mem_cons, hleft, hright,
        List.not_mem_nil, false_imp_iff, implies_true, and_true]
  | list items hitems =>
      rw [isJson_list_iff, isPlain_list_iff]
      exact exists_congr fun inner => and_congr_right fun _ => forall₂_congr fun item hitem =>
        hitems item hitem
  | map entries hentries =>
      rw [isJson_map_iff, isPlain_map_iff]
      exact exists_congr fun inner => and_congr_right fun _ => forall₂_congr fun entry hentry =>
        and_congr isSome_memberName?_iff (hentries entry hentry)
  | _ => exact isJson_iff_of_isSimple rfl

/-- A datum that is known to have JSON text fits exactly if a writer can write it. -/
theorem fits_eq_isJson {more : Nat} {datum : Datum} (hjson : datum.isJson more = true) :
    datum.fits room = datum.isJson room := by
  obtain ⟨value, hvalue, -⟩ := isJson_iff_exists.mp hjson
  rw [fits, isJson, hvalue, Option.all_some, Option.any_some]

end Datum

end Assay
