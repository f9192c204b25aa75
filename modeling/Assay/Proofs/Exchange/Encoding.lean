import Assay.Exchange
import Assay.Proofs.Json.RoundTrip
import Assay.Proofs.Payload

/-! # What is exchanged is read back

Assertions, responses and verdicts are written as shallow objects of texts, truth values and
integers. Such objects are read back from their canonical text, and they describe what they were
written for.
-/

namespace Assay.Exchange

open Json (Value)

/-- A value that can be written, with a bound on its depth. -/
structure Shallow (depth : Nat) (value : Value) : Prop where
  representable : value.Representable
  depth_le : value.depth ≤ depth

variable {depth : Nat}

theorem Shallow.parse_canonical {value : Value} (hvalue : Shallow depth value)
    (hdepth : depth < Json.nestingLimit) : Json.parse (Json.canonical value) = .ok value :=
  Json.parse_canonical hvalue.representable (lt_of_le_of_lt hvalue.depth_le hdepth)

@[simp] theorem Shallow.null : Shallow depth .null := ⟨.null, Nat.zero_le _⟩

@[simp] theorem Shallow.bool {value : Bool} : Shallow depth (.bool value) := ⟨.bool, Nat.zero_le _⟩

@[simp] theorem Shallow.string {value : String} : Shallow depth (.string value) :=
  ⟨.string, Nat.zero_le _⟩

/-- An integer with few enough digits is short enough to be written. -/
theorem Shallow.int_of_natAbs_lt {value : Int} (hdigits : value.natAbs < 10 ^ Number.digitLimit) :
    Shallow depth (.int value) :=
  ⟨.int ((Nat.length_toDigits_le_iff (by decide) (by decide)).mpr hdigits), Nat.zero_le _⟩

/-- An integer that fits into a machine word is short enough to be written. -/
theorem Shallow.int {value : Int} (hlow : -2 ^ 63 ≤ value) (hhigh : value ≤ 2 ^ 63 - 1) :
    Shallow depth (.int value) := by
  have hword : value.natAbs < 10 ^ 19 := by omega
  exact .int_of_natAbs_lt (lt_of_lt_of_le hword (Nat.pow_le_pow_right (by decide) (by decide)))

theorem Shallow.array {items : List Value} (hitems : ∀ item ∈ items, Shallow depth item) :
    Shallow (depth + 1) (.array items) where
  representable := .array fun item hitem => (hitems item hitem).representable
  depth_le := Nat.succ_le_succ
    (Value.depthOfItems_le_iff.mpr fun item hitem => (hitems item hitem).depth_le)

theorem Shallow.object {members : Table String Value} (hnames : members.keys.Nodup)
    (hmembers : ∀ member ∈ members, Shallow depth member.2) :
    Shallow (depth + 1) (.object members) where
  representable := .object hnames fun member hmember => (hmembers member hmember).representable
  depth_le := Nat.succ_le_succ
    (Value.depthOfMembers_le_iff.mpr fun member hmember => (hmembers member hmember).depth_le)

/-- A list of things that are written as shallow values is read back. -/
theorem parse_list {α : Type} {write : α → Value} (hwrite : ∀ thing, Shallow 1 (write thing))
    (things : List α) :
    Json.parse (Json.canonical (.array (things.map write))) = .ok (.array (things.map write)) := by
  have hlist : Shallow 2 (.array (things.map write)) := .array (by simp [hwrite])
  exact hlist.parse_canonical (by decide)

/-! ## Verdicts and assertions -/

theorem shallow_verdictJson (verdict : Verdict) : Shallow 1 (verdictJson verdict) :=
  .object (by simp [Table.keys]) (by simp)

theorem shallow_assertionJson (assertion : Assertion) : Shallow 1 (assertionJson assertion) := by
  refine .object (by simp [Table.keys]) ?_
  cases assertion.enabled <;> simp

/-- An assertion with a switch is described by its JSON value. -/
theorem describes_assertionJson {assertion : Assertion} {switch : Bool}
    (hswitch : assertion.enabled = some switch) :
    Payload.DescribesAssertion (assertionJson assertion) assertion where
  id := rfl
  typeTag := rfl
  property := rfl
  operatorTag := rfl
  expected := rfl
  enabled := ⟨switch, by simp [assertionJson, hswitch, Value.field?, Table.get?], hswitch⟩

/-! ## Responses -/

theorem shallow_headers {headers : Table String String} (hnames : headers.keys.Nodup) :
    Shallow 1 (.object (headers.map fun header => (header.1, .string header.2))) := by
  refine .object ?_ ?_
  · simpa [Table.keys, Function.comp_def] using hnames
  · intro member hmember
    obtain ⟨header, -, rfl⟩ := List.mem_map.mp hmember
    exact .string

/-- A response is read back if its integers fit into machine words and its headers have different
names. -/
theorem parse_response {response : Response}
    (hstatus : -2 ^ 31 ≤ response.status ∧ response.status ≤ 2 ^ 31 - 1)
    (htiming : -2 ^ 63 ≤ response.timing ∧ response.timing ≤ 2 ^ 63 - 1)
    (hnames : response.headers.keys.Nodup) :
    Json.parse (Json.canonical (responseJson response)) = .ok (responseJson response) := by
  have hcode : Shallow 1 (.int response.status) := .int (by omega) (by omega)
  have htime : Shallow 1 (.int response.timing) := .int htiming.1 htiming.2
  have hresponse : Shallow 2 (responseJson response) :=
    .object (by simp [Table.keys]) (by simp [hcode, htime, shallow_headers hnames])
  exact hresponse.parse_canonical (by decide)

/-- A response whose integers are in range is described by the value it is encoded as. -/
theorem describes_responseJson {response : Response}
    (hstatus : -2 ^ 31 ≤ response.status ∧ response.status ≤ 2 ^ 31 - 1)
    (htiming : -2 ^ 63 ≤ response.timing ∧ response.timing ≤ 2 ^ 63 - 1) :
    Payload.DescribesResponse (responseJson response) response where
  status := rfl
  statusRange := hstatus
  headers := rfl
  body := rfl
  timing := rfl
  timingRange := htiming

end Assay.Exchange
