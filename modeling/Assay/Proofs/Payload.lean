import Mathlib
import Assay.Payload
import Assay.Proofs.Datum.Json
import Assay.Proofs.Suite.Reader

/-! # The strict shape of payloads

A JSON value describes an assertion, or a response, if every field is there with its exact type.
The reviews accept exactly the values that describe something, and what is read is what they
describe.
-/

namespace Assay

open Json (Value)

namespace Payload

/-! ## Assertions -/

/-- A value describes an assertion: five texts and a truth value under their names. -/
structure DescribesAssertion (entry : Value) (assertion : Assertion) : Prop where
  id : entry.field? "id" = some (.string assertion.id)
  typeTag : entry.field? "type" = some (.string assertion.typeTag)
  property : entry.field? "property" = some (.string assertion.property)
  operatorTag : entry.field? "operator" = some (.string assertion.operatorTag)
  expected : entry.field? "expected" = some (.string assertion.expected)
  enabled : ∃ switch, entry.field? "enabled" = some (.bool switch) ∧
    assertion.enabled = some switch

theorem exists_members_of_field? {value child : Value} {name : String}
    (hfield : value.field? name = some child) : ∃ members, value = .object members := by
  cases value with
  | object members => exact ⟨members, rfl⟩
  | _ => simp [Value.field?] at hfield

/-- The review of an entry finds no error if all its fields have their types. -/
theorem reviewAssertion_isValid_iff {place : String} {entry : Value} :
    (reviewAssertion place (.ofJson entry)).isValid = true ↔
      ∃ assertion, DescribesAssertion entry assertion := by
  cases entry with
  | object members =>
      simp only [reviewAssertion, Datum.ofJson, Datum.entries?, textFields, List.map_cons,
        List.map_nil, Review.isValid_append, Review.isValid_join, Review.isValid_when_error,
        List.all_cons, List.all_nil, Bool.and_eq_true, Bool.not_eq_true',
        Option.isNone_eq_false_iff, Option.isSome_iff_exists, Datum.text?_member,
        Datum.bool?_member]
      constructor
      · rintro ⟨⟨⟨id, hid⟩, ⟨typeTag, htype⟩, ⟨property, hproperty⟩, ⟨operatorTag, hoperator⟩,
          ⟨expected, hexpected⟩, -⟩, switch, hswitch⟩
        exact ⟨⟨id, typeTag, property, operatorTag, expected, some switch⟩,
          hid, htype, hproperty, hoperator, hexpected, switch, hswitch, rfl⟩
      · rintro ⟨assertion, hdescribes⟩
        obtain ⟨switch, hswitch, -⟩ := hdescribes.enabled
        exact ⟨⟨⟨_, hdescribes.id⟩, ⟨_, hdescribes.typeTag⟩, ⟨_, hdescribes.property⟩,
          ⟨_, hdescribes.operatorTag⟩, ⟨_, hdescribes.expected⟩, trivial⟩, switch, hswitch⟩
  | _ =>
      simp only [reviewAssertion, Datum.ofJson, Datum.entries?, Review.isValid_error,
        Bool.false_eq_true, false_iff]
      rintro ⟨assertion, hdescribes⟩
      simpa [Value.field?] using hdescribes.id

/-- An assertion is read from a value that describes it. -/
theorem ofFields?_of_describes {entry : Value} {assertion : Assertion}
    (hdescribes : DescribesAssertion entry assertion) :
    (Datum.ofJson entry).entries?.bind Assertion.ofFields? = some assertion := by
  obtain ⟨members, rfl⟩ := exists_members_of_field? hdescribes.id
  obtain ⟨hid, htype, hproperty, hoperator, hexpected, switch, hswitch, henabled⟩ := hdescribes
  simp only [Value.field?] at hid htype hproperty hoperator hexpected hswitch
  refine Assertion.ofFields?_eq_some_iff.mpr ⟨Datum.text?_member.mpr hid,
    Datum.text?_member.mpr htype, ?_, Datum.text?_member.mpr hoperator, ?_, ?_⟩
  · rw [Datum.text?_member.mpr hproperty, Option.getD_some]
  · rw [Assertion.expectedOf?, Datum.fieldOf?_ofJsonMembers, hexpected]
    rfl
  · rw [Assertion.switchOf, Datum.fieldOf?_ofJsonMembers, hswitch, henabled]
    rfl

theorem isValid_join_mapIdx {review : Nat → Datum → Review} {Fits : Value → Prop}
    (hfits : ∀ index item, (review index (.ofJson item)).isValid = true ↔ Fits item)
    (items : List Value) :
    (Review.join ((items.map Datum.ofJson).mapIdx review)).isValid = true ↔
      ∀ item ∈ items, Fits item := by
  rw [Review.isValid_join, List.all_eq_true]
  induction items generalizing review with
  | nil => simp
  | cons item rest ih =>
      rw [List.map_cons, List.mapIdx_cons, List.forall_mem_cons, List.forall_mem_cons, hfits,
        ih fun index => hfits (index + 1)]

/-- Assertions are in order when they are an array of entries, each of which describes one. -/
theorem reviewAssertions_isValid_iff {payload : Value} :
    (reviewAssertions (.ofJson payload)).isValid = true ↔
      ∃ entries, payload = .array entries ∧
        ∀ entry ∈ entries, ∃ assertion, DescribesAssertion entry assertion := by
  cases payload with
  | array entries =>
      simp only [reviewAssertions, Datum.ofJson, Datum.items?, Datum.ofJsonItems_eq_map,
        Value.array.injEq, exists_eq_left']
      exact isValid_join_mapIdx (fun _ _ => reviewAssertion_isValid_iff) entries
  | _ => simp [reviewAssertions, Datum.ofJson, Datum.items?]

/-- The assertions of a payload are those that the entries of an array describe, in order. -/
theorem assertions?_eq_some_iff {payload : Value} {assertions : List Assertion} :
    assertions? (.ofJson payload) = some assertions ↔
      ∃ entries, payload = .array entries ∧
        List.Forall₂ DescribesAssertion entries assertions := by
  have hread : ∀ {entries : List Value} {described : List Assertion},
      List.Forall₂ DescribesAssertion entries described →
        (entries.map Datum.ofJson).mapM (fun entry => entry.entries?.bind Assertion.ofFields?) =
          some described := by
    intro entries described hdescribed
    rw [mapM_eq_some_iff, List.forall₂_map_left_iff]
    exact hdescribed.imp fun _ _ => ofFields?_of_describes
  unfold assertions?
  split
  next hvalid =>
    -- what the review has admitted is read as some list, and no other list is described
    obtain ⟨entries, rfl, hentries⟩ := reviewAssertions_isValid_iff.mp hvalid
    obtain ⟨described, hdescribed⟩ := exists_forall₂_iff.mpr hentries
    simp only [Datum.ofJson, Datum.items?, Datum.ofJsonItems_eq_map, Option.bind_some,
      hread hdescribed, Option.some.injEq]
    constructor
    · rintro rfl
      exact ⟨entries, rfl, hdescribed⟩
    · rintro ⟨_, ⟨⟩, hassertions⟩
      exact Option.some.inj ((hread hdescribed).symm.trans (hread hassertions))
  next hinvalid =>
    simp only [reduceCtorEq, false_iff]
    rintro ⟨entries, rfl, hdescribed⟩
    exact absurd (reviewAssertions_isValid_iff.mpr
      ⟨entries, rfl, exists_forall₂_iff.mp ⟨assertions, hdescribed⟩⟩) hinvalid

/-! ## Responses -/

/-- A value describes a response: two integers of a number of bits, texts under the names of the
headers, and the text of the body. -/
structure DescribesResponse (value : Value) (response : Response) : Prop where
  status : value.field? "statusCode" = some (.int response.status)
  statusRange : -2 ^ 31 ≤ response.status ∧ response.status ≤ 2 ^ 31 - 1
  headers : value.field? "headers" =
    some (.object (response.headers.map fun header => (header.1, .string header.2)))
  body : value.field? "body" = some (.string response.body)
  timing : value.field? "timingMs" = some (.int response.timing)
  timingRange : -2 ^ 63 ≤ response.timing ∧ response.timing ≤ 2 ^ 63 - 1

theorem isIntOf_iff {bits : Nat} {datum : Datum} :
    datum.isIntOf bits = true ↔ ∃ value : Int, datum.int? = some value ∧
      -2 ^ (bits - 1) ≤ value ∧ value ≤ 2 ^ (bits - 1) - 1 := by
  simp only [Datum.isIntOf, Option.any_eq_true, Bool.and_eq_true, decide_eq_true_eq, Nat.pow_eq,
    Int.natCast_pow, Int.cast_ofNat_Int, Int.le_sub_one_iff]

theorem isIntOf_member {bits : Nat} {members : List (String × Value)} {name : String} :
    (Datum.fieldOf (Datum.ofJsonMembers members) name).isIntOf bits = true ↔
      ∃ content : Int, Table.get? members name = some (.int content) ∧
        -2 ^ (bits - 1) ≤ content ∧ content ≤ 2 ^ (bits - 1) - 1 := by
  simp only [isIntOf_iff, Datum.int?_member]

theorem reviewHeader_isValid_iff {name : String} {value : Value} :
    (reviewHeader .strict (.text name) (.ofJson value)).isValid = true ↔
      ∃ content, value = .string content := by
  have hname : (Datum.text name).text?.isNone = false := rfl
  simp only [reviewHeader, hname, Rigour.admitsHeader, Review.isValid_when_error, Bool.false_or,
    Bool.not_not, Option.isSome_iff_exists, Datum.text?_ofJson]

/-- Headers are in order exactly when they are those of a table of texts. -/
theorem all_reviewHeader_iff {headers : List (String × Value)} :
    ((Datum.ofJsonMembers headers).all fun header =>
        (reviewHeader .strict header.1 header.2).isValid) = true ↔
      ∃ table : Table String String,
        headers = table.map fun header => (header.1, .string header.2) := by
  induction headers with
  | nil => exact ⟨fun _ => ⟨[], rfl⟩, fun _ => rfl⟩
  | cons header rest ih =>
      obtain ⟨name, value⟩ := header
      rw [Datum.ofJsonMembers, List.all_cons, Bool.and_eq_true, ih, reviewHeader_isValid_iff]
      constructor
      · rintro ⟨⟨content, rfl⟩, table, rfl⟩
        exact ⟨(name, content) :: table, rfl⟩
      · rintro ⟨table, htable⟩
        obtain ⟨entry, others, rfl, hentry, hothers⟩ := List.map_eq_cons_iff.mp htable.symm
        exact ⟨⟨entry.2, (congrArg Prod.snd hentry).symm⟩, others, hothers.symm⟩

theorem reviewHeaders_isValid_iff {members : List (String × Value)} {name : String} :
    (reviewHeaders .strict (Datum.fieldOf (Datum.ofJsonMembers members) name)).isValid = true ↔
      ∃ headers : Table String String, Table.get? members name =
        some (.object (headers.map fun header => (header.1, .string header.2))) := by
  rw [Datum.fieldOf, Datum.fieldOf?_ofJsonMembers]
  cases Table.get? members name with
  | none => simp [reviewHeaders, Datum.entries?]
  | some value =>
      cases value with
      | object headers =>
          simp only [Option.map_some, Option.getD_some, Datum.ofJson, reviewHeaders,
            Datum.entries?, Review.isValid_join, List.all_map]
          simpa using all_reviewHeader_iff
      | _ => simp [reviewHeaders, Datum.ofJson, Datum.entries?]

theorem reviewBody_isValid_iff {members : List (String × Value)} {name : String} :
    (reviewBody .strict (Datum.fieldOf? (Datum.ofJsonMembers members) name)).isValid = true ↔
      ∃ body, Table.get? members name = some (.string body) := by
  rw [Datum.fieldOf?_ofJsonMembers]
  cases Table.get? members name with
  | none => simp [reviewBody]
  | some value => cases value <;> simp [reviewBody, Datum.ofJson]

/-- A payload is in order when it describes a response. -/
theorem reviewResponse_isValid_iff {value : Value} :
    (reviewResponse .strict (.ofJson value)).isValid = true ↔
      ∃ response, DescribesResponse value response := by
  cases value with
  | object members =>
      simp only [reviewResponse, Datum.ofJson, Datum.entries?, Review.isValid_append,
        Review.isValid_when_error, Bool.not_not, Bool.and_eq_true, isIntOf_member,
        reviewHeaders_isValid_iff, reviewBody_isValid_iff]
      constructor
      · rintro ⟨⟨⟨⟨status, hstatus, hstatusRange⟩, timing, htiming, htimingRange⟩,
          headers, hheaders⟩, body, hbody⟩
        exact ⟨⟨status, headers, body, timing⟩, hstatus, hstatusRange, hheaders, hbody, htiming,
          htimingRange⟩
      · rintro ⟨response, hdescribes⟩
        exact ⟨⟨⟨⟨_, hdescribes.status, hdescribes.statusRange⟩, _, hdescribes.timing,
          hdescribes.timingRange⟩, _, hdescribes.headers⟩, _, hdescribes.body⟩
  | _ =>
      simp only [reviewResponse, Datum.ofJson, Datum.entries?, Review.isValid_error,
        Bool.false_eq_true, false_iff]
      rintro ⟨response, hdescribes⟩
      simpa [Value.field?] using hdescribes.body

/-- The table of the headers is read from the values that stand for its texts. -/
theorem tableOf?_strings (table : Table String String) :
    Suite.tableOf? (Datum.ofJsonMembers (table.map fun entry => (entry.1, .string entry.2))) =
      some table := by
  rw [Suite.tableOf?, mapM_eq_some_iff]
  induction table with
  | nil => exact .nil
  | cons entry rest ih => exact .cons rfl ih

/-- A response is read from a value that describes it. -/
theorem ofFields?_of_describesResponse {value : Value} {response : Response}
    (hdescribes : DescribesResponse value response) :
    (Datum.ofJson value).entries?.bind Response.ofFields? = some response := by
  obtain ⟨members, rfl⟩ := exists_members_of_field? hdescribes.body
  obtain ⟨hstatus, -, hheaders, hbody, htiming, -⟩ := hdescribes
  simp only [Value.field?] at hstatus hheaders hbody htiming
  have htable : (Datum.fieldOf (Datum.ofJsonMembers members) "headers").entries? =
      some (Datum.ofJsonMembers
        (response.headers.map fun header => (header.1, .string header.2))) := by
    rw [Datum.fieldOf, Datum.fieldOf?_ofJsonMembers, hheaders]
    rfl
  have hcontent : Datum.fieldOf? (Datum.ofJsonMembers members) "body" =
      some (.text response.body) := by
    rw [Datum.fieldOf?_ofJsonMembers, hbody]
    rfl
  simp [Datum.ofJson, Datum.entries?, Response.ofFields?, Datum.int?_member.mpr hstatus,
    Datum.int?_member.mpr htiming, htable, tableOf?_strings, hcontent, Datum.rendered?]

/-- The response of a payload is the one that it describes. -/
theorem response?_eq_some_iff {payload : Value} {response : Response} :
    response? (.ofJson payload) = some response ↔ DescribesResponse payload response := by
  unfold response?
  split
  next hvalid =>
    obtain ⟨described, hdescribed⟩ := reviewResponse_isValid_iff.mp hvalid
    rw [ofFields?_of_describesResponse hdescribed, Option.some.injEq]
    constructor
    · rintro rfl
      exact hdescribed
    · intro hresponse
      have hread := ofFields?_of_describesResponse hresponse
      rw [ofFields?_of_describesResponse hdescribed] at hread
      exact Option.some.inj hread
  next hinvalid =>
    simp only [reduceCtorEq, false_iff]
    exact fun hdescribes => hinvalid (reviewResponse_isValid_iff.mpr ⟨response, hdescribes⟩)

end Payload

end Assay
