import Assay.Proofs.Datum.Structured
import Assay.Proofs.Exchange.Encoding
import Assay.Proofs.Suite.Reader
import Assay.Proofs.Suite.Shape

/-! # Loosely described responses

A loose description admits what a strict one admits, and scalars as headers and any datum with JSON
text as a body beside it. A strict description is taken word for word. Any other one is brought into
strict form by being read: the response, described again, is admitted as strict and is read as
itself. Only a body that takes all the room of the review exhausts the stack before that, as it is
read one call deeper.
-/

namespace Assay.Payload

open Datum (fieldOf fieldOf?)

variable {fields : List (Datum × Datum)} {payload : Datum} {response : Response} {room : Nat}
  {rigour : Rigour}

/-! ## Reviews -/

/-- What a review asks of the fields of a response. -/
structure Admits (rigour : Rigour) (fields : List (Datum × Datum)) : Prop where
  status : (fieldOf fields "statusCode").isIntOf 32 = true
  timing : (fieldOf fields "timingMs").isIntOf 64 = true
  headers : (reviewHeaders rigour (fieldOf fields "headers")).isValid = true
  body : (reviewBody rigour (fieldOf? fields "body")).isValid = true

/-- The fields of a response are in order when the rigour admits them. -/
theorem isValid_reviewResponse_iff :
    (reviewResponse rigour payload).isValid = true ↔
      ∃ fields, payload.entries? = some fields ∧ Admits rigour fields := by
  unfold reviewResponse
  cases payload.entries? with
  | none => simp
  | some fields =>
      simp only [Review.isValid_append, Review.isValid_when_error, Bool.not_not, Bool.and_eq_true,
        Option.some.injEq, exists_eq_left']
      constructor
      · rintro ⟨⟨⟨hstatus, htiming⟩, hheaders⟩, hbody⟩
        exact ⟨hstatus, htiming, hheaders, hbody⟩
      · rintro ⟨hstatus, htiming, hheaders, hbody⟩
        exact ⟨⟨⟨hstatus, htiming⟩, hheaders⟩, hbody⟩

/-- The headers of a description, with names that are texts and values of some form. -/
theorem isValid_reviewHeaders_iff {headers : Datum} :
    (reviewHeaders rigour headers).isValid = true ↔
      ∃ entries, headers.entries? = some entries ∧ ∀ entry ∈ entries,
        (∃ name, entry.1.text? = some name) ∧ rigour.admitsHeader entry.2 = true := by
  unfold reviewHeaders
  cases headers.entries? with
  | none => simp
  | some entries =>
      simp [Review.isValid_join, reviewHeader, Option.isSome_iff_exists]

/-- Without rigour a body is in order when it has JSON text that the stack leaves room for. -/
theorem loose_reviewBody_isValid_iff {body : Option Datum} :
    (reviewBody (.loose room) body).isValid = true ↔
      ∃ value, body = some value ∧ value.isJson room = true := by
  cases body with
  | none => simp [reviewBody]
  | some value =>
      have htext : ∀ content, (Datum.text content).isJson room = true := fun content =>
        Datum.isJson_of_isScalar _ rfl
      cases value <;> simp [reviewBody, htext]

theorem strict_reviewBody_isValid_iff {body : Option Datum} :
    (reviewBody .strict body).isValid = true ↔ ∃ content, body = some (.text content) := by
  unfold reviewBody
  split <;> simp_all

theorem isScalar_of_text? {datum : Datum} (htext : datum.text?.isSome = true) :
    datum.isScalar = true := by
  obtain ⟨content, hcontent⟩ := Option.isSome_iff_exists.mp htext
  rw [Datum.text?_eq_some_iff.mp hcontent]
  rfl

/-- A loose review admits what a strict one admits. -/
theorem Admits.loosen (hadmits : Admits .strict fields) : Admits (.loose room) fields where
  status := hadmits.status
  timing := hadmits.timing
  headers := by
    obtain ⟨entries, hentries, htexts⟩ := isValid_reviewHeaders_iff.mp hadmits.headers
    refine isValid_reviewHeaders_iff.mpr ⟨entries, hentries, fun entry hentry => ?_⟩
    obtain ⟨hname, hvalue⟩ := htexts entry hentry
    exact ⟨hname, isScalar_of_text? hvalue⟩
  body := by
    obtain ⟨content, hcontent⟩ := strict_reviewBody_isValid_iff.mp hadmits.body
    exact loose_reviewBody_isValid_iff.mpr
      ⟨.text content, hcontent, Datum.isJson_of_isScalar _ rfl⟩

/-! ## Reading -/

/-- What a response takes from its fields. -/
structure ReadsResponse (fields : List (Datum × Datum)) (response : Response) : Prop where
  status : (fieldOf fields "statusCode").int? = some response.status
  headers : ∃ entries, (fieldOf fields "headers").entries? = some entries ∧
    Suite.tableOf? entries = some response.headers
  body : ∃ value, fieldOf? fields "body" = some value ∧ value.rendered? = some response.body
  timing : (fieldOf fields "timingMs").int? = some response.timing

theorem ofFields?_eq_some_iff :
    Response.ofFields? fields = some response ↔ ReadsResponse fields response := by
  simp only [Response.ofFields?, Option.bind_eq_bind, Option.bind_eq_some_iff, Option.pure_def,
    Option.some.injEq]
  constructor
  · rintro ⟨status, hstatus, entries, hentries, table, htable, value, hvalue, body, hbody,
      timing, htiming, rfl⟩
    exact ⟨hstatus, ⟨entries, hentries, htable⟩, ⟨value, hvalue, hbody⟩, htiming⟩
  · rintro ⟨hstatus, ⟨entries, hentries, htable⟩, ⟨value, hvalue, hbody⟩, htiming⟩
    exact ⟨_, hstatus, entries, hentries, _, htable, value, hvalue, _, hbody, _, htiming, rfl⟩

/-- A response can be read from fields that a loose review admits. -/
theorem Admits.exists_response (hadmits : Admits (.loose room) fields) :
    ∃ response, Response.ofFields? fields = some response := by
  obtain ⟨status, hstatus, -⟩ := isIntOf_iff.mp hadmits.status
  obtain ⟨timing, htiming, -⟩ := isIntOf_iff.mp hadmits.timing
  obtain ⟨headers, hheaders, hfits⟩ := isValid_reviewHeaders_iff.mp hadmits.headers
  obtain ⟨body, hbody, hjson⟩ := loose_reviewBody_isValid_iff.mp hadmits.body
  obtain ⟨table, htable⟩ := Suite.AreVariables.exists_table (Or.inr ⟨headers, hheaders, hfits⟩)
  obtain ⟨content, hcontent⟩ := Datum.exists_rendered_of_isJson hjson
  rw [hheaders, Option.getD_some] at htable
  exact ⟨⟨status, table, content, timing⟩, ofFields?_eq_some_iff.mpr
    ⟨hstatus, ⟨headers, hheaders, htable⟩, ⟨body, hbody, hcontent⟩, htiming⟩⟩

/-! ## Strict descriptions -/

/-- The fields of a description give a response word for word. -/
structure Spells (fields : List (Datum × Datum)) (response : Response) : Prop where
  status : fieldOf? fields "statusCode" = some (.int response.status)
  timing : fieldOf? fields "timingMs" = some (.int response.timing)
  headers : (fieldOf fields "headers").entries? =
    some (response.headers.map fun header => (.text header.1, .text header.2))
  body : fieldOf? fields "body" = some (.text response.body)

/-- Entries of texts are those of a table of texts. -/
theorem exists_table_of_texts {entries : List (Datum × Datum)}
    (htexts : ∀ entry ∈ entries, (∃ name, entry.1.text? = some name) ∧
      entry.2.text?.isSome = true) :
    ∃ table : Table String String,
      entries = table.map fun header => (.text header.1, .text header.2) := by
  induction entries with
  | nil => exact ⟨[], rfl⟩
  | cons entry rest ih =>
      obtain ⟨⟨⟨name, hname⟩, hvalue⟩, hrest⟩ := List.forall_mem_cons.mp htexts
      obtain ⟨content, hcontent⟩ := Option.isSome_iff_exists.mp hvalue
      obtain ⟨table, rfl⟩ := ih hrest
      refine ⟨(name, content) :: table, ?_⟩
      rw [List.map_cons, ← Datum.text?_eq_some_iff.mp hname, ← Datum.text?_eq_some_iff.mp hcontent]

/-- Fields that a strict review admits give a response word for word. -/
theorem Admits.exists_spelled (hadmits : Admits .strict fields) :
    ∃ response, Spells fields response := by
  obtain ⟨status, hstatus, -⟩ := isIntOf_iff.mp hadmits.status
  obtain ⟨timing, htiming, -⟩ := isIntOf_iff.mp hadmits.timing
  obtain ⟨entries, hentries, htexts⟩ := isValid_reviewHeaders_iff.mp hadmits.headers
  obtain ⟨table, rfl⟩ := exists_table_of_texts htexts
  obtain ⟨content, hcontent⟩ := strict_reviewBody_isValid_iff.mp hadmits.body
  exact ⟨⟨status, table, content, timing⟩, Datum.int?_fieldOf_iff.mp hstatus,
    Datum.int?_fieldOf_iff.mp htiming, hentries, hcontent⟩

theorem tableOf?_texts (table : Table String String) :
    Suite.tableOf? (table.map fun header => (.text header.1, .text header.2)) = some table := by
  rw [Suite.tableOf?, mapM_eq_some_iff, List.forall₂_map_left_iff, List.forall₂_same]
  exact fun _ _ => rfl

/-- A response that is given word for word is read so. -/
theorem Spells.ofFields? (hspells : Spells fields response) :
    Response.ofFields? fields = some response :=
  ofFields?_eq_some_iff.mpr
    { status := Datum.int?_fieldOf_iff.mpr hspells.status
      headers := ⟨_, hspells.headers, tableOf?_texts response.headers⟩
      body := ⟨_, hspells.body, rfl⟩
      timing := Datum.int?_fieldOf_iff.mpr hspells.timing }

/-! ## The strict form -/

/-- A response that is read from admitted fields has integers that fit into their machine words. -/
theorem Admits.ranges (hadmits : Admits rigour fields) (hread : ReadsResponse fields response) :
    (-2 ^ 31 ≤ response.status ∧ response.status ≤ 2 ^ 31 - 1) ∧
      -2 ^ 63 ≤ response.timing ∧ response.timing ≤ 2 ^ 63 - 1 := by
  obtain ⟨status, hstatus, hstatusRange⟩ := isIntOf_iff.mp hadmits.status
  obtain ⟨timing, htiming, htimingRange⟩ := isIntOf_iff.mp hadmits.timing
  obtain rfl := Option.some.inj (hread.status.symm.trans hstatus)
  obtain rfl := Option.some.inj (hread.timing.symm.trans htiming)
  exact ⟨hstatusRange, htimingRange⟩

/-! ## Room on the stack -/

/-- What a loose review with some room admits is parsed as the response that is read from it, if the
stack has room for the body. -/
theorem Admits.parse_eq_ok_iff {more : Nat} (hadmits : Admits (.loose more) fields)
    {read : Option Response} :
    Response.parse room fields = .ok read ↔
      (∀ body, fieldOf? fields "body" = some body → body.IsPlain room) ∧
        Response.ofFields? fields = read := by
  obtain ⟨body, hbody, hjson⟩ := loose_reviewBody_isValid_iff.mp hadmits.body
  rw [Response.parse, hbody, Option.all_some, Datum.fits_eq_isJson hjson]
  simp only [Option.some.injEq, forall_eq', ← Datum.isJson_iff]
  split <;> simp [*]

/-- A body that is nested too deep exhausts the stack. -/
theorem Admits.parse_eq_error_iff {more : Nat} (hadmits : Admits (.loose more) fields) :
    Response.parse room fields = .error ⟨⟩ ↔
      ∃ body, fieldOf? fields "body" = some body ∧ ¬ body.IsPlain room := by
  obtain ⟨body, hbody, hjson⟩ := loose_reviewBody_isValid_iff.mp hadmits.body
  rw [Response.parse, hbody, Option.all_some, Datum.fits_eq_isJson hjson]
  simp only [Option.some.injEq, exists_eq_left', ← Datum.isJson_iff]
  split <;> simp [*]

/-- A text as a body never exhausts the stack. -/
theorem Spells.parse (hspells : Spells fields response) :
    Response.parse room fields = .ok (some response) := by
  rw [Response.parse, hspells.body, hspells.ofFields?]
  rfl

theorem ofJsonMembers_strings (table : Table String String) :
    Datum.ofJsonMembers (table.map fun entry => (entry.1, .string entry.2)) =
      table.map fun entry => (.text entry.1, .text entry.2) := by
  induction table with
  | nil => rfl
  | cons entry rest ih =>
      rw [List.map_cons, Datum.ofJsonMembers, ih]
      rfl

/-- A value that describes a response has fields that give it word for word. -/
theorem DescribesResponse.exists_spelled {value : Json.Value}
    (hdescribes : DescribesResponse value response) :
    ∃ written, (Datum.ofJson value).entries? = some written ∧ Spells written response := by
  obtain ⟨members, rfl⟩ := exists_members_of_field? hdescribes.body
  obtain ⟨hstatus, -, hheaders, hbody, htiming, -⟩ := hdescribes
  simp only [Json.Value.field?] at hstatus hheaders hbody htiming
  refine ⟨Datum.ofJsonMembers members, rfl, ?_, ?_, ?_, ?_⟩
  · rw [Datum.fieldOf?_ofJsonMembers, hstatus, Option.map_some, Datum.ofJson]
  · rw [Datum.fieldOf?_ofJsonMembers, htiming, Option.map_some, Datum.ofJson]
  · rw [fieldOf, Datum.fieldOf?_ofJsonMembers, hheaders, Option.map_some, Option.getD_some,
      Datum.ofJson, Datum.entries?, ofJsonMembers_strings]
  · rw [Datum.fieldOf?_ofJsonMembers, hbody, Option.map_some, Datum.ofJson]

/-- What a strict review admits a loose one admits too, and the response is the one that the fields
give word for word. What a loose review admits is read as a response whose own description a
strict review admits and which is parsed from this description again. Only the first parsing may
exhaust the stack, and does so exactly if the body has more levels than there is room for, which is
one less than in the review. -/
theorem loose_descriptions_have_strict_form_or_exhaust_stack (room : Nat) (payload : Datum) :
    ((reviewResponse .strict payload).isValid = true →
      (reviewResponse (.loose room) payload).isValid = true ∧
        ∃ fields response, payload.entries? = some fields ∧
          Response.parse room fields = .ok (some response) ∧ Spells fields response) ∧
    ((reviewResponse (.loose (room + 1)) payload).isValid = true →
      ∃ fields response, payload.entries? = some fields ∧
        Response.ofFields? fields = some response ∧
        (Response.parse room fields = .ok (some response) ↔
          ∀ body, fieldOf? fields "body" = some body → body.IsPlain room) ∧
        (Response.parse room fields = .error ⟨⟩ ↔
          ∃ body, fieldOf? fields "body" = some body ∧ ¬ body.IsPlain room) ∧
        (reviewResponse .strict (.ofJson (Exchange.responseJson response))).isValid = true ∧
        ∃ written, (Datum.ofJson (Exchange.responseJson response)).entries? = some written ∧
          Response.parse room written = .ok (some response)) := by
  constructor
  · intro hvalid
    obtain ⟨fields, hfields, hadmits⟩ := isValid_reviewResponse_iff.mp hvalid
    obtain ⟨response, hspells⟩ := hadmits.exists_spelled
    refine ⟨isValid_reviewResponse_iff.mpr ⟨fields, hfields, hadmits.loosen⟩, ?_⟩
    exact ⟨fields, response, hfields, hspells.parse, hspells⟩
  · intro hvalid
    obtain ⟨fields, hfields, hadmits⟩ := isValid_reviewResponse_iff.mp hvalid
    obtain ⟨response, hread⟩ := hadmits.exists_response
    obtain ⟨hstatus, htiming⟩ := hadmits.ranges (ofFields?_eq_some_iff.mp hread)
    have hdescribed := Exchange.describes_responseJson hstatus htiming
    obtain ⟨written, hwritten, hspells⟩ := hdescribed.exists_spelled
    refine ⟨fields, response, hfields, hread, ?_, hadmits.parse_eq_error_iff,
      reviewResponse_isValid_iff.mpr ⟨response, hdescribed⟩, written, hwritten, hspells.parse⟩
    rw [hadmits.parse_eq_ok_iff, and_iff_left hread]

/-- A description with a list as its body, and with null and a truth value as headers. -/
def structuredDescription : Datum :=
  .map [(.text "statusCode", .int (-1)), (.text "timingMs", .int 0),
    (.text "headers", .map [(.text "B", .null), (.text "A", .bool true)]),
    (.text "body", .list [.text "x", .double (.zero true)])]

/-- The law at a description that is not strict. -/
theorem structuredDescription_has_strict_form :
    (reviewResponse (.loose 2) structuredDescription).isValid = true ∧
      ∃ fields response, structuredDescription.entries? = some fields ∧
        Response.parse 1 fields = .ok (some response) ∧
        (reviewResponse .strict (.ofJson (Exchange.responseJson response))).isValid = true ∧
        ∃ written, (Datum.ofJson (Exchange.responseJson response)).entries? = some written ∧
          Response.parse 1 written = .ok (some response) := by
  have hvalid : (reviewResponse (.loose 2) structuredDescription).isValid = true := by
    decide +kernel
  obtain ⟨fields, response, hfields, -, hparsed, -, hstrict, hagain⟩ :=
    (loose_descriptions_have_strict_form_or_exhaust_stack 1 structuredDescription).2 hvalid
  refine ⟨hvalid, fields, response, hfields, hparsed.mpr fun body hbody => ?_, hstrict, hagain⟩
  obtain rfl := Option.some.inj hfields
  obtain rfl := Option.some.inj hbody
  exact Datum.isJson_iff.mp (by decide +kernel)

def fieldsWithBody (body : Datum) : List (Datum × Datum) :=
  [(.text "statusCode", .int 200), (.text "headers", .map []), (.text "body", body),
    (.text "timingMs", .int 0)]

theorem admits_fieldsWithBody {body : Datum} (hjson : body.isJson room = true) :
    Admits (.loose room) (fieldsWithBody body) where
  status := rfl
  timing := rfl
  headers := rfl
  body := loose_reviewBody_isValid_iff.mpr ⟨body, rfl, hjson⟩

/-- However much room there is, arrays inside each other can take all of it. -/
theorem parse_nested_eq_error (room : Nat) :
    (reviewResponse (.loose (room + 1))
        (.map (fieldsWithBody (.ofJson (.nested room))))).isValid = true ∧
      Response.parse room (fieldsWithBody (.ofJson (.nested room))) = .error ⟨⟩ := by
  have hadmits := admits_fieldsWithBody (isJson_nested (Nat.lt_succ_self room))
  exact ⟨isValid_reviewResponse_iff.mpr ⟨_, rfl, hadmits⟩,
    hadmits.parse_eq_error_iff.mpr ⟨_, rfl, not_isPlain_nested room⟩⟩

/-- With room for 992 levels, a body of 993 arrays inside each other passes the review and is not
parsed. -/
theorem nested_body_exhausts_stack :
    (reviewResponse (.loose 993) (.map (fieldsWithBody (.ofJson (.nested 992))))).isValid = true ∧
      Response.parse 992 (fieldsWithBody (.ofJson (.nested 992))) = .error ⟨⟩ :=
  parse_nested_eq_error 992

end Assay.Payload
