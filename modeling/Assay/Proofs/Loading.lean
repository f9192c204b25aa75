import Assay.Loading
import Assay.Proofs.Payload.Loose
import Assay.Proofs.Yaml.Fault

/-! # What a loading gives

A loading gives a result or a review with errors, and never both or neither, unless it ends as a
whole. It ends for a content that is no text, for a fault of the text that is more than a malformed
one, for a key that the review would name and that cannot be written, and for a value that passes
the review and takes more of the stack than is left for its text.
-/

namespace Assay

/-! ## Results and reviews -/

/-- There is no result exactly if the review has errors. -/
def Loaded.Agrees {α : Type} (loaded : Loaded α) : Prop :=
  loaded.1 = none ↔ loaded.2.errors ≠ []

/-! ## How a loading ends -/

/-- The making of a suite from entries ends: for a key, or for an expected value of accepted entries
that has more levels than there is room for. -/
inductive Suite.Ends (room : Nat) (entries : List (Datum × Datum)) : LoadFailure → Prop
  | key (hkeys : Datum.keysAreWritable entries = false) : Ends room entries .unwritable
  | depth {value : Datum} (haccepted : isAccepted (room + 1) entries = true)
      (hexpected : HasExpected entries value) (hdeep : ¬ value.IsPlain room) :
      Ends room entries .exhausted

/-- The making of a response from fields ends: for the name of a header, or for a body of admitted
fields that has more levels than there is room for. -/
inductive Response.Ends (room : Nat) (fields : List (Datum × Datum)) : LoadFailure → Prop
  | key (hkeys : headersAreWritable fields = false) : Ends room fields .unwritable
  | depth {body : Datum} (hkeys : headersAreWritable fields = true)
      (hadmits : Payload.Admits (.loose (room + 1)) fields)
      (hbody : Datum.fieldOf? fields "body" = some body) (hdeep : ¬ body.IsPlain room) :
      Ends room fields .exhausted

/-- A loading ends for known reasons only. Otherwise its result agrees with its review. -/
structure Loads {α : Type} (ends : LoadFailure → Prop)
    (outcome : Except LoadFailure (Loaded α)) : Prop where
  ends_iff : ∀ failure, outcome = .error failure ↔ ends failure
  agrees : ∀ loaded, outcome = .ok loaded → loaded.Agrees

section

variable {α : Type} {ends : LoadFailure → Prop} {loaded : Loaded α}

theorem Loads.congr {others : LoadFailure → Prop} {outcome : Except LoadFailure (Loaded α)}
    (hloads : Loads ends outcome) (hends : ∀ failure, ends failure ↔ others failure) :
    Loads others outcome :=
  ⟨fun failure => (hloads.ends_iff failure).trans (hends failure), hloads.agrees⟩

end

/-! ## Suites and responses -/

section

variable {room : Nat} {entries fields : List (Datum × Datum)} {failure : LoadFailure}

/-- Once its keys can be written, a suite is ended only by the stack: its entries are in order, and
some value cannot be written. -/
theorem Suite.ends_iff (hkeys : Datum.keysAreWritable entries = true) :
    Ends room entries failure ↔ failure = .exhausted ∧
      (review (room + 1) entries).isValid = true ∧ parse room entries = .error ⟨⟩ := by
  constructor
  · rintro (hunwritable | ⟨haccepted, hexpected, hdeep⟩)
    · simp [hkeys] at hunwritable
    · obtain ⟨-, hvalid⟩ := Bool.and_eq_true_iff.mp haccepted
      exact ⟨rfl, hvalid, (review_isValid_iff.mp hvalid).parse_eq_error_iff.mpr
        ⟨_, hexpected, hdeep⟩⟩
  · rintro ⟨rfl, hvalid, hparsed⟩
    obtain ⟨value, hexpected, hdeep⟩ :=
      (review_isValid_iff.mp hvalid).parse_eq_error_iff.mp hparsed
    exact .depth (Bool.and_eq_true_iff.mpr ⟨hkeys, hvalid⟩) hexpected hdeep

/-- Once its headers can be written, a response is ended only by the stack: its fields are in order,
and the body cannot be written. -/
theorem Response.ends_iff (hkeys : headersAreWritable fields = true) :
    Ends room fields failure ↔ failure = .exhausted ∧
      (Payload.reviewResponse (.loose (room + 1)) (.map fields)).isValid = true ∧
        parse room fields = .error ⟨⟩ := by
  simp only [Payload.isValid_reviewResponse_iff, Datum.entries?, Option.some.injEq, exists_eq_left']
  constructor
  · rintro (hunwritable | ⟨-, hadmits, hbody, hdeep⟩)
    · simp [hkeys] at hunwritable
    · exact ⟨rfl, hadmits, hadmits.parse_eq_error_iff.mpr ⟨_, hbody, hdeep⟩⟩
  · rintro ⟨rfl, hadmits, hparsed⟩
    obtain ⟨body, hbody, hdeep⟩ := hadmits.parse_eq_error_iff.mp hparsed
    exact .depth hkeys hadmits hbody hdeep

end

/-! ## Texts and files -/

section

variable {α : Type} {ends : List (Datum × Datum) → LoadFailure → Prop}
  {make : List (Datum × Datum) → Except LoadFailure (Loaded α)} {text : String}
  {failure : LoadFailure}

end

end Assay
