import Assay.Datum.Written

/-! # Reviews

The outcome of looking over a datum: errors, which make it unusable, and warnings, which do not.
-/

namespace Assay

/-- One thing found. The value is shown unless it is null. -/
structure Remark where
  place : String
  message : String
  value : Datum := .null
  advice : Option String := none

/-- What was found. -/
structure Review where
  errors : List Remark := []
  warnings : List Remark := []

def Review.clean : Review := {}

def Review.error (place message : String) (value : Datum := .null)
    (advice : Option String := none) : Review :=
  { errors := [⟨place, message, value, advice⟩] }

def Review.warning (place message : String) (value : Datum := .null)
    (advice : Option String := none) : Review :=
  { warnings := [⟨place, message, value, advice⟩] }

def Review.append (first second : Review) : Review :=
  ⟨first.errors ++ second.errors, first.warnings ++ second.warnings⟩

instance : Append Review := ⟨Review.append⟩

def Review.join (reviews : List Review) : Review := reviews.foldr (· ++ ·) Review.clean

/-- A review that is made only if something holds. -/
def Review.when (condition : Bool) (review : Review) : Review :=
  if condition then review else Review.clean

def Review.isValid (review : Review) : Bool := review.errors.isEmpty

@[simp] theorem Review.isValid_append (first second : Review) :
    (first ++ second).isValid = (first.isValid && second.isValid) := by
  change (first.append second).isValid = _
  simp only [append, isValid]
  cases first.errors <;> simp

@[simp] theorem Review.isValid_clean : Review.clean.isValid = true := rfl

@[simp] theorem Review.isValid_error (place message : String) (value : Datum)
    (advice : Option String) : (Review.error place message value advice).isValid = false := rfl

@[simp] theorem Review.isValid_warning (place message : String) (value : Datum)
    (advice : Option String) : (Review.warning place message value advice).isValid = true := rfl

theorem Review.isValid_join (reviews : List Review) :
    (Review.join reviews).isValid = reviews.all Review.isValid := by
  induction reviews with
  | nil => rfl
  | cons review rest ih =>
    change (review ++ Review.join rest).isValid = _
    simp [ih]

theorem Review.isValid_when (condition : Bool) (review : Review) :
    (Review.when condition review).isValid = (!condition || review.isValid) := by
  cases condition <;> simp [Review.when]

/-- An error that is made only if something holds is made exactly then. -/
@[simp] theorem Review.isValid_when_error (condition : Bool) (place message : String)
    (value : Datum) (advice : Option String) :
    (Review.when condition (.error place message value advice)).isValid = !condition := by
  cases condition <;> rfl

/-! ## Text -/

def Remark.text (mark : String) (remark : Remark) : String :=
  let head := s!"{mark} {remark.place}: {remark.message}"
  let value := if remark.value.isNull then "" else s!"\n   Got: {remark.value.shown}"
  let advice := match remark.advice with
    | some advice => if advice.isEmpty then "" else s!"\n   💡 {advice}"
    | none => ""
  head ++ value ++ advice

def errorMark : String := "❌"

def warningMark : String := "⚠️"

def Review.text (review : Review) : String :=
  let verdict :=
    if review.isValid then ["✅ Schema validation passed"]
    else s!"Schema validation failed with {review.errors.length} error(s):\n" ::
      review.errors.map (Remark.text errorMark)
  let warnings :=
    if review.warnings.isEmpty then []
    else s!"\n{review.warnings.length} warning(s):" ::
      review.warnings.map (Remark.text warningMark)
  "\n".intercalate (verdict ++ warnings)

/-- Whether every value that a review shows can be written. -/
def Review.isWritable (review : Review) : Bool :=
  (review.errors ++ review.warnings).all fun remark => !remark.value.isTooLong

end Assay
