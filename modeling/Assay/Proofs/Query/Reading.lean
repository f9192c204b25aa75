import Assay.Proofs.Json.Address
import Assay.Query.Reader

/-! # Paths as queries

A path whose keys are plain names is also a query when it stands behind the sign for the root and a
point. The tokens of the query are the names and the indexes of the path, and the query takes the
children that these name one after the other.
-/

namespace Assay.Query

open Json (Segment)

/-! ## Plain paths -/

def isNameLetter (c : Char) : Bool := c.isAlphanum || c = '_'

/-- A plain name: it has only ASCII letters, digits and underscores, and no digit stands first. -/
structure IsName (name : List Char) : Prop where
  ne_nil : name ≠ []
  letters : ∀ c ∈ name, isNameLetter c = true
  no_digit : ∀ c ∈ name.head?, c.isDigit = false

/-- A plain step: a name, or a name with an index behind it that is not too long to be read. -/
def IsPlain : Segment → Prop
  | .field key => IsName key
  | .indexed key digits => IsName key ∧ digits ≠ [] ∧ (∀ c ∈ digits, c.isDigit = true) ∧
      digits.length ≤ Number.digitLimit

def written : Segment → List Char
  | .field key => key
  | .indexed key digits => key ++ '[' :: digits ++ [']']

/-- The path that steps spell. -/
def pathOf (steps : List Segment) : String :=
  String.ofList (List.intercalate ['.'] (steps.map written))

/-- The query that steps spell. -/
def queryOf (steps : List Segment) : String := "$." ++ pathOf steps

theorem IsName.notMem {name : List Char} (hname : IsName name) {c : Char}
    (hc : isNameLetter c = false) : c ∉ name := by
  intro hmem
  rw [hname.letters c hmem] at hc
  nomatch hc

theorem written_ne_nil {step : Segment} (hplain : IsPlain step) : written step ≠ [] := by
  cases step with
  | field key => exact hplain.ne_nil
  | indexed key digits => simp [written]

/-- A plain step is written without points, so a path can be split at its points. -/
theorem point_notMem_written {step : Segment} (hplain : IsPlain step) : '.' ∉ written step := by
  cases step with
  | field key => exact hplain.notMem (by decide)
  | indexed key digits =>
      obtain ⟨hname, -, hdigits, -⟩ := hplain
      have hkey : '.' ∉ key := hname.notMem (by decide)
      have hdigit : '.' ∉ digits := fun hmem => absurd (hdigits _ hmem) (by decide)
      simp [written, hkey, hdigit]

theorem indexFits_of_isPlain {step : Segment} (hplain : IsPlain step) : step.IndexFits := by
  cases step with
  | field key => trivial
  | indexed key digits => exact hplain.2.2.2

/-- A plain step is read from a path as what it is. -/
theorem ofText_written {step : Segment} (hplain : IsPlain step) :
    Segment.ofText (written step) = step := by
  cases step with
  | field key =>
      refine Json.ofText_of_not_endsInIndex ?_
      rintro ⟨stem, digits, -, -, -, hindex⟩
      refine hplain.notMem (show isNameLetter ']' = false by decide) ?_
      rw [show key = stem ++ '[' :: digits ++ [']'] from hindex]
      simp
  | indexed key digits =>
      obtain ⟨hname, hne, hdigits, -⟩ := hplain
      exact Json.ofText_indexed hname.ne_nil (hname.notMem (by decide)) hne hdigits

theorem segments_pathOf {steps : List Segment} (hne : steps ≠ [])
    (hplain : ∀ step ∈ steps, IsPlain step) : Json.segments (pathOf steps) = steps := by
  have hparts : ∀ part ∈ steps.map written, part ≠ [] ∧ '.' ∉ part := by
    rintro _ hpart
    obtain ⟨step, hstep, rfl⟩ := List.mem_map.mp hpart
    exact ⟨written_ne_nil (hplain step hstep), point_notMem_written (hplain step hstep)⟩
  rw [pathOf, Json.segments_intercalate (by simpa using hne) hparts, List.map_map]
  exact (List.map_congr_left fun step hstep => ofText_written (hplain step hstep)).trans
    (List.map_id steps)

/-! ## Tokens -/

theorem tokens_nil : tokens [] = [] := by rw [tokens]

/-- A sign is a token by itself, if it is no point with a second one behind it. -/
theorem tokens_sign {c : Char} {rest : List Char} (hsign : c ∈ signs)
    (hpoint : c ≠ '.' ∨ rest.head? ≠ some '.') : tokens (c :: rest) = .sign c :: tokens rest := by
  have hother : signs.all (fun c => !(c = ' ' || c = '\t' || c = '\n') && !isNameStart c &&
      !Text.isDecimal c && c ≠ '-' && !(c = '\x27' || c = '"' || c = graveAccent)) = true := by
    decide
  have hdescend : (c = '.' && rest.head? = some '.') = false := by
    simpa [or_iff_not_imp_left] using hpoint
  have hclass := List.all_eq_true.mp hother c hsign
  simp only [Bool.and_eq_true, Bool.not_eq_true', decide_eq_true_eq] at hclass
  obtain ⟨⟨⟨⟨hblank, hstart⟩, hdecimal⟩, hminus⟩, hquote⟩ := hclass
  rw [tokens]
  simp [hblank, hstart, hdecimal, hminus, hquote, hdescend, hsign]

theorem takeWhile_dropWhile_of_boundary {accept : Char → Bool} {run rest : List Char}
    (hrun : ∀ c ∈ run, accept c = true) (hrest : ∀ c ∈ rest.head?, accept c = false) :
    (run ++ rest).takeWhile accept = run ∧ (run ++ rest).dropWhile accept = rest := by
  have hstop : rest.takeWhile accept = [] ∧ rest.dropWhile accept = rest := by
    cases rest with
    | nil => exact ⟨rfl, rfl⟩
    | cons c others => simp [hrest c rfl]
  rw [List.takeWhile_append_of_pos hrun, List.dropWhile_append_of_pos hrun, hstop.1, hstop.2,
    List.append_nil]
  exact ⟨rfl, rfl⟩

theorem isNamePart_of_isNameLetter {c : Char} (hc : isNameLetter c = true) :
    isNamePart c = true := by
  simp only [isNameLetter, Char.isAlphanum, Bool.or_eq_true, decide_eq_true_eq] at hc
  simp only [isNamePart, isNameStart, Bool.or_eq_true, decide_eq_true_eq]
  tauto

/-- The words that are operators and no names. -/
def operatorWords : List String := ["where", "wherenot"]

/-- The name in a step is no operator. -/
def NamesNoOperator : Segment → Prop
  | .field key | .indexed key _ => String.ofList key ∉ operatorWords

theorem ofWord_of_no_operator {name : List Char} (hname : String.ofList name ∉ operatorWords) :
    Token.ofWord name = .name (String.ofList name) := by
  unfold Token.ofWord
  split
  next hword => simp [operatorWords, hword] at hname
  next hword => simp [operatorWords, hword] at hname
  next => rfl

/-- A name is one token. -/
theorem tokens_name {name rest : List Char} (hname : IsName name)
    (hword : String.ofList name ∉ operatorWords)
    (hrest : ∀ c ∈ rest.head?, isNamePart c = false) :
    tokens (name ++ rest) = .name (String.ofList name) :: tokens rest := by
  obtain ⟨first, others, rfl⟩ := List.exists_cons_of_ne_nil hname.ne_nil
  have hpart : ∀ c ∈ others, isNamePart c = true := fun c hmem =>
    isNamePart_of_isNameLetter (hname.letters c (List.mem_cons_of_mem first hmem))
  have hfirst : isNameStart first = true := by
    have hletter := hname.letters first List.mem_cons_self
    have hdigit := hname.no_digit first rfl
    simp only [isNameLetter, Char.isAlphanum, hdigit, Bool.or_false, Bool.or_eq_true,
      decide_eq_true_eq] at hletter
    simp only [isNameStart, Bool.or_eq_true, decide_eq_true_eq]
    tauto
  have hblank : (first = ' ' || first = '\t' || first = '\n') = false := by
    rw [← Bool.not_eq_true]
    intro hblank
    simp only [Bool.or_eq_true, decide_eq_true_eq] at hblank
    rcases hblank with (rfl | rfl) | rfl <;> exact absurd hfirst (by decide)
  obtain ⟨htake, hdrop⟩ := takeWhile_dropWhile_of_boundary hpart hrest
  rw [List.cons_append, tokens]
  simp [hblank, hfirst, htake, hdrop, ofWord_of_no_operator hword]

theorem decimalValue?_of_isDigit {c : Char} (hc : c.isDigit = true) :
    Text.decimalValue? c = some (Number.digitValue c) := by
  have hcode := Char.isDigit_iff_toNat.mp hc
  have hnine : '9'.toNat = 57 := rfl
  rw [Text.decimalValue?, if_pos (by omega), if_pos hc]
  rfl

theorem ofDigitValues_of_areDigits {digits : List Char} (hdigits : ∀ c ∈ digits, c.isDigit = true) :
    Number.ofDigitValues (digits.filterMap Text.decimalValue?) = Number.ofDigits digits := by
  rw [List.filterMap_congr fun c hmem => decimalValue?_of_isDigit (hdigits c hmem)]
  simp [Number.ofDigitValues, Number.ofDigits, List.foldl_map]

theorem exists_eq_ofNat_of_isDigit {c : Char} (hc : c.isDigit = true) :
    ∃ value : Fin 10, c = Char.ofNat (48 + value) := by
  obtain ⟨hlow, hhigh⟩ := Char.isDigit_iff_toNat.mp hc
  have hzero : '0'.toNat = 48 := rfl
  have hnine : '9'.toNat = 57 := rfl
  refine ⟨⟨c.toNat - 48, by omega⟩, ?_⟩
  rw [show 48 + (c.toNat - 48) = c.toNat by omega, Char.ofNat_toNat]

/-- A digit is not taken for the start of another token. -/
theorem starts_of_isDigit {c : Char} (hc : c.isDigit = true) :
    (c = ' ' || c = '\t' || c = '\n') = false ∧ isNameStart c = false ∧ c ≠ '-' := by
  obtain ⟨value, rfl⟩ := exists_eq_ofNat_of_isDigit hc
  revert value
  decide

/-- A number is one token, when its digits can be converted. -/
theorem tokens_number {digits rest : List Char} (hne : digits ≠ [])
    (hdigits : ∀ c ∈ digits, c.isDigit = true) (hfits : digits.length ≤ Number.digitLimit)
    (hrest : ∀ c ∈ rest.head?, Text.isDecimal c = false) :
    tokens (digits ++ rest) = .number (Number.ofDigits digits) :: tokens rest := by
  obtain ⟨first, others, rfl⟩ := List.exists_cons_of_ne_nil hne
  have hdecimal : ∀ c ∈ first :: others, Text.isDecimal c = true := by
    intro c hmem
    rw [Text.isDecimal, decimalValue?_of_isDigit (hdigits c hmem)]
    rfl
  obtain ⟨hfirst, hothers⟩ := List.forall_mem_cons.mp hdecimal
  obtain ⟨htake, hdrop⟩ := takeWhile_dropWhile_of_boundary hothers hrest
  obtain ⟨hblank, hstart, hminus⟩ := starts_of_isDigit (hdigits first List.mem_cons_self)
  have hnumber : Token.ofNumber false (first :: others) =
      .number (Number.ofDigits (first :: others)) := by
    rw [Token.ofNumber, if_neg (not_lt.mpr hfits), ofDigitValues_of_areDigits hdigits]
    rfl
  rw [List.cons_append, tokens]
  simp [hblank, hstart, hfirst, htake, hdrop, hminus, hnumber]

def stepTokens : Segment → List Token
  | .field key => [.sign '.', .name (String.ofList key)]
  | .indexed key digits =>
    [.sign '.', .name (String.ofList key), .sign '[', .number (Number.ofDigits digits), .sign ']']

/-- A step is read as its tokens, behind the point that separates it from the one before. -/
theorem tokens_step {step : Segment} (hplain : IsPlain step) (hword : NamesNoOperator step)
    {rest : List Char} (hrest : ∀ c ∈ rest.head?, c = '.') :
    tokens ('.' :: written step ++ rest) = stepTokens step ++ tokens rest := by
  have hpoint : ∀ {key : List Char} (behind : List Char), IsName key →
      tokens ('.' :: key ++ behind) = .sign '.' :: tokens (key ++ behind) := by
    intro key behind hname
    obtain ⟨first, others, rfl⟩ := List.exists_cons_of_ne_nil hname.ne_nil
    refine tokens_sign (by decide) (.inr fun hsecond => ?_)
    obtain rfl := Option.some.inj hsecond
    exact hname.notMem (by decide : isNameLetter '.' = false) List.mem_cons_self
  cases step with
  | field key =>
      have hbehind : ∀ c ∈ rest.head?, isNamePart c = false := by
        intro c hc
        rw [hrest c hc]
        decide
      rw [written, hpoint rest hplain, tokens_name hplain hword hbehind]
      rfl
  | indexed key digits =>
      obtain ⟨hname, hne, hdigits, hfits⟩ := hplain
      have htext : '.' :: written (.indexed key digits) ++ rest =
          '.' :: key ++ ('[' :: (digits ++ ']' :: rest)) := by simp [written]
      rw [htext, hpoint _ hname, tokens_name hname hword (by simp; decide),
        tokens_sign (by decide) (.inl (by decide)),
        tokens_number hne hdigits hfits (by simp; decide),
        tokens_sign (by decide) (.inl (by decide))]
      rfl

theorem tokens_steps {steps : List Segment} (hplain : ∀ step ∈ steps, IsPlain step)
    (hwords : ∀ step ∈ steps, NamesNoOperator step) :
    tokens (steps.flatMap fun step => '.' :: written step) = steps.flatMap stepTokens := by
  induction steps with
  | nil => exact tokens_nil
  | cons step rest ih =>
      obtain ⟨hstep, hrest⟩ := List.forall_mem_cons.mp hplain
      obtain ⟨hword, hwords⟩ := List.forall_mem_cons.mp hwords
      have hbehind : ∀ c ∈ (rest.flatMap fun step => '.' :: written step).head?, c = '.' := by
        cases rest <;> simp
      rw [List.flatMap_cons, List.flatMap_cons, tokens_step hstep hword hbehind,
        ih hrest hwords]

theorem cons_intercalate {separator : Char} {parts : List (List Char)} (hne : parts ≠ []) :
    separator :: List.intercalate [separator] parts = parts.flatMap (separator :: ·) := by
  induction parts with
  | nil => exact absurd rfl hne
  | cons part rest ih =>
      cases rest with
      | nil => simp
      | cons next others => simp [List.intercalate_cons_cons, ← ih]

/-- The tokens of a query are the sign for the root and those of its steps. -/
theorem tokens_queryOf {steps : List Segment} (hne : steps ≠ [])
    (hplain : ∀ step ∈ steps, IsPlain step) (hwords : ∀ step ∈ steps, NamesNoOperator step) :
    tokens (queryOf steps).toList = .sign '$' :: steps.flatMap stepTokens := by
  have htext : (queryOf steps).toList = '$' :: steps.flatMap fun step => '.' :: written step := by
    have hpath : '.' :: List.intercalate ['.'] (steps.map written) =
        (steps.map written).flatMap ('.' :: ·) := cons_intercalate (by simpa using hne)
    rw [List.flatMap_map] at hpath
    simp [queryOf, pathOf, ← hpath]
  rw [htext, tokens_sign (by decide) (.inl (by decide)), tokens_steps hplain hwords]

/-! ## Expressions -/

/-- A query that goes on from what a query selects to the child that a step names. -/
def Expr.extended (whole : Expr) : Segment → Expr
  | .field key => .join .child whole (.fields [String.ofList key])
  | .indexed key digits =>
    .join .child (.join .child whole (.fields [String.ofList key]))
      (.index [Number.ofDigits digits])

/-- An operand and what waits for it are a query, whatever closes them that binds no tighter than
the operator for children. -/
def Pending.Holds (pending : Pending) (operand whole : Expr) : Prop :=
  ∀ level ≤ Join.child.level, pending.reduce level operand = ([], whole)

theorem Pending.holds_nil (whole : Expr) : Pending.Holds [] whole whole := fun _ _ => rfl

theorem Pending.holds_child (left right : Expr) :
    Pending.Holds [(left, .child)] right (.join .child left right) := by
  intro level hlevel
  rw [reduce, if_pos hlevel, reduce]

theorem readOperand_name {name : String} {rest : List Token}
    (hrest : rest.head? ≠ some (.sign ',')) :
    readOperand (.name name :: rest) = .ok (.fields [name], rest) := by
  have hnames : readNames name rest = ([name], rest) := by
    unfold readNames
    split
    next => simp at hrest
    next => rfl
  rw [readOperand, hnames]
  cases rest with
  | nil => rfl
  | cons token others =>
    dsimp only
    split
    next => simp_all
    next => rfl

theorem readBracketed_number (number : Int) (rest : List Token) :
    readBracketed (.number number :: .sign ']' :: rest) = .ok (.index [number], rest) := rfl

theorem readBehind_nil {pending : Pending} {operand whole : Expr}
    (hholds : pending.Holds operand whole) :
    readBehind pending operand [] = .ok (whole, ⟨[], Nat.le_refl _⟩) := by
  rw [readBehind, hholds 0 (Nat.zero_le _)]

/-- A point closes what is pending and opens a child. -/
theorem readBehind_point {pending : Pending} {operand whole result : Expr} {rest : List Token}
    (hholds : pending.Holds operand whole)
    (hread : ∃ h, readFrom [(whole, .child)] rest = .ok (result, ⟨[], h⟩)) :
    ∃ h, readBehind pending operand (.sign '.' :: rest) = .ok (result, ⟨[], h⟩) := by
  obtain ⟨h, hread⟩ := hread
  rw [readBehind]
  · simp [Join.ofToken?, hholds 3 (Nat.le_refl 3), Join.level, hread, bind, Except.bind, pure,
      Except.pure]
  · simp

/-- A name is an operand. -/
theorem readFrom_name {pending : Pending} {name : String} {result : Expr} {rest : List Token}
    (hrest : rest.head? ≠ some (.sign ','))
    (hread : ∃ h, readBehind pending (.fields [name]) rest = .ok (result, ⟨[], h⟩)) :
    ∃ h, readFrom pending (.name name :: rest) = .ok (result, ⟨[], h⟩) := by
  obtain ⟨h, hread⟩ := hread
  rw [readFrom]
  · simp [readOperand_name hrest, shorter, hread, bind, Except.bind, pure, Except.pure]
  · simp

/-- An index belongs to all that stands before it. -/
theorem readBehind_index {pending : Pending} {operand whole result : Expr} {number : Int}
    {rest : List Token} (hholds : pending.Holds operand whole)
    (hread : ∃ h, readBehind [] (.join .child whole (.index [number])) rest =
      .ok (result, ⟨[], h⟩)) :
    ∃ h, readBehind pending operand (.sign '[' :: .number number :: .sign ']' :: rest) =
      .ok (result, ⟨[], h⟩) := by
  obtain ⟨h, hread⟩ := hread
  have hshorter : rest.length ≤ rest.length + 1 + 1 := by omega
  rw [readBehind]
  simp [readBracketed_number, shorter, hshorter, hread, hholds 0 (Nat.zero_le _), bind, Except.bind,
    pure, Except.pure]

theorem head?_steps_ne (steps : List Segment) :
    (steps.flatMap stepTokens).head? ≠ some (.sign ',') := by
  cases steps with
  | nil => simp
  | cons step rest => cases step <;> simp [stepTokens]

/-- The steps behind a query extend it one after the other. -/
theorem readBehind_steps {pending : Pending} {operand whole : Expr}
    (hholds : pending.Holds operand whole) (steps : List Segment) :
    ∃ h, readBehind pending operand (steps.flatMap stepTokens) =
      .ok (steps.foldl Expr.extended whole, ⟨[], h⟩) := by
  induction steps generalizing pending operand whole with
  | nil => exact ⟨_, readBehind_nil hholds⟩
  | cons step rest ih =>
      cases step with
      | field key =>
          have hrest := ih (Pending.holds_child whole (.fields [String.ofList key]))
          exact readBehind_point hholds (readFrom_name (head?_steps_ne rest) hrest)
      | indexed key digits =>
          -- brackets close what waits, so the query goes on with nothing waiting
          have hrest := ih (Pending.holds_nil (whole.extended (.indexed key digits)))
          have hchild := Pending.holds_child whole (.fields [String.ofList key])
          exact readBehind_point hholds
            (readFrom_name (by simp) (readBehind_index hchild hrest))

/-- The tokens of a path are read as the chain of its steps, from the root on. -/
theorem readFrom_root (steps : List Segment) :
    ∃ h, readFrom [] (.sign '$' :: steps.flatMap stepTokens) =
      .ok (steps.foldl Expr.extended .root, ⟨[], h⟩) := by
  obtain ⟨h, hread⟩ := readBehind_steps (Pending.holds_nil .root) steps
  rw [readFrom]
  · simp [readOperand, shorter, hread, bind, Except.bind, pure, Except.pure]
  · simp

/-- A plain path behind the root is read as the query for its steps, if none of its names is an
operator. -/
theorem parse_queryOf {steps : List Segment} (hne : steps ≠ [])
    (hplain : ∀ step ∈ steps, IsPlain step) (hwords : ∀ step ∈ steps, NamesNoOperator step) :
    parse (queryOf steps) = .ok (steps.foldl Expr.extended .root) := by
  have hroot := readFrom_root steps
  rw [← tokens_queryOf hne hplain hwords] at hroot
  obtain ⟨h, hread⟩ := hroot
  rw [parse, hread]
  rfl

end Assay.Query
