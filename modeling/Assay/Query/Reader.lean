import Assay.Query.Token

/-! # Reading queries

Operators of one level group to the left, and a tighter one takes its operands first. Brackets
behind a query apply to all of the query so far, up to the parenthesis in which it stands.
-/

namespace Assay.Query

/-- The tokens that are left, fewer than before. -/
abbrev Rest (input : List Token) : Type := { rest : List Token // rest.length < input.length }

/-- The refusal for a token that does not fit, or for the end. -/
def unexpected : List Token → Refusal
  | .stop refusal :: _ => refusal
  | _ => .malformed

/-- The names behind a first one, separated by commas. -/
def readNames (first : String) : List Token → List String × List Token
  | .sign ',' :: .name next :: rest =>
    let (names, rest) := readNames next rest
    (first :: names, rest)
  | rest => ([first], rest)

/-- The indices behind a first one, separated by commas. -/
def readIndices (first : Int) : List Token → List Int × List Token
  | .sign ',' :: .number next :: rest =>
    let (indices, rest) := readIndices next rest
    (first :: indices, rest)
  | rest => ([first], rest)

def readBound : List Token → Option Int × List Token
  | .number bound :: rest => (some bound, rest)
  | rest => (none, rest)

/-- What stands in brackets, up to the closing one. -/
def readBracketed (input : List Token) : Except Refusal (Expr × List Token) :=
  let closed (expr : Expr) : List Token → Except Refusal (Expr × List Token)
    | .sign ']' :: rest => .ok (expr, rest)
    | rest => .error (unexpected rest)
  let slice (input : List Token) : Except Refusal (Expr × List Token) :=
    match readBound input with
    | (start, .sign ':' :: rest) => match readBound rest with
      | (stop, .sign ':' :: rest) =>
        let (step, rest) := readBound rest
        closed (.slice ⟨start, stop, step⟩) rest
      | (stop, rest) => closed (.slice ⟨start, stop, none⟩) rest
    | (_, rest) => .error (unexpected rest)
  match input with
  | .name first :: rest =>
    let (names, rest) := readNames first rest
    match rest with
    | .sign ',' :: behind => .error (unexpected behind)
    | rest => closed (.fields names) rest
  | .sign '*' :: rest => closed (.slice .all) rest
  | .number first :: .sign ':' :: rest => slice (.number first :: .sign ':' :: rest)
  | .number first :: rest =>
    let (indices, rest) := readIndices first rest
    match rest with
    | .sign ',' :: behind => .error (unexpected behind)
    | rest => closed (.index indices) rest
  | rest => slice rest

def Join.ofToken? : Token → Option Join
  | .sign '.' => some .child
  | .descend => some .descendants
  | .filter => some .filter
  | .exclusion => some .exclusion
  | .sign '|' => some .union
  | .sign '&' => some .intersection
  | _ => none

/-- The operands and operators that wait for their right side, the innermost first. -/
abbrev Pending : Type := List (Expr × Join)

/-- Closes the waiting operators that bind at least as tightly as a level. -/
def Pending.reduce (level : Nat) : Pending → Expr → Pending × Expr
  | [], right => ([], right)
  | (left, join) :: outer, right =>
    if level ≤ join.level then reduce level outer (.join join left right)
    else ((left, join) :: outer, right)

/-- Takes a rest as shorter than what it is left of. Every reader here leaves such a rest. -/
def shorter (input rest : List Token) : Except Refusal (Rest input) :=
  if hrest : rest.length < input.length then .ok ⟨rest, hrest⟩ else .error .malformed

/-- A reader of fewer tokens comes before another one, whatever the ranks of the two. -/
theorem measure_lt_of_length_lt {fewer more rank other : Nat} (hlength : fewer < more)
    (hrank : rank < 2) : 2 * fewer + rank < 2 * more + other := by omega

/-- The names of the fields that a bare number stands for: one for each of its characters. -/
def fieldsOfNumber (number : Int) : List String :=
  (toString number).toList.map fun c => String.ofList [c]

/-- An operand without parentheses. -/
def readOperand (input : List Token) : Except Refusal (Expr × List Token) :=
  match input with
  | .sign '$' :: rest => .ok (.root, rest)
  | .sign '*' :: rest => .ok (.fields ["*"], rest)
  | .number number :: rest => .ok (.fields (fieldsOfNumber number), rest)
  | .operator "this" :: rest => .ok (.this, rest)
  | .operator "parent" :: rest => .ok (.parent, rest)
  | .name first :: rest =>
    let (names, rest) := readNames first rest
    match rest with
    | .sign ',' :: behind => .error (unexpected behind)
    | rest => .ok (.fields names, rest)
  | .sign '[' :: rest => readBracketed rest
  | rest => .error (unexpected rest)

mutual

/-- A query from an operand on, with the operators that wait for it. -/
def readFrom (pending : Pending) (input : List Token) : Except Refusal (Expr × Rest input) :=
  match input with
  | .sign '(' :: opened => do
    let (inner, ⟨rest, hrest⟩) ← readFrom [] opened
    match hnext : rest with
    | .sign ')' :: behind =>
      have hbehind : behind.length < opened.length := by
        rw [hnext, List.length_cons] at hrest
        omega
      let (expr, ⟨rest, hle⟩) ← readBehind pending inner behind
      return (expr, ⟨rest, by simp only [List.length_cons]; omega⟩)
    | rest => .error (unexpected rest)
  | input => do
    let (operand, rest) ← readOperand input
    let ⟨rest, hrest⟩ ← shorter input rest
    let (expr, ⟨rest, hle⟩) ← readBehind pending operand rest
    return (expr, ⟨rest, Nat.lt_of_le_of_lt hle hrest⟩)
termination_by 2 * input.length + 0
decreasing_by
  · exact measure_lt_of_length_lt (Nat.lt_succ_self _) (by decide)
  · exact measure_lt_of_length_lt (Nat.lt_succ_of_lt hbehind) (by decide)
  · exact measure_lt_of_length_lt hrest (by decide)

def readBehind (pending : Pending) (operand : Expr) (input : List Token) :
    Except Refusal (Expr × { rest : List Token // rest.length ≤ input.length }) :=
  match input with
  | .sign '[' :: opened => do
    let (step, rest) ← readBracketed opened
    let ⟨rest, hrest⟩ ← shorter (.sign '[' :: opened) rest
    have hopened : rest.length ≤ opened.length := Nat.le_of_lt_succ hrest
    let (_, whole) := pending.reduce 0 operand
    let (expr, ⟨rest, hle⟩) ← readBehind [] (.join .child whole step) rest
    return (expr, ⟨rest, by omega⟩)
  | token :: behind =>
    match Join.ofToken? token with
    | some join => do
      let (outer, left) := pending.reduce join.level operand
      let (expr, ⟨rest, hrest⟩) ← readFrom ((left, join) :: outer) behind
      return (expr, ⟨rest, by simp only [List.length_cons]; omega⟩)
    | none => .ok ((pending.reduce 0 operand).2, ⟨token :: behind, Nat.le_refl _⟩)
  | [] => .ok ((pending.reduce 0 operand).2, ⟨[], Nat.le_refl _⟩)
termination_by 2 * input.length + 1
decreasing_by
  · exact measure_lt_of_length_lt hrest (by decide)
  · exact measure_lt_of_length_lt (Nat.lt_succ_self _) (by decide)

end

def parse (text : String) : Except Refusal Expr := do
  let (expr, ⟨rest, _⟩) ← readFrom [] (tokens text.toList)
  if rest.isEmpty then return expr else .error (unexpected rest)

end Assay.Query
