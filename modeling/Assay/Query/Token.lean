import Assay.Number.IntegerText
import Assay.Query.Expr

/-! # Tokens of queries

Names may be bare or quoted, with a backslash before any character of a quoted name. Operators
with a name of their own stand between grave accents. Blanks, tabs and line feeds separate tokens.
-/

namespace Assay.Query

/-- Why a text is no query. -/
inductive Refusal where
  | malformed
  | tooManyDigits (refusal : Number.TooManyDigits)
  deriving DecidableEq

/-- A token, or the point from which on a text cannot be taken apart. -/
inductive Token where
  | sign (c : Char)
  | descend
  | number (value : Int)
  | name (text : String)
  | operator (text : String)
  | filter
  | exclusion
  | stop (refusal : Refusal)
  deriving DecidableEq

/-- Whether a character may start a bare name: a letter or sign of ASCII, a common ideograph or
a face. -/
def isNameStart (c : Char) : Bool :=
  c.isAlpha || c = '_' || c = '@' || (0x4E00 ≤ c.toNat && c.toNat ≤ 0x9FA5) ||
    (0x1F600 ≤ c.toNat && c.toNat ≤ 0x1F64F)

/-- Whether a character may stand at a later place of a bare name. -/
def isNamePart (c : Char) : Bool := isNameStart c || c.isDigit || c = '-'

/-- The characters that are tokens by themselves. -/
def signs : List Char := ['*', '.', '[', ']', '(', ')', '$', ',', ':', '|', '&', '~']

/-- The mark around the name of an operator. -/
def graveAccent : Char := '\x60'

/-- The text up to a closing mark, and what stands behind it. A backslash takes the next character
as it is, unless that is a line feed. -/
def readQuoted (mark : Char) : List Char → Option (List Char × List Char)
  | [] => none
  | '\\' :: c :: rest =>
    if c = '\n' then none
    else (readQuoted mark rest).map fun (text, behind) => (c :: text, behind)
  | c :: rest =>
    if c = mark then some ([], rest)
    else if c = '\\' then none
    else (readQuoted mark rest).map fun (text, behind) => (c :: text, behind)

theorem length_of_readQuoted {mark : Char} {text quoted rest : List Char}
    (hread : readQuoted mark text = some (quoted, rest)) : rest.length < text.length := by
  fun_induction readQuoted mark text generalizing quoted with
  | case1 => simp at hread
  | case2 => simp at hread
  | case3 c rest' hc ih =>
    obtain ⟨pair, hpair, heq⟩ := Option.map_eq_some_iff.mp hread
    obtain ⟨-, rfl⟩ := Prod.mk.inj heq
    have := ih hpair
    simp only [List.length_cons]
    omega
  | case4 =>
    obtain ⟨-, rfl⟩ := Prod.mk.inj (Option.some.inj hread)
    simp
  | case5 => simp at hread
  | case6 c rest' _ _ _ ih =>
    obtain ⟨pair, hpair, heq⟩ := Option.map_eq_some_iff.mp hread
    obtain ⟨-, rfl⟩ := Prod.mk.inj heq
    have := ih hpair
    simp only [List.length_cons]
    omega

def Token.ofWord (word : List Char) : Token :=
  match String.ofList word with
  | "where" => .filter
  | "wherenot" => .exclusion
  | text => .name text

def Token.ofNumber (negative : Bool) (digits : List Char) : Token :=
  if Number.digitLimit < digits.length then
    .stop (.tooManyDigits ⟨digits.length⟩)
  else
    let size : Int := Number.ofDigitValues (digits.filterMap Text.decimalValue?)
    .number (if negative then -size else size)

def tokens (text : List Char) : List Token :=
  match text with
  | [] => []
  | c :: rest =>
    have hdrop := fun accept => (List.dropWhile_sublist (l := rest) accept).length_le
    if c = ' ' || c = '\t' || c = '\n' then
      tokens rest
    else if isNameStart c then
      have := hdrop isNamePart
      .ofWord (c :: rest.takeWhile isNamePart) :: tokens (rest.dropWhile isNamePart)
    else if Text.isDecimal c || (c = '-' && (rest.head?.map Text.isDecimal).getD false) then
      have := hdrop Text.isDecimal
      let digits := rest.takeWhile Text.isDecimal
      .ofNumber (c = '-') (if c = '-' then digits else c :: digits) ::
        tokens (rest.dropWhile Text.isDecimal)
    else if c = '\x27' || c = '"' || c = graveAccent then
      match hread : readQuoted c rest with
      | none => [.stop .malformed]
      | some (quoted, behind) =>
        have := length_of_readQuoted hread
        let word := String.ofList quoted
        (if c = graveAccent then .operator word else .name word) :: tokens behind
    else if c = '.' && rest.head? = some '.' then
      .descend :: tokens rest.tail
    else if signs.contains c then
      .sign c :: tokens rest
    else
      [.stop .malformed]
termination_by text.length

end Assay.Query
