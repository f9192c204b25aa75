import Assay.Text.Encoding
import Assay.Json.Refusal

/-! # Blanks, words and strings of JSON text

The pieces of a JSON text other than numerals. Each is read from the start of a text and leaves
a rest, which for words and strings is shorter than the text.
-/

namespace Assay.Json

/-- The blanks between the tokens of a JSON text. -/
def isJsonBlank (c : Char) : Bool := c = ' ' || c = '\t' || c = '\n' || c = '\r'

def skipBlanks (text : List Char) : List Char := text.dropWhile isJsonBlank

theorem length_skipBlanks_le (text : List Char) : (skipBlanks text).length ≤ text.length :=
  (List.dropWhile_sublist isJsonBlank).length_le

theorem length_of_skipBlanks {text rest : List Char} {c : Char}
    (hnext : skipBlanks text = c :: rest) : rest.length < text.length := by
  have hblanks := length_skipBlanks_le text
  rw [hnext, List.length_cons] at hblanks
  exact hblanks

def dropWord : (word text : List Char) → Option (List Char)
  | [], text => some text
  | _ :: _, [] => none
  | letter :: word, c :: text => if letter = c then dropWord word text else none

theorem length_of_dropWord {word text rest : List Char} (hdrop : dropWord word text = some rest) :
    word.length + rest.length = text.length := by
  induction word generalizing text with
  | nil => simp_all [dropWord]
  | cons letter word ih =>
    cases text with
    | nil => simp [dropWord] at hdrop
    | cons c text =>
      by_cases hc : letter = c
      · simp only [dropWord, if_pos hc] at hdrop
        have := ih hdrop
        simp only [List.length_cons]
        omega
      · simp [dropWord, hc] at hdrop

/-! ## Strings -/

def shortEscape? : Char → Option Char
  | '"' => some '"'
  | '\\' => some '\\'
  | '/' => some '/'
  | 'b' => some '\x08'
  | 'f' => some '\x0c'
  | 'n' => some '\n'
  | 'r' => some '\r'
  | 't' => some '\t'
  | _ => none

/-- Adds a code to what is read behind it. -/
def consCode (code : Nat) :
    Except Stop (List Nat × List Char) → Except Stop (List Nat × List Char)
  | .ok (codes, rest) => .ok (code :: codes, rest)
  | .error stop => .error stop

/-- The codes of a string up to its closing quotation mark, and the text behind that. An escape
by number gives a code of sixteen bits. `opening` is what was left of the text at the opening
mark. -/
def readCodes (opening : Nat) : List Char → Except Stop (List Nat × List Char)
  | [] => .error (.fault .unterminatedString opening)
  | '"' :: rest => .ok ([], rest)
  | ['\\'] => .error (.fault .unterminatedString opening)
  | '\\' :: 'u' :: a :: b :: c :: d :: next :: rest =>
    match Number.readHex? [a, b, c, d] with
    | some code => consCode code (readCodes opening (next :: rest))
    | none => .error (.fault .invalidUnicodeEscape (rest.length + 6))
  | '\\' :: 'u' :: rest => .error (.fault .invalidUnicodeEscape (rest.length + 1))
  | '\\' :: letter :: rest =>
    match shortEscape? letter with
    | some c => consCode c.toNat (readCodes opening rest)
    | none => .error (.fault .invalidEscape (rest.length + 2))
  | c :: rest =>
    if c.toNat < 0x20 then .error (.fault .controlCharacter (rest.length + 1))
    else consCode c.toNat (readCodes opening rest)

/-- A string from behind its opening quotation mark. -/
def readString (text : List Char) : Except Stop (String × List Char) :=
  match readCodes (text.length + 1) text with
  | .ok (codes, rest) => .ok (String.ofList (Text.joinSurrogates codes), rest)
  | .error stop => .error stop

theorem length_of_readCodes {opening : Nat} {text : List Char} {codes : List Nat}
    {rest : List Char} (hread : readCodes opening text = .ok (codes, rest)) :
    rest.length < text.length := by
  have hcons : ∀ {code : Nat} {result : Except Stop (List Nat × List Char)} {codes : List Nat},
      consCode code result = .ok (codes, rest) → ∃ codes, result = .ok (codes, rest) := by
    intro code result codes hresult
    cases result with
    | error stop => simp [consCode] at hresult
    | ok pair =>
      simp only [consCode, Except.ok.injEq, Prod.mk.injEq] at hresult
      exact ⟨pair.1, by simp [← hresult.2]⟩
  fun_induction readCodes opening text generalizing codes <;>
    simp_all only [Except.ok.injEq, Prod.mk.injEq, reduceCtorEq, List.length_cons]
  case case2 => omega
  case case4 ih =>
    obtain ⟨codes, hcodes⟩ := hcons hread
    have := ih hcodes
    omega
  case case7 ih =>
    obtain ⟨codes, hcodes⟩ := hcons hread
    have := ih hcodes
    omega
  case case10 ih =>
    obtain ⟨codes, hcodes⟩ := hcons hread
    have := ih hcodes
    omega

theorem length_of_readString {text : List Char} {value : String} {rest : List Char}
    (hread : readString text = .ok (value, rest)) : rest.length < text.length := by
  unfold readString at hread
  split at hread
  next hcodes =>
    simp only [Except.ok.injEq, Prod.mk.injEq] at hread
    exact hread.2 ▸ length_of_readCodes hcodes
  next => simp at hread

end Assay.Json
