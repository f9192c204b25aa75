import Assay.Number.IntegerText
import Assay.Pattern.CharacterName
import Assay.Pattern.Syntax
import Assay.Text.Identifier

/-! # Tokens of patterns

A pattern is read as single characters and characters behind a backslash. Here are the readers
for the parts of a pattern that do not nest: escapes, sets of characters, bounds on repetitions
and settings.
-/

namespace Assay.Pattern

/-- Why a text is no pattern. -/
inductive Refusal where
  | malformed
  | repetitionTooLarge
  | incompatibleAlphabets
  | tooManyDigits (refusal : Number.TooManyDigits)
  | tooDeep
  deriving DecidableEq

/-- The wording of a refusal; a malformed pattern and one that is nested too deeply are reported
without one. -/
def Refusal.message : Refusal → String
  | malformed | tooDeep => ""
  | repetitionTooLarge => "the repetition number is too large"
  | incompatibleAlphabets => "ASCII and UNICODE flags are incompatible"
  | tooManyDigits refusal => refusal.message

/-- A character of a pattern, by itself or behind a backslash, or a backslash at the end. -/
inductive Token where
  | plain (c : Char)
  | escaped (c : Char)
  | dangling
  deriving DecidableEq

def tokens : List Char → List Token
  | [] => []
  | ['\\'] => [.dangling]
  | '\\' :: c :: rest => .escaped c :: tokens rest
  | c :: rest => .plain c :: tokens rest

abbrev Scan (α : Type) : Type := Except Refusal (α × List Token)

/-- At most `limit` single characters of a kind at the start. -/
def takeChars (accept : Char → Bool) : (limit : Nat) → List Token → List Char × List Token
  | limit + 1, .plain c :: rest =>
    if accept c then
      let (taken, rest) := takeChars accept limit rest
      (c :: taken, rest)
    else
      ([], .plain c :: rest)
  | _, rest => ([], rest)

/-- The characters of the tokens before a terminator, and the tokens behind it. -/
def untilChar (terminator : Char) : List Token → Option (List Char × List Token)
  | [] | .dangling :: _ => none
  | .plain c :: rest =>
    if c = terminator then some ([], rest)
    else (untilChar terminator rest).map fun (before, behind) => (c :: before, behind)
  | .escaped c :: rest =>
    (untilChar terminator rest).map fun (before, behind) => ('\\' :: c :: before, behind)

/-- A name before a terminator, which may not be empty. -/
def readUntil (terminator : Char) (input : List Token) : Scan (List Char) :=
  match untilChar terminator input with
  | none | some ([], _) => .error .malformed
  | some result => .ok result

/-! ## Escapes -/

def isOctal (c : Char) : Bool := '0' ≤ c && c ≤ '7'

def ofOctal (digits : List Char) : Nat :=
  digits.foldl (fun value digit => 8 * value + Number.digitValue digit) 0

/-- An escape by a fixed count of hexadecimal digits. -/
def readHexEscape (count : Nat) (input : List Token) : Scan Nat :=
  let (digits, rest) := takeChars (fun c => (Number.hexValue? c).isSome) count input
  match Number.readHex? digits with
  | some code =>
    if digits.length = count && code ≤ 0x10FFFF then .ok (code, rest) else .error .malformed
  | none => .error .malformed

def readNameEscape : List Token → Scan Nat
  | .plain '{' :: rest =>
    match readUntil '}' rest with
    | .error refusal => .error refusal
    | .ok (name, rest) => match codeOfName? name with
      | some code => .ok (code, rest)
      | none => .error .malformed
  | _ => .error .malformed

/-- The escapes by a letter that mean one character everywhere. -/
def letterEscape? : Char → Option Nat
  | 'a' => some 0x7
  | 'f' => some 0xC
  | 'n' => some 0xA
  | 'r' => some 0xD
  | 't' => some 0x9
  | 'v' => some 0xB
  | '\\' => some 0x5C
  | _ => none

/-- The escapes by a letter that mean a class of characters. -/
def classEscape? : Char → Option SetItem
  | 'd' => some (.named .digit false)
  | 'D' => some (.named .digit true)
  | 's' => some (.named .space false)
  | 'S' => some (.named .space true)
  | 'w' => some (.named .word false)
  | 'W' => some (.named .word true)
  | _ => none

/-- An escape that means one character by its number or name, or the character itself when it
is neither an ASCII letter nor a digit. -/
def readCodeEscape (letter : Char) (rest : List Token) : Scan Nat :=
  match letter with
  | 'x' => readHexEscape 2 rest
  | 'u' => readHexEscape 4 rest
  | 'U' => readHexEscape 8 rest
  | 'N' => readNameEscape rest
  | _ => if letter.isAlphanum then .error .malformed else .ok (letter.toNat, rest)

/-- An octal escape of up to three digits, not above 0o377. -/
def readOctal (first : Char) (rest : List Token) : Scan Nat :=
  let (others, rest) := takeChars isOctal 2 rest
  let code := ofOctal (first :: others)
  if 0o377 < code then .error .malformed else .ok (code, rest)

def readSetEscape (letter : Char) (rest : List Token) : Scan SetItem :=
  match letterEscape? letter, classEscape? letter with
  | some code, _ => .ok (.single code, rest)
  | none, some item => .ok (item, rest)
  | none, none =>
    let code :=
      if letter = 'b' then .ok (0x8, rest)
      else if isOctal letter then readOctal letter rest
      else readCodeEscape letter rest
    match code with
    | .ok (code, rest) => .ok (.single code, rest)
    | .error refusal => .error refusal

/-! ## Sets of characters -/

def readSetMember : List Token → Scan SetItem
  | .plain c :: rest => .ok (.single c.toNat, rest)
  | .escaped c :: rest => readSetEscape c rest
  | _ => .error .malformed

/-- The members of a set behind its opening bracket, in reverse order, up to the closing one.
The bound is on the number of members. -/
def readSetItems : (bound : Nat) → List SetItem → List Token → Scan (List SetItem)
  | 0, _, _ => .error .malformed
  | bound + 1, items, input =>
    match items, input with
    | _ :: _, .plain ']' :: rest => .ok (items, rest)
    | _, _ =>
      match readSetMember input with
      | .error refusal => .error refusal
      | .ok (low, .plain '-' :: .plain ']' :: rest) => .ok (.single '-'.toNat :: low :: items, rest)
      | .ok (low, .plain '-' :: behind) =>
        match readSetMember behind with
        | .error refusal => .error refusal
        | .ok (high, rest) => match low, high with
          | .single low, .single high =>
            if high < low then .error .malformed
            else readSetItems bound (.range low high :: items) rest
          | _, _ => .error .malformed
      | .ok (item, rest) => readSetItems bound (item :: items) rest

/-- A set of characters behind its opening bracket. A set of one character is that character. -/
def readSet (ignoreCase : Bool) (alphabet : Alphabet) (input : List Token) : Scan CharTest :=
  let (negated, members) := match input with
    | .plain '^' :: rest => (true, rest)
    | rest => (false, rest)
  match readSetItems (members.length + 1) [] members with
  | .error refusal => .error refusal
  | .ok (items, rest) => match items.eraseDups with
    | [.single code] => .ok (.literal ignoreCase alphabet negated code, rest)
    | _ => .ok (.oneOf ignoreCase alphabet negated items.reverse, rest)

/-! ## Repetitions -/

/-- Refuses for a reason that is found when the tokens before `rest` have been read. A backslash
that ends the pattern is noticed before. -/
def refuseBefore {α : Type} (rest : List Token) (refusal : Refusal) : Except Refusal α :=
  if rest = [.dangling] then .error .malformed else .error refusal

def readBound (digits : List Char) (rest : List Token) : Except Refusal Nat :=
  match Number.readDigits digits with
  | .error refusal => refuseBefore rest (.tooManyDigits refusal)
  | .ok bound => if unbounded ≤ bound then refuseBefore rest .repetitionTooLarge else .ok bound

/-- The bounds of a repetition and the tokens behind it. Braces that hold no bounds are no
repetition. -/
def readBounds? (input : List Token) : Except Refusal (Option (Nat × Option Nat × List Token)) :=
  match input with
  | .plain '?' :: rest => .ok (some (0, some 1, rest))
  | .plain '*' :: rest => .ok (some (0, none, rest))
  | .plain '+' :: rest => .ok (some (1, none, rest))
  | .plain '{' :: .plain '}' :: _ => .ok none
  | .plain '{' :: opened =>
    let (low, behindLow) := takeChars Char.isDigit opened.length opened
    let (high, behindHigh) := match behindLow with
      | .plain ',' :: behind => takeChars Char.isDigit behind.length behind
      | _ => (low, behindLow)
    match behindHigh with
    | .plain '}' :: rest => do
      let least ← if low.isEmpty then .ok 0 else readBound low rest
      if high.isEmpty then
        return some (least, none, rest)
      else
        let most ← readBound high rest
        if most < least then .error .malformed else return some (least, some most, rest)
    | _ => .ok none
  | _ => .ok none

/-- How a repetition chooses, by the mark behind it. -/
def readEagerness : List Token → Eagerness × List Token
  | .plain '?' :: rest => (.lazy, rest)
  | .plain '+' :: rest => (.possessive, rest)
  | rest => (.greedy, rest)

/-! ## Settings -/

inductive Setting where
  | ignoreCase
  | multiline
  | dotAll
  | verbose
  | ascii
  | unicode
  | template
  deriving DecidableEq

/-- The setting of a letter. The letter for the character set of the locale is refused where it
is used. -/
def Setting.ofChar? : Char → Option Setting
  | 'i' => some .ignoreCase
  | 'm' => some .multiline
  | 's' => some .dotAll
  | 'x' => some .verbose
  | 'a' => some .ascii
  | 'u' => some .unicode
  | 't' => some .template
  | _ => none

def Setting.isAlphabet (setting : Setting) : Bool := setting = .ascii || setting = .unicode

/-- The letters of settings at the start and the tokens behind them. -/
def takeSettings : List Token → List Setting × List Token
  | .plain c :: rest => match Setting.ofChar? c with
    | some setting =>
      let (settings, rest) := takeSettings rest
      (setting :: settings, rest)
    | none => ([], .plain c :: rest)
  | rest => ([], rest)

/-- What the letters of settings behind an opening parenthesis and a question mark do. -/
inductive SettingGroup where
  | global (added : List Setting)
  | scoped (added removed : List Setting)

/-- Settings up to the parenthesis or the colon that ends them. An alphabet is chosen once and
never removed, and what is added is not removed again. -/
def readSettings (input : List Token) : Scan SettingGroup :=
  let (added, behindAdded) := takeSettings input
  if added.contains .ascii && added.contains .unicode then
    .error .malformed
  else match behindAdded with
    | .plain ')' :: rest =>
      if added.isEmpty then .error .malformed else .ok (.global added, rest)
    | .plain ':' :: rest =>
      if added.isEmpty || added.contains .template then .error .malformed
      else .ok (.scoped added [], rest)
    | .plain '-' :: behindMinus =>
      let (removed, behindRemoved) := takeSettings behindMinus
      match behindRemoved with
      | .plain ':' :: rest =>
        if removed.isEmpty || (added ++ removed).contains .template ||
            removed.any Setting.isAlphabet || removed.any added.contains then
          .error .malformed
        else
          .ok (.scoped added removed, rest)
      | _ => .error .malformed
    | _ => .error .malformed

end Assay.Pattern
