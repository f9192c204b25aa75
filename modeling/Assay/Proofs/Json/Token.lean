import Assay.Json.Token
import Assay.Proofs.Json.Grammar

/-! # Reading blanks, words and strings

Each reader of a token takes from the start of a text what the grammar allows there, and leaves
the rest as it is.
-/

namespace Assay.Json

/-! ## Blanks -/

theorem isJsonBlank_iff {c : Char} :
    isJsonBlank c = true ↔ c = ' ' ∨ c = '\t' ∨ c = '\n' ∨ c = '\r' := by
  simp [isJsonBlank, or_assoc]

theorem areBlanks_iff {text : List Char} :
    AreBlanks text ↔ ∀ c ∈ text, isJsonBlank c = true := by
  simp only [AreBlanks, isJsonBlank_iff]

theorem AreBlanks.nil : AreBlanks [] := fun _ hmem => absurd hmem List.not_mem_nil

theorem AreBlanks.append {left right : List Char} (hleft : AreBlanks left)
    (hright : AreBlanks right) : AreBlanks (left ++ right) := by
  intro c hmem
  rcases List.mem_append.mp hmem with hmem | hmem
  · exact hleft c hmem
  · exact hright c hmem

theorem skipBlanks_append {blanks : List Char} (hblanks : AreBlanks blanks) (text : List Char) :
    skipBlanks (blanks ++ text) = skipBlanks text :=
  List.dropWhile_append_of_pos (areBlanks_iff.mp hblanks)

/-- The text behind the blanks, and the blanks themselves. -/
theorem exists_blanks (text : List Char) :
    ∃ blanks, AreBlanks blanks ∧ text = blanks ++ skipBlanks text :=
  ⟨text.takeWhile isJsonBlank, areBlanks_iff.mpr fun _ => List.mem_takeWhile_imp,
    List.takeWhile_append_dropWhile.symm⟩

def StartsSolid (text : List Char) : Prop := ∀ c ∈ text.head?, isJsonBlank c = false

theorem skipBlanks_of_startsSolid {text : List Char} (hsolid : StartsSolid text) :
    skipBlanks text = text := by
  cases text with
  | nil => rfl
  | cons c rest =>
      apply List.dropWhile_cons_of_neg
      rw [hsolid c rfl]
      exact Bool.false_ne_true

theorem skipBlanks_eq_nil_iff {text : List Char} : skipBlanks text = [] ↔ AreBlanks text := by
  rw [areBlanks_iff, skipBlanks, List.dropWhile_eq_nil_iff]

/-! ## Words -/

theorem dropWord_eq_some {word text rest : List Char} (hdrop : dropWord word text = some rest) :
    text = word ++ rest := by
  induction word generalizing text with
  | nil =>
      rw [dropWord, Option.some.injEq] at hdrop
      exact hdrop
  | cons letter word ih =>
      cases text with
      | nil => simp [dropWord] at hdrop
      | cons c text =>
          rw [dropWord] at hdrop
          split at hdrop
          next hletter => rw [hletter, ih hdrop, List.cons_append]
          next => simp at hdrop

/-! ## Strings -/

/-- The short escapes are those of the grammar. -/
theorem shortEscape?_eq_some_iff {letter c : Char} :
    shortEscape? letter = some c ↔ (letter, c) ∈ shortEscapes := by
  constructor
  · intro hescape
    unfold shortEscape? at hescape
    split at hescape <;> cases hescape <;> decide
  · intro hmem
    simp only [shortEscapes, List.mem_cons, Prod.mk.injEq, List.not_mem_nil, or_false] at hmem
    rcases hmem with ⟨rfl, rfl⟩ | ⟨rfl, rfl⟩ | ⟨rfl, rfl⟩ | ⟨rfl, rfl⟩ | ⟨rfl, rfl⟩ |
      ⟨rfl, rfl⟩ | ⟨rfl, rfl⟩ | ⟨rfl, rfl⟩ <;> rfl

theorem char_le_iff {left right : Char} : left ≤ right ↔ left.toNat ≤ right.toNat := by
  rw [Char.le_def, UInt32.le_iff_toNat_le]
  rfl

theorem isDigit_iff {c : Char} : c.isDigit = true ↔ '0' ≤ c ∧ c ≤ '9' := by
  rw [Char.isDigit_iff_toNat, char_le_iff, char_le_iff]

theorem hexValue?_eq_some_iff {c : Char} {value : Nat} :
    Number.hexValue? c = some value ↔ HexDigit c value := by
  unfold Number.hexValue?
  simp only [isDigit_iff, Bool.and_eq_true, decide_eq_true_eq]
  constructor
  · intro hvalue
    split at hvalue
    next hdecimal => exact Option.some.inj hvalue ▸ .decimal hdecimal.1 hdecimal.2
    next =>
      split at hvalue
      next hlower => exact Option.some.inj hvalue ▸ .lower hlower.1 hlower.2
      next =>
        split at hvalue
        next hupper => exact Option.some.inj hvalue ▸ .upper hupper.1 hupper.2
        next => simp at hvalue
  · intro hdigit
    cases hdigit with
    | decimal hlow hhigh => rw [if_pos ⟨hlow, hhigh⟩]
    | lower hlow hhigh =>
        have hdecimal : ¬ ('0' ≤ c ∧ c ≤ '9') := fun h => by
          have := char_le_iff.mp (hlow.trans h.2)
          simp at this
        rw [if_neg hdecimal, if_pos ⟨hlow, hhigh⟩]
    | upper hlow hhigh =>
        have hdecimal : ¬ ('0' ≤ c ∧ c ≤ '9') := fun h => by
          have := char_le_iff.mp (hlow.trans h.2)
          simp at this
        have hlower : ¬ ('a' ≤ c ∧ c ≤ 'f') := fun h => by
          have := char_le_iff.mp (h.1.trans hhigh)
          simp at this
        rw [if_neg hdecimal, if_neg hlower, if_pos ⟨hlow, hhigh⟩]

theorem readHex?_four {c₁ c₂ c₃ c₄ : Char} {code : Nat} :
    Number.readHex? [c₁, c₂, c₃, c₄] = some code ↔
      ∃ d₁ d₂ d₃ d₄, HexDigit c₁ d₁ ∧ HexDigit c₂ d₂ ∧ HexDigit c₃ d₃ ∧ HexDigit c₄ d₄ ∧
        code = ((d₁ * 16 + d₂) * 16 + d₃) * 16 + d₄ := by
  simp only [Number.readHex?, List.foldlM_cons, List.foldlM_nil, Option.bind_eq_bind,
    Option.bind_eq_some_iff, Option.map_eq_some_iff, hexValue?_eq_some_iff]
  constructor
  · rintro ⟨_, ⟨d₁, h₁, rfl⟩, _, ⟨d₂, h₂, rfl⟩, _, ⟨d₃, h₃, rfl⟩, _, ⟨d₄, h₄, rfl⟩, hcode⟩
    refine ⟨d₁, d₂, d₃, d₄, h₁, h₂, h₃, h₄, ?_⟩
    have := Option.some.inj hcode
    omega
  · rintro ⟨d₁, d₂, d₃, d₄, h₁, h₂, h₃, h₄, rfl⟩
    refine ⟨_, ⟨d₁, h₁, rfl⟩, _, ⟨d₂, h₂, rfl⟩, _, ⟨d₃, h₃, rfl⟩, _, ⟨d₄, h₄, rfl⟩, ?_⟩
    congr 1
    omega

theorem consCode_eq_ok {code : Nat} {result : Except Stop (List Nat × List Char)}
    {codes : List Nat} {rest : List Char} (hresult : consCode code result = .ok (codes, rest)) :
    ∃ others, result = .ok (others, rest) ∧ codes = code :: others := by
  cases result with
  | error stop => simp [consCode] at hresult
  | ok pair =>
      simp only [consCode, Except.ok.injEq, Prod.mk.injEq] at hresult
      exact ⟨pair.1, by rw [← hresult.2], hresult.1.symm⟩

/-- What is read as the body of a string is written as the codes it gives. -/
theorem codesWrittenAs_of_readCodes {opening : Nat} {text : List Char} {codes : List Nat}
    {rest : List Char} (hread : readCodes opening text = .ok (codes, rest)) :
    ∃ written, text = written ++ '"' :: rest ∧ CodesWrittenAs codes written := by
  fun_induction readCodes opening text generalizing codes with
  | case1 => simp at hread
  | case2 behind =>
      simp only [Except.ok.injEq, Prod.mk.injEq] at hread
      obtain ⟨rfl, rfl⟩ := hread
      exact ⟨[], rfl, .nil⟩
  | case3 => simp at hread
  | case4 c₁ c₂ c₃ c₄ next behind code hhex ih =>
      obtain ⟨others, hothers, rfl⟩ := consCode_eq_ok hread
      obtain ⟨written, htext, hwritten⟩ := ih hothers
      obtain ⟨d₁, d₂, d₃, d₄, h₁, h₂, h₃, h₄, rfl⟩ := readHex?_four.mp hhex
      exact ⟨_, by rw [htext]; rfl, .numbered h₁ h₂ h₃ h₄ hwritten⟩
  | case5 => simp at hread
  | case6 => simp at hread
  | case7 letter behind _ _ c hescape ih =>
      obtain ⟨others, hothers, rfl⟩ := consCode_eq_ok hread
      obtain ⟨written, htext, hwritten⟩ := ih hothers
      exact ⟨_, by rw [htext]; rfl, .short (shortEscape?_eq_some_iff.mp hescape) hwritten⟩
  | case8 => simp at hread
  | case9 => simp at hread
  | case10 c behind hquote hend _ _ hescape hcontrol ih =>
      obtain ⟨others, hothers, rfl⟩ := consCode_eq_ok hread
      obtain ⟨written, htext, hwritten⟩ := ih hothers
      have hbackslash : c ≠ '\\' := by
        intro hc
        cases behind with
        | nil => exact hend hc rfl
        | cons letter rest => exact hescape letter rest hc rfl
      exact ⟨_, by rw [htext]; rfl, .plain hquote hbackslash (not_lt.mp hcontrol) hwritten⟩

theorem readCodes_plain (opening : Nat) {c : Char} (text : List Char) (hquote : c ≠ '"')
    (hbackslash : c ≠ '\\') (hcontrol : 0x20 ≤ c.toNat) :
    readCodes opening (c :: text) = consCode c.toNat (readCodes opening text) := by
  rw [readCodes]
  · rw [if_neg (not_lt.mpr hcontrol)]
  all_goals simp_all

theorem readCodes_short (opening : Nat) {letter c : Char} (text : List Char)
    (hletter : (letter, c) ∈ shortEscapes) :
    readCodes opening ('\\' :: letter :: text) = consCode c.toNat (readCodes opening text) := by
  have hescape := shortEscape?_eq_some_iff.mpr hletter
  have hnumber : letter ≠ 'u' := by
    rintro rfl
    simp [shortEscape?] at hescape
  rw [readCodes]
  · rw [hescape]
  all_goals simp_all

/-- An escape with four digits stands for its code, if the string does not break off behind it. -/
theorem readCodes_numbered (opening : Nat) {c₁ c₂ c₃ c₄ : Char} {code : Nat} {text : List Char}
    (hcode : Number.readHex? [c₁, c₂, c₃, c₄] = some code) (hmore : text ≠ []) :
    readCodes opening ('\\' :: 'u' :: c₁ :: c₂ :: c₃ :: c₄ :: text) =
      consCode code (readCodes opening text) := by
  cases text with
  | nil => exact absurd rfl hmore
  | cons next rest => rw [readCodes, hcode]

/-- The codes of a string are read back from any way to write them. -/
theorem readCodes_of_codesWrittenAs (opening : Nat) {codes : List Nat} {written : List Char}
    (hwritten : CodesWrittenAs codes written) (rest : List Char) :
    readCodes opening (written ++ '"' :: rest) = .ok (codes, rest) := by
  induction hwritten with
  | nil => rfl
  | plain hquote hbackslash hcontrol _ ih =>
      rw [List.cons_append, readCodes_plain opening _ hquote hbackslash hcontrol, ih]
      rfl
  | short hletter _ ih =>
      rw [List.cons_append, List.cons_append, readCodes_short opening _ hletter, ih]
      rfl
  | numbered h₁ h₂ h₃ h₄ _ ih =>
      have hcode := readHex?_four.mpr ⟨_, _, _, _, h₁, h₂, h₃, h₄, rfl⟩
      simp only [List.cons_append]
      rw [readCodes_numbered opening hcode (by simp), ih]
      rfl

theorem isHighSurrogate_iff {code : Nat} :
    Text.isHighSurrogate code = true ↔ 0xD800 ≤ code ∧ code < 0xDC00 := by
  simp [Text.isHighSurrogate]

theorem isLowSurrogate_iff {code : Nat} :
    Text.isLowSurrogate code = true ↔ 0xDC00 ≤ code ∧ code < 0xE000 := by
  simp [Text.isLowSurrogate]

/-- Codes denote the text that they are joined to. -/
theorem codesDenote_joinSurrogates (codes : List Nat) :
    CodesDenote codes (Text.joinSurrogates codes) := by
  fun_induction Text.joinSurrogates codes with
  | case1 high low codes hpair ih =>
      rw [Bool.and_eq_true, isHighSurrogate_iff, isLowSurrogate_iff] at hpair
      exact .pair hpair.1 hpair.2 ih
  | case2 high low codes hpair ih =>
      rw [Bool.and_eq_true, isHighSurrogate_iff, isLowSurrogate_iff] at hpair
      refine .single ?_ ih
      intro hhigh other hother hlow
      obtain rfl := Option.some.inj hother
      exact hpair ⟨hhigh, hlow⟩
  | case3 code => exact .single (fun _ _ hnone => absurd hnone (by simp)) .nil
  | case4 => exact .nil

theorem joinSurrogates_of_codesDenote {codes : List Nat} {text : List Char}
    (hdenote : CodesDenote codes text) : Text.joinSurrogates codes = text := by
  induction hdenote with
  | nil => rfl
  | pair hhigh hlow _ ih =>
      rw [Text.joinSurrogates, if_pos, ih]
      rw [Bool.and_eq_true, isHighSurrogate_iff, isLowSurrogate_iff]
      exact ⟨hhigh, hlow⟩
  | @single code codes text hsingle _ ih =>
      cases codes with
      | nil => rw [← ih]; rfl
      | cons low rest =>
          rw [Text.joinSurrogates, if_neg, ih]
          rw [Bool.and_eq_true, isHighSurrogate_iff, isLowSurrogate_iff]
          exact fun hpair => hsingle hpair.1 low rfl hpair.2

/-- What is read as a string is written as codes that denote it. -/
theorem exists_codes_of_readString {text : List Char} {value : String} {rest : List Char}
    (hread : readString text = .ok (value, rest)) :
    ∃ codes written chars, text = written ++ '"' :: rest ∧ CodesWrittenAs codes written ∧
      CodesDenote codes chars ∧ value = String.ofList chars := by
  unfold readString at hread
  split at hread
  next codes behind hcodes =>
    simp only [Except.ok.injEq, Prod.mk.injEq] at hread
    obtain ⟨rfl, rfl⟩ := hread
    obtain ⟨written, htext, hwritten⟩ := codesWrittenAs_of_readCodes hcodes
    exact ⟨codes, written, _, htext, hwritten, codesDenote_joinSurrogates codes, rfl⟩
  next => simp at hread

/-- A string is read from any way to write codes that denote it. -/
theorem readString_of_codes {codes : List Nat} {written chars : List Char}
    (hwritten : CodesWrittenAs codes written) (hdenote : CodesDenote codes chars)
    (rest : List Char) :
    readString (written ++ '"' :: rest) = .ok (String.ofList chars, rest) := by
  rw [readString, readCodes_of_codesWrittenAs _ hwritten rest,
    ← joinSurrogates_of_codesDenote hdenote]

end Assay.Json
