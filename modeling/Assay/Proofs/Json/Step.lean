import Assay.Proofs.Json.Numeral
import Assay.Proofs.Json.Walk

/-! # What the readers of JSON text do

For each reader one equivalence says when it takes a result from the start of a text and what it
leaves. No later proof opens a reader.
-/

namespace Assay.Json

/-- A reader takes a result from the start of a text and leaves a rest. -/
def Takes {α : Type} (reader : Reader α) (text : List Char) (result : α) (rest : List Char) :
    Prop :=
  ∃ hrest, reader text = .ok (result, ⟨rest, hrest⟩)

theorem Takes.length_lt {α : Type} {reader : Reader α} {text rest : List Char} {result : α}
    (htakes : Takes reader text result rest) : rest.length < text.length := htakes.1

/-- Two results of a reader with the rests that they leave are the same only if both are. -/
theorem ok_inj {α : Type} {property : List Char → Prop} {left right : α}
    {first second : List Char} {hfirst : property first} {hsecond : property second}
    (heq : (.ok (left, ⟨first, hfirst⟩) : Except Stop (α × Subtype property)) =
      .ok (right, ⟨second, hsecond⟩)) : left = right ∧ first = second := by
  simpa only [Except.ok.injEq, Prod.mk.injEq, Subtype.mk.injEq] using heq

variable {mode : Mode} {readItem : Reader Value} {text rest : List Char}

/-! ## Arrays and objects -/

/-- One round of the reader of items: an item, and then either the end or a comma with more items
behind it. -/
theorem takes_readItems_iff {items : List Value} :
    Takes (readItems readItem) text items rest ↔
      ∃ item behind, Takes readItem text item behind ∧
        ((skipBlanks behind = ']' :: rest ∧ items = [item]) ∨
          ∃ others more, skipBlanks behind = ',' :: others ∧
            Takes (readItems readItem) (skipBlanks others) more rest ∧ items = item :: more) := by
  constructor
  · rintro ⟨hrest, hread⟩
    rw [readItems] at hread
    split at hread
    next => simp at hread
    next item behind hbehind hitem =>
      refine ⟨item, behind, ⟨hbehind, hitem⟩, ?_⟩
      split at hread
      next hnext =>
        obtain ⟨rfl, rfl⟩ := ok_inj hread
        exact Or.inl ⟨hnext, rfl⟩
      next others hnext =>
        split at hread
        next => simp at hread
        next more behindMore hmore hothers =>
          obtain ⟨rfl, rfl⟩ := ok_inj hread
          exact Or.inr ⟨others, more, hnext, ⟨hmore, hothers⟩, rfl⟩
      next => simp at hread
  · rintro ⟨item, behind, ⟨hbehind, hitem⟩, hnext⟩
    have hlength : rest.length < text.length := by
      rcases hnext with ⟨hnext, -⟩ | ⟨others, more, hnext, hothers, -⟩
      · exact Nat.lt_trans (length_of_skipBlanks hnext) hbehind
      · have hblanks := length_skipBlanks_le others
        have := hothers.length_lt
        have := length_of_skipBlanks hnext
        omega
    refine ⟨hlength, ?_⟩
    rw [readItems, hitem]
    rcases hnext with ⟨hnext, rfl⟩ | ⟨others, more, hnext, ⟨hmore, hothers⟩, rfl⟩
    · dsimp only
      split
      next hclose =>
        obtain ⟨-, rfl⟩ := List.cons.inj (hnext.symm.trans hclose)
        rfl
      next hcomma => simp [hnext] at hcomma
      next hclose _ => exact absurd hnext (hclose rest)
    · dsimp only
      split
      next hclose => simp [hnext] at hclose
      next hcomma =>
        obtain ⟨-, rfl⟩ := List.cons.inj (hnext.symm.trans hcomma)
        rw [hothers]
      next _ hcomma => exact absurd hnext (hcomma others)

/-- A name is a string that a colon follows. -/
theorem takes_readName_iff {name : String} :
    Takes readName text name rest ↔
      ∃ opened behindName behindColon, text = '"' :: opened ∧
        readString opened = .ok (name, behindName) ∧ skipBlanks behindName = ':' :: behindColon ∧
        rest = skipBlanks behindColon := by
  constructor
  · rintro ⟨hrest, hread⟩
    unfold readName at hread
    split at hread
    next opened =>
      split at hread
      next => simp at hread
      next name' behindName hname =>
        split at hread
        next behindColon hnext =>
          obtain ⟨rfl, rfl⟩ := ok_inj hread
          exact ⟨opened, behindName, behindColon, rfl, hname, hnext, rfl⟩
        next => simp at hread
    next => simp at hread
  · rintro ⟨opened, behindName, behindColon, rfl, hname, hnext, rfl⟩
    have hlength : (skipBlanks behindColon).length < ('"' :: opened).length := by
      have := length_skipBlanks_le behindColon
      have := length_of_skipBlanks hnext
      have := length_of_readString hname
      rw [List.length_cons]
      omega
    refine ⟨hlength, ?_⟩
    rw [readName]
    split
    next hstop => simp [hname] at hstop
    next name' behindName' hname' =>
      obtain ⟨rfl, rfl⟩ := Prod.mk.inj (Except.ok.inj (hname.symm.trans hname'))
      split
      next hcolon =>
        obtain ⟨-, rfl⟩ := List.cons.inj (hnext.symm.trans hcolon)
        rfl
      next hcolon => exact absurd hnext (hcolon behindColon)

/-- One round of the reader of members: a name and its value, and then either the end or a comma
with more members behind it. -/
theorem takes_readMembers_iff {members : List (String × Value)} :
    Takes (readMembers readItem) text members rest ↔
      ∃ name behindName value behind, Takes readName text name behindName ∧
        Takes readItem behindName value behind ∧
        ((skipBlanks behind = '}' :: rest ∧ members = [(name, value)]) ∨
          ∃ others more, skipBlanks behind = ',' :: others ∧
            Takes (readMembers readItem) (skipBlanks others) more rest ∧
            members = (name, value) :: more) := by
  constructor
  · rintro ⟨hrest, hread⟩
    rw [readMembers] at hread
    split at hread
    next => simp at hread
    next name behindName hbehindName hname =>
      split at hread
      next => simp at hread
      next value behind hbehind hvalue =>
        refine ⟨name, behindName, value, behind, ⟨hbehindName, hname⟩, ⟨hbehind, hvalue⟩, ?_⟩
        split at hread
        next hnext =>
          obtain ⟨rfl, rfl⟩ := ok_inj hread
          exact Or.inl ⟨hnext, rfl⟩
        next others hnext =>
          split at hread
          next => simp at hread
          next more behindMore hmore hothers =>
            obtain ⟨rfl, rfl⟩ := ok_inj hread
            exact Or.inr ⟨others, more, hnext, ⟨hmore, hothers⟩, rfl⟩
        next => simp at hread
  · rintro ⟨name, behindName, value, behind, ⟨hbehindName, hname⟩, ⟨hbehind, hvalue⟩, hnext⟩
    have hlength : rest.length < text.length := by
      rcases hnext with ⟨hnext, -⟩ | ⟨others, more, hnext, hothers, -⟩
      · have := length_of_skipBlanks hnext
        omega
      · have hblanks := length_skipBlanks_le others
        have := hothers.length_lt
        have := length_of_skipBlanks hnext
        omega
    refine ⟨hlength, ?_⟩
    rw [readMembers, hname]
    dsimp only
    rw [hvalue]
    rcases hnext with ⟨hnext, rfl⟩ | ⟨others, more, hnext, ⟨hmore, hothers⟩, rfl⟩
    · dsimp only
      split
      next hclose =>
        obtain ⟨-, rfl⟩ := List.cons.inj (hnext.symm.trans hclose)
        rfl
      next hcomma => simp [hnext] at hcomma
      next hclose _ => exact absurd hnext (hclose rest)
    · dsimp only
      split
      next hclose => simp [hnext] at hclose
      next hcomma =>
        obtain ⟨-, rfl⟩ := List.cons.inj (hnext.symm.trans hcomma)
        rw [hothers]
      next _ hcomma => exact absurd hnext (hcomma others)

/-- An array is either closed at once or has items. -/
theorem readArray_eq_ok_iff {value : Value} :
    (∃ hrest, readArray readItem text = .ok (value, ⟨rest, hrest⟩)) ↔
      (skipBlanks text = ']' :: rest ∧ value = .array []) ∨
        ((∀ behind, skipBlanks text ≠ ']' :: behind) ∧
          ∃ items, Takes (readItems readItem) (skipBlanks text) items rest ∧
            value = .array items) := by
  constructor
  · rintro ⟨hrest, hread⟩
    unfold readArray at hread
    split at hread
    next hnext =>
      obtain ⟨rfl, rfl⟩ := ok_inj hread
      exact Or.inl ⟨hnext, rfl⟩
    next hclose =>
      split at hread
      next => simp at hread
      next items behind hbehind hitems =>
        obtain ⟨rfl, rfl⟩ := ok_inj hread
        exact Or.inr ⟨hclose, items, ⟨hbehind, hitems⟩, rfl⟩
  · rintro (⟨hnext, rfl⟩ | ⟨hclose, items, ⟨hbehind, hitems⟩, rfl⟩)
    · refine ⟨Nat.le_of_lt (length_of_skipBlanks hnext), ?_⟩
      unfold readArray
      split
      next hclose =>
        obtain ⟨-, rfl⟩ := List.cons.inj (hnext.symm.trans hclose)
        rfl
      next hclose => exact absurd hnext (hclose rest)
    · refine ⟨Nat.le_trans (Nat.le_of_lt hbehind) (length_skipBlanks_le text), ?_⟩
      unfold readArray
      split
      next hnext => exact absurd hnext (hclose _)
      next => rw [hitems]

/-- An object is either closed at once or has members, of which the last of a name is kept. -/
theorem readObject_eq_ok_iff {value : Value} :
    (∃ hrest, readObject readItem text = .ok (value, ⟨rest, hrest⟩)) ↔
      (skipBlanks text = '}' :: rest ∧ value = .object []) ∨
        ((∀ behind, skipBlanks text ≠ '}' :: behind) ∧
          ∃ members, Takes (readMembers readItem) (skipBlanks text) members rest ∧
            value = .object (Table.ofEntries members)) := by
  constructor
  · rintro ⟨hrest, hread⟩
    unfold readObject at hread
    split at hread
    next hnext =>
      obtain ⟨rfl, rfl⟩ := ok_inj hread
      exact Or.inl ⟨hnext, rfl⟩
    next hclose =>
      split at hread
      next => simp at hread
      next members behind hbehind hmembers =>
        obtain ⟨rfl, rfl⟩ := ok_inj hread
        exact Or.inr ⟨hclose, members, ⟨hbehind, hmembers⟩, rfl⟩
  · rintro (⟨hnext, rfl⟩ | ⟨hclose, members, ⟨hbehind, hmembers⟩, rfl⟩)
    · refine ⟨Nat.le_of_lt (length_of_skipBlanks hnext), ?_⟩
      unfold readObject
      split
      next hclose =>
        obtain ⟨-, rfl⟩ := List.cons.inj (hnext.symm.trans hclose)
        rfl
      next hclose => exact absurd hnext (hclose rest)
    · refine ⟨Nat.le_trans (Nat.le_of_lt hbehind) (length_skipBlanks_le text), ?_⟩
      unfold readObject
      split
      next hnext => exact absurd hnext (hclose _)
      next => rw [hmembers]

/-! ## Scalars -/

theorem findWord?_eq_some {α : Type} {choices : List (List Char × α)} {value : α}
    (hfind : findWord? choices text = some (value, rest)) :
    ∃ choice ∈ choices, text = choice.1 ++ rest ∧ value = choice.2 := by
  obtain ⟨choice, hmem, hchoice⟩ := List.exists_of_findSome?_eq_some hfind
  obtain ⟨behind, hdrop, hpair⟩ := Option.map_eq_some_iff.mp hchoice
  obtain ⟨rfl, rfl⟩ := Prod.mk.inj hpair
  exact ⟨choice, hmem, dropWord_eq_some hdrop, rfl⟩

/-- A scalar that is read is one of the words, or a numeral. -/
theorem takes_readScalar {value : Value} (htakes : Takes (readScalar .strict) text value rest) :
    (∃ choice ∈ scalarWords, text = choice.1 ++ rest ∧ value = choice.2) ∨
      ∃ numeral, readNumeral text = some (numeral, rest) ∧ numeral.Denotes value := by
  obtain ⟨hrest, hread⟩ := htakes
  unfold readScalar at hread
  split at hread
  next hword =>
    obtain ⟨rfl, rfl⟩ := ok_inj hread
    exact Or.inl (findWord?_eq_some hword)
  next =>
    split at hread
    next => simp at hread
    next =>
      split at hread
      next => simp at hread
      next numeral behind hnumeral =>
        split at hread
        next value' hvalue =>
          obtain ⟨rfl, rfl⟩ := ok_inj hread
          exact Or.inr ⟨numeral, hnumeral, Numeral.denotes_of_value hvalue⟩
        next => simp at hread

/-- The words of the scalars are looked for first. -/
theorem takes_readScalar_of_word {value : Value}
    (hfind : findWord? scalarWords text = some (value, rest)) :
    Takes (readScalar mode) text value rest := by
  refine ⟨length_of_findWord? (by decide) hfind, ?_⟩
  unfold readScalar
  split
  next hword =>
    obtain ⟨rfl, rfl⟩ := Prod.mk.inj (Option.some.inj (hfind.symm.trans hword))
    rfl
  next hnone => simp [hfind] at hnone

/-- What is no word and no constant is read as a numeral. -/
theorem takes_readScalar_of_numeral {numeral : Numeral} {value : Value}
    (hword : findWord? scalarWords text = none) (hconstant : findWord? constantWords text = none)
    (hread : readNumeral text = some (numeral, rest)) (hdenotes : numeral.Denotes value) :
    Takes (readScalar mode) text value rest := by
  refine ⟨length_of_readNumeral hread, ?_⟩
  unfold readScalar
  split
  next hsome => simp [hword] at hsome
  next =>
    split
    next hsome => simp [hconstant] at hsome
    next =>
      split
      next hnone => simp [hread] at hnone
      next numeral' behind hread' =>
        obtain ⟨rfl, rfl⟩ := Prod.mk.inj (Option.some.inj (hread.symm.trans hread'))
        rw [Numeral.value_of_denotes hdenotes]

/-! ## Values -/

theorem takes_readValue_string_iff {allowed : Nat} {value : Value} :
    Takes (readValue mode allowed) ('"' :: text) value rest ↔
      ∃ content, readString text = .ok (content, rest) ∧ value = .string content := by
  constructor
  · rintro ⟨hrest, hread⟩
    rw [readValue] at hread
    split at hread
    next => simp at hread
    next content behind hstring =>
      obtain ⟨rfl, rfl⟩ := ok_inj hread
      exact ⟨content, hstring, rfl⟩
  · rintro ⟨content, hstring, rfl⟩
    refine ⟨Nat.lt_succ_of_lt (length_of_readString hstring), ?_⟩
    rw [readValue]
    split
    next hstop => simp [hstring] at hstop
    next hother =>
      obtain ⟨rfl, rfl⟩ := Prod.mk.inj (Except.ok.inj (hstring.symm.trans hother))
      rfl

/-- A bracket opens an array, which needs a level that is left. -/
theorem takes_readValue_array_iff {allowed : Nat} {value : Value} :
    Takes (readValue mode allowed) ('[' :: text) value rest ↔
      ∃ below, allowed = below + 1 ∧
        ∃ hrest, readArray (readValue mode below) text = .ok (value, ⟨rest, hrest⟩) := by
  constructor
  · rintro ⟨hrest, hread⟩
    cases allowed with
    | zero =>
        rw [readValue] at hread
        simp at hread
    | succ below =>
        rw [readValue] at hread
        split at hread
        next => simp at hread
        next value' behind hbehind harray =>
          obtain ⟨rfl, rfl⟩ := ok_inj hread
          exact ⟨below, rfl, hbehind, harray⟩
  · rintro ⟨below, rfl, hrest, harray⟩
    refine ⟨Nat.lt_succ_of_le hrest, ?_⟩
    rw [readValue]
    rw [harray]

theorem takes_readValue_object_iff {allowed : Nat} {value : Value} :
    Takes (readValue mode allowed) ('{' :: text) value rest ↔
      ∃ below, allowed = below + 1 ∧
        ∃ hrest, readObject (readValue mode below) text = .ok (value, ⟨rest, hrest⟩) := by
  constructor
  · rintro ⟨hrest, hread⟩
    cases allowed with
    | zero =>
        rw [readValue] at hread
        simp at hread
    | succ below =>
        rw [readValue] at hread
        split at hread
        next => simp at hread
        next value' behind hbehind hobject =>
          obtain ⟨rfl, rfl⟩ := ok_inj hread
          exact ⟨below, rfl, hbehind, hobject⟩
  · rintro ⟨below, rfl, hrest, hobject⟩
    refine ⟨Nat.lt_succ_of_le hrest, ?_⟩
    rw [readValue]
    rw [hobject]

theorem readValue_eq_readScalar {allowed : Nat} (hquote : '"' ∉ text.head?)
    (hbracket : '[' ∉ text.head?) (hbrace : '{' ∉ text.head?) :
    readValue mode allowed text = readScalar mode text := by
  rw [readValue.eq_def]
  split
  next => simp at hquote
  next => simp at hbracket
  next => simp at hbrace
  next => rfl

/-! ## Documents -/

/-- A document is one value between blanks, without a byte order mark. -/
theorem readDocument_eq_ok_iff {value : Value} :
    readDocument mode text = .ok value ↔
      text.head? ≠ some '\uFEFF' ∧
        ∃ behind, Takes (readValue mode openLimit) (skipBlanks text) value behind ∧
          AreBlanks behind := by
  unfold readDocument
  constructor
  · intro hread
    split at hread
    next => simp at hread
    next hmark =>
      refine ⟨hmark, ?_⟩
      split at hread
      next => simp at hread
      next value' behind hbehind hvalue =>
        split at hread
        next hnext =>
          obtain rfl := Except.ok.inj hread
          exact ⟨behind, ⟨hbehind, hvalue⟩, skipBlanks_eq_nil_iff.mp hnext⟩
        next => simp at hread
  · rintro ⟨hmark, behind, ⟨hbehind, hvalue⟩, hblanks⟩
    rw [if_neg hmark, hvalue]
    dsimp only
    rw [skipBlanks_eq_nil_iff.mpr hblanks]

/-- What is accepted is read as a strict document, and its value is then found not to be too deep.
-/
theorem parse_eq_ok_iff {text : String} {value : Value} :
    parse text = .ok value ↔
      readDocument .strict text.toList = .ok value ∧ value.depth < nestingLimit := by
  unfold parse read
  cases hread : readDocument .strict text.toList with
  | error stop => simp
  | ok found =>
      dsimp only
      rw [measuredDepth_eq_depth]
      split
      next hdeep =>
        constructor
        · intro h
          simp at h
        · rintro ⟨hfound, hdepth⟩
          obtain rfl := Except.ok.inj hfound
          exact absurd hdeep (not_le.mpr hdepth)
      next hshallow =>
        constructor
        · intro hfound
          obtain rfl := Except.ok.inj hfound
          exact ⟨rfl, not_le.mp hshallow⟩
        · rintro ⟨hfound, -⟩
          rw [Except.ok.inj hfound]

end Assay.Json
