import Assay.Json.Numeral
import Assay.Text.Encoding
import Assay.Proofs.Number.Rounding

/-! # The grammar of JSON texts

A text is described by the tree of its constructs. One relation says how a tree is written, with
all the freedom that the grammar leaves: blanks around tokens, escapes that are not needed, the
forms of an exponent. Another says which value a tree denotes. Neither refers to a reader.
-/

namespace Assay.Json

open Number (Double digitLimit ofDigits)

/-- The construct at the root of a text and those inside it. Strings are kept as the codes that
their characters and escapes name. -/
inductive Tree where
  | null
  | bool (value : Bool)
  | number (numeral : Numeral)
  | string (codes : List Nat)
  | array (items : List Tree)
  | object (members : List (List Nat × Tree))

namespace Tree

/-- A law of all trees follows if every container has it whose children have it. -/
@[induction_eliminator]
theorem induction {motive : Tree → Prop} (null : motive .null)
    (bool : ∀ value, motive (.bool value)) (number : ∀ numeral, motive (.number numeral))
    (string : ∀ codes, motive (.string codes))
    (array : ∀ items, (∀ item ∈ items, motive item) → motive (.array items))
    (object : ∀ members, (∀ member ∈ members, motive member.2) → motive (.object members))
    (tree : Tree) : motive tree :=
  Tree.rec (motive_1 := motive) (motive_2 := fun items => ∀ item ∈ items, motive item)
    (motive_3 := fun members => ∀ member ∈ members, motive member.2)
    (motive_4 := fun member => motive member.2) null bool number string array object
    (fun _ hmem => nomatch hmem)
    (fun _ _ hitem hitems => List.forall_mem_cons.mpr ⟨hitem, hitems⟩)
    (fun _ hmem => nomatch hmem)
    (fun _ _ hmember hmembers => List.forall_mem_cons.mpr ⟨hmember, hmembers⟩)
    (fun _ _ htree => htree) tree

mutual

/-- The greatest number of arrays and objects that are open at once. -/
def depth : Tree → Nat
  | array items => depthOfItems items + 1
  | object members => depthOfMembers members + 1
  | _ => 0

def depthOfItems : List Tree → Nat
  | [] => 0
  | item :: rest => max item.depth (depthOfItems rest)

/-- The greatest depth in a list of members, repeated names included. -/
def depthOfMembers : List (List Nat × Tree) → Nat
  | [] => 0
  | (_, tree) :: rest => max tree.depth (depthOfMembers rest)

end

theorem depthOfItems_le_iff {items : List Tree} {bound : Nat} :
    depthOfItems items ≤ bound ↔ ∀ item ∈ items, item.depth ≤ bound := by
  induction items with
  | nil => simp [depthOfItems]
  | cons item rest ih => rw [depthOfItems, Nat.max_le, List.forall_mem_cons, ih]

theorem depthOfMembers_le_iff {members : List (List Nat × Tree)} {bound : Nat} :
    depthOfMembers members ≤ bound ↔ ∀ member ∈ members, member.2.depth ≤ bound := by
  induction members with
  | nil => simp [depthOfMembers]
  | cons member rest ih => rw [depthOfMembers, Nat.max_le, List.forall_mem_cons, ih]

end Tree

/-! ## How trees are written -/

def AreBlanks (text : List Char) : Prop :=
  ∀ c ∈ text, c = ' ' ∨ c = '\t' ∨ c = '\n' ∨ c = '\r'

def AreDigits (text : List Char) : Prop := text ≠ [] ∧ ∀ c ∈ text, '0' ≤ c ∧ c ≤ '9'

/-- The digits of an integer: a lone zero, or digits that do not start with one. -/
inductive IsWhole : List Char → Prop
  | zero : IsWhole ['0']
  | digits {first : Char} {rest : List Char} (hfirst : first ≠ '0')
      (hdigits : AreDigits (first :: rest)) : IsWhole (first :: rest)

/-- The sign of a numeral is written only if it is negative. -/
def minusText (negative : Bool) : List Char := if negative then ['-'] else []

inductive FractionText : Option (List Char) → List Char → Prop
  | absent : FractionText none []
  | present {digits : List Char} (hdigits : AreDigits digits) :
      FractionText (some digits) ('.' :: digits)

inductive ExponentSign : Bool → List Char → Prop
  | absent : ExponentSign false []
  | plus : ExponentSign false ['+']
  | minus : ExponentSign true ['-']

inductive ExponentText : Option (Bool × List Char) → List Char → Prop
  | absent : ExponentText none []
  | present {mark : Char} {negative : Bool} {sign digits : List Char}
      (hmark : mark = 'e' ∨ mark = 'E') (hsign : ExponentSign negative sign)
      (hdigits : AreDigits digits) :
      ExponentText (some (negative, digits)) (mark :: sign ++ digits)

inductive Numeral.WrittenAs : Numeral → List Char → Prop
  | intro {negative : Bool} {whole : List Char} {fraction : Option (List Char)}
      {exponent : Option (Bool × List Char)} {fractionText exponentText : List Char}
      (hwhole : IsWhole whole) (hfraction : FractionText fraction fractionText)
      (hexponent : ExponentText exponent exponentText) :
      WrittenAs ⟨negative, whole, fraction, exponent⟩
        (minusText negative ++ whole ++ fractionText ++ exponentText)

/-- The escapes of one letter, and the characters for which they stand. -/
def shortEscapes : List (Char × Char) :=
  [('"', '"'), ('\\', '\\'), ('/', '/'), ('b', '\x08'), ('f', '\x0c'), ('n', '\n'), ('r', '\r'),
    ('t', '\t')]

inductive HexDigit : Char → Nat → Prop
  | decimal {c : Char} (hlow : '0' ≤ c) (hhigh : c ≤ '9') : HexDigit c (c.toNat - 0x30)
  | lower {c : Char} (hlow : 'a' ≤ c) (hhigh : c ≤ 'f') : HexDigit c (c.toNat - 0x61 + 10)
  | upper {c : Char} (hlow : 'A' ≤ c) (hhigh : c ≤ 'F') : HexDigit c (c.toNat - 0x41 + 10)

/-- The codes that the text between two quotation marks names: a character that needs no escape
names its own, an escape by number one of sixteen bits. -/
inductive CodesWrittenAs : List Nat → List Char → Prop
  | nil : CodesWrittenAs [] []
  | plain {c : Char} {codes : List Nat} {text : List Char} (hquote : c ≠ '"')
      (hbackslash : c ≠ '\\') (hcontrol : 0x20 ≤ c.toNat) (hrest : CodesWrittenAs codes text) :
      CodesWrittenAs (c.toNat :: codes) (c :: text)
  | short {letter c : Char} {codes : List Nat} {text : List Char}
      (hletter : (letter, c) ∈ shortEscapes) (hrest : CodesWrittenAs codes text) :
      CodesWrittenAs (c.toNat :: codes) ('\\' :: letter :: text)
  | numbered {c₁ c₂ c₃ c₄ : Char} {d₁ d₂ d₃ d₄ : Nat} {codes : List Nat} {text : List Char}
      (h₁ : HexDigit c₁ d₁) (h₂ : HexDigit c₂ d₂) (h₃ : HexDigit c₃ d₃) (h₄ : HexDigit c₄ d₄)
      (hrest : CodesWrittenAs codes text) :
      CodesWrittenAs ((((d₁ * 16 + d₂) * 16 + d₃) * 16 + d₄) :: codes)
        ('\\' :: 'u' :: c₁ :: c₂ :: c₃ :: c₄ :: text)

mutual

/-- A text is a way to write a tree, from its first character to its last. -/
inductive Tree.WrittenAs : Tree → List Char → Prop
  | null : Tree.WrittenAs .null ['n', 'u', 'l', 'l']
  | true : Tree.WrittenAs (.bool true) ['t', 'r', 'u', 'e']
  | false : Tree.WrittenAs (.bool false) ['f', 'a', 'l', 's', 'e']
  | number {numeral : Numeral} {text : List Char} (hnumeral : numeral.WrittenAs text) :
      Tree.WrittenAs (.number numeral) text
  | string {codes : List Nat} {text : List Char} (hcodes : CodesWrittenAs codes text) :
      Tree.WrittenAs (.string codes) ('"' :: text ++ ['"'])
  | emptyArray {blanks : List Char} (hblanks : AreBlanks blanks) :
      Tree.WrittenAs (.array []) ('[' :: blanks ++ [']'])
  | array {items : List Tree} {text : List Char} (hitems : Tree.ItemsWrittenAs items text) :
      Tree.WrittenAs (.array items) ('[' :: text ++ [']'])
  | emptyObject {blanks : List Char} (hblanks : AreBlanks blanks) :
      Tree.WrittenAs (.object []) ('{' :: blanks ++ ['}'])
  | object {members : List (List Nat × Tree)} {text : List Char}
      (hmembers : Tree.MembersWrittenAs members text) :
      Tree.WrittenAs (.object members) ('{' :: text ++ ['}'])

/-- One or more items with blanks around them, separated by commas. -/
inductive Tree.ItemsWrittenAs : List Tree → List Char → Prop
  | one {item : Tree} {before text behind : List Char} (hbefore : AreBlanks before)
      (hitem : Tree.WrittenAs item text) (hbehind : AreBlanks behind) :
      Tree.ItemsWrittenAs [item] (before ++ text ++ behind)
  | more {item : Tree} {items : List Tree} {before text behind others : List Char}
      (hbefore : AreBlanks before) (hitem : Tree.WrittenAs item text)
      (hbehind : AreBlanks behind) (hitems : Tree.ItemsWrittenAs items others) :
      Tree.ItemsWrittenAs (item :: items) (before ++ text ++ behind ++ ',' :: others)

/-- A name, a colon and a value, with blanks around the colon. -/
inductive Tree.MemberWrittenAs : List Nat → Tree → List Char → Prop
  | intro {name : List Nat} {value : Tree} {nameText before behind text : List Char}
      (hname : CodesWrittenAs name nameText) (hbefore : AreBlanks before)
      (hbehind : AreBlanks behind) (hvalue : Tree.WrittenAs value text) :
      Tree.MemberWrittenAs name value
        ('"' :: nameText ++ '"' :: before ++ ':' :: behind ++ text)

/-- One or more members with blanks around them, separated by commas. -/
inductive Tree.MembersWrittenAs : List (List Nat × Tree) → List Char → Prop
  | one {name : List Nat} {value : Tree} {before text behind : List Char}
      (hbefore : AreBlanks before) (hmember : Tree.MemberWrittenAs name value text)
      (hbehind : AreBlanks behind) :
      Tree.MembersWrittenAs [(name, value)] (before ++ text ++ behind)
  | more {name : List Nat} {value : Tree} {members : List (List Nat × Tree)}
      {before text behind others : List Char} (hbefore : AreBlanks before)
      (hmember : Tree.MemberWrittenAs name value text) (hbehind : AreBlanks behind)
      (hmembers : Tree.MembersWrittenAs members others) :
      Tree.MembersWrittenAs ((name, value) :: members)
        (before ++ text ++ behind ++ ',' :: others)

end

/-- A text is a sentence of the grammar: one tree between blanks. -/
inductive Tree.IsSentence (tree : Tree) : List Char → Prop
  | intro {before text behind : List Char} (hbefore : AreBlanks before)
      (htext : tree.WrittenAs text) (hbehind : AreBlanks behind) :
      IsSentence tree (before ++ text ++ behind)

/-! ## What trees denote -/

/-- The exact size of a numeral, without its sign. -/
def Numeral.size (numeral : Numeral) : ℚ :=
  let fraction := numeral.fraction.getD []
  let written : Int := match numeral.exponent with
    | some (negative, digits) => if negative then -(ofDigits digits : Int) else ofDigits digits
    | none => 0
  (ofDigits numeral.whole + (ofDigits fraction : ℚ) / 10 ^ fraction.length) * 10 ^ written

/-- A numeral without fraction and exponent denotes an integer, if it is not too long. Any other
numeral denotes the binary64 number to which it rounds, if that is finite. -/
inductive Numeral.Denotes : Numeral → Value → Prop
  | int {negative : Bool} {whole : List Char} (hlength : whole.length ≤ digitLimit) :
      Denotes ⟨negative, whole, none, none⟩
        (.int (if negative then -(ofDigits whole : Int) else ofDigits whole))
  | double {numeral : Numeral} {number : Double}
      (hform : numeral.fraction ≠ none ∨ numeral.exponent ≠ none)
      (hrounding : number.IsRounding numeral.negative numeral.size)
      (hfinite : number.isFinite = true) : Denotes numeral (.double number)

/-- A numeral that denotes a value: an integer of at most `digitLimit` digits, or another numeral
that rounds to a finite number. -/
def Numeral.Fits (numeral : Numeral) : Prop :=
  if numeral.fraction = none ∧ numeral.exponent = none then numeral.whole.length ≤ digitLimit
  else ∃ number : Double, number.IsRounding numeral.negative numeral.size ∧
    number.isFinite = true

/-- All numerals of a tree denote values. -/
inductive Tree.NumeralsFit : Tree → Prop
  | null : NumeralsFit .null
  | bool {value : Bool} : NumeralsFit (.bool value)
  | number {numeral : Numeral} (hfits : numeral.Fits) : NumeralsFit (.number numeral)
  | string {codes : List Nat} : NumeralsFit (.string codes)
  | array {items : List Tree} (hitems : ∀ item ∈ items, NumeralsFit item) :
      NumeralsFit (.array items)
  | object {members : List (List Nat × Tree)}
      (hmembers : ∀ member ∈ members, NumeralsFit member.2) : NumeralsFit (.object members)

/-- The characters of a list of codes. A first half and the second half behind it name one
character; any other half has the character of an unassigned code, from U+DD800 to U+DDFFF. -/
inductive CodesDenote : List Nat → List Char → Prop
  | nil : CodesDenote [] []
  | pair {high low : Nat} {codes : List Nat} {text : List Char}
      (hhigh : 0xD800 ≤ high ∧ high < 0xDC00) (hlow : 0xDC00 ≤ low ∧ low < 0xE000)
      (hrest : CodesDenote codes text) :
      CodesDenote (high :: low :: codes)
        (Char.ofNat (0x10000 + (high - 0xD800) * 0x400 + (low - 0xDC00)) :: text)
  | single {code : Nat} {codes : List Nat} {text : List Char}
      (hsingle : 0xD800 ≤ code ∧ code < 0xDC00 →
        ∀ low ∈ codes.head?, ¬ (0xDC00 ≤ low ∧ low < 0xE000))
      (hrest : CodesDenote codes text) :
      CodesDenote (code :: codes) (Text.charOfCode code :: text)

/-- The members of an object from those written: each name once, where it first stands, with the
value that it has last. -/
structure IsMerged (written : List (String × Value)) (members : Table String Value) : Prop where
  keys : members.keys = (written.map Prod.fst).eraseDups
  get? : ∀ name, members.get? name = Table.get? written.reverse name

mutual

/-- The value that a tree denotes. -/
inductive Tree.Denotes : Tree → Value → Prop
  | null : Tree.Denotes .null .null
  | bool {value : Bool} : Tree.Denotes (.bool value) (.bool value)
  | number {numeral : Numeral} {value : Value} (hnumeral : numeral.Denotes value) :
      Tree.Denotes (.number numeral) value
  | string {codes : List Nat} {text : List Char} (hcodes : CodesDenote codes text) :
      Tree.Denotes (.string codes) (.string (String.ofList text))
  | array {items : List Tree} {values : List Value} (hitems : Tree.ItemsDenote items values) :
      Tree.Denotes (.array items) (.array values)
  | object {members : List (List Nat × Tree)} {written : List (String × Value)}
      {table : Table String Value} (hmembers : Tree.MembersDenote members written)
      (hmerged : IsMerged written table) : Tree.Denotes (.object members) (.object table)

inductive Tree.ItemsDenote : List Tree → List Value → Prop
  | nil : Tree.ItemsDenote [] []
  | cons {item : Tree} {items : List Tree} {value : Value} {values : List Value}
      (hitem : Tree.Denotes item value) (hitems : Tree.ItemsDenote items values) :
      Tree.ItemsDenote (item :: items) (value :: values)

inductive Tree.MembersDenote : List (List Nat × Tree) → List (String × Value) → Prop
  | nil : Tree.MembersDenote [] []
  | cons {name : List Nat} {text : List Char} {tree : Tree} {value : Value}
      {members : List (List Nat × Tree)} {written : List (String × Value)}
      (hname : CodesDenote name text) (hvalue : Tree.Denotes tree value)
      (hmembers : Tree.MembersDenote members written) :
      Tree.MembersDenote ((name, tree) :: members) ((String.ofList text, value) :: written)

end

end Assay.Json
