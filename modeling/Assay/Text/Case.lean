import Assay.Text.CaseTable

/-! # Letter case

The lower-case form of a text, by the full mapping: the capital I with a dot above becomes two
characters, and a capital sigma becomes its final form at the end of a word. The one-to-one
mappings beside it serve comparisons that ignore case.
-/

namespace Assay.Text

/-- The image of a character under the first run that covers it, else the character itself. -/
def mapByRuns (runs : List CaseRun) (c : Char) : Char :=
  match runs.findSome? fun run => run.apply? c.toNat with
  | some code => Char.ofNat code
  | none => c

/-- The one-to-one lower-case form. ASCII needs no look-up. -/
def lowerChar (c : Char) : Char :=
  if c.toNat < 0x80 then c.toLower else mapByRuns lowercaseRuns c

/-- Whether the first character of a text that is not skipped has case. -/
def meetsCased (text : List Char) : Bool :=
  match text.find? fun c => !inRanges caseIgnorableRanges c.toNat with
  | some c => inRanges casedRanges c.toNat
  | none => false

/-- A sigma takes its final form after a cased character and before none. `before` is reversed. -/
def lowerSigma (before after : List Char) : Char :=
  if meetsCased before && !meetsCased after then 'ς' else 'σ'

/-- The lower-case form of a text, given what stands before it in reverse order. -/
def lowerAfter (before : List Char) : List Char → List Char
  | [] => []
  | c :: rest =>
    let image :=
      if c = 'Σ' then [lowerSigma before rest]
      else if c = 'İ' then ['i', '\u0307']
      else [lowerChar c]
    image ++ lowerAfter (c :: before) rest

def lowercase (text : List Char) : List Char := lowerAfter [] text

end Assay.Text
