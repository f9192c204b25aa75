import Assay.Text.Basic
import Assay.Text.Width

/-! # Lines of a given width

A text is set into lines that take no more than a given number of cells. Tabs reach to the next
multiple of eight cells. Lines are broken between words; a word that is too long for any line is
either folded or cut.
-/

namespace Assay.Console

open Text (width)

def blanks (count : Nat) : List Char := List.replicate count ' '

/-- Cells between two tab stops. -/
def tabSize : Nat := 8

/-- The parts of a line between its tabs as one line, of which the first begins at a given cell. A
tab takes at least one cell. -/
def expandedFrom (start : Nat) : List (List Char) → List Char
  | [] => []
  | [last] => last
  | part :: rest =>
    let reached := start + width part + 1
    let stop := (reached + (tabSize - 1)) / tabSize * tabSize
    part ++ blanks (1 + (stop - reached)) ++ expandedFrom stop rest

def expandTabs (line : List Char) : List Char := expandedFrom 0 (Text.splitOn '\t' line)

def expandedLines (text : List Char) : List (List Char) :=
  (Text.splitOn '\n' text).map expandTabs

/-! ## Breaking lines -/

/-- What is done with a word that is too long for a line. -/
inductive Overflow where
  | fold
  | cut
  deriving DecidableEq

/-- The words of a line, each with the blanks behind it. The first one has those before it as
well. A line of blanks has no words. -/
def words (line : List Char) : List (List Char) :=
  let indent := line.takeWhile Text.isBlank
  match (line.dropWhile Text.isBlank).splitBy fun left right =>
      !Text.isBlank left || Text.isBlank right with
  | [] => []
  | first :: rest => (indent ++ first) :: rest

def trimEnd (text : List Char) : List Char :=
  (text.reverse.dropWhile Text.isBlank).reverse

/-- A word in pieces that fit a line, of which the first has some cells already. -/
def foldedFrom (size taken : Nat) (piece : List Char) : List Char → List (List Char)
  | [] => [piece.reverse]
  | c :: rest =>
    if taken + Text.cells c > size then piece.reverse :: foldedFrom size (Text.cells c) [c] rest
    else foldedFrom size (taken + Text.cells c) (c :: piece) rest

/-- A word in pieces that fit a line. -/
def folded (size : Nat) (word : List Char) : List (List Char) := foldedFrom size 0 [] word

/-- Lines that are being filled: the finished ones, the current one, and how many cells of that are
taken. -/
structure Filling where
  finished : List (List Char) := []
  current : List Char := []
  taken : Nat := 0

/-- Begins a new line. The very first line is not finished while it is empty. -/
def Filling.next (filling : Filling) (current : List Char) (taken : Nat) : Filling where
  finished :=
    if filling.current.isEmpty then filling.finished else filling.finished ++ [filling.current]
  current
  taken

def Filling.append (filling : Filling) (word : List Char) : Filling :=
  { filling with current := filling.current ++ word, taken := filling.taken + width word }

def Filling.add (overflow : Overflow) (size : Nat) (filling : Filling) (word : List Char) :
    Filling :=
  let needed := width (trimEnd word)
  if filling.taken + needed ≤ size then filling.append word
  else if needed > size then
    match overflow with
    | .fold =>
      (folded size word).foldl (fun filling piece => filling.next piece (width piece)) filling
    | .cut => filling.next word (width word)
  else filling.next word (width word)

/-- A line broken into lines of at most a given size, blanks at their ends and cut words apart. -/
def broken (overflow : Overflow) (size : Nat) (line : List Char) : List (List Char) :=
  match words line with
  | [] => [line]
  | words =>
    let filling := words.foldl (Filling.add overflow size) {}
    filling.finished ++ [filling.current]

/-- A line without those blanks at its end that are beyond a given length. -/
def withoutExcess (size : Nat) (line : List Char) : List Char :=
  line.take (max size (trimEnd line).length)

/-- As many characters as fit, and a blank if half of a wide one is left over. -/
def cutTo (size : Nat) : List Char → List Char
  | [] => []
  | c :: rest =>
    if Text.cells c ≤ size then c :: cutTo (size - Text.cells c) rest else blanks size

/-- A line made to fit. Where words are cut a sign for it takes the last cell. -/
def fitted (overflow : Overflow) (size : Nat) (line : List Char) : List Char :=
  if width line ≤ size then line
  else match overflow with
    | .fold => cutTo size line
    | .cut => cutTo (size - 1) line ++ ['…']

def setLines (overflow : Overflow) (size : Nat) (text : List Char) : List (List Char) :=
  (expandedLines text).flatMap fun line =>
    (broken overflow size line).map fun line => fitted overflow size (withoutExcess size line)

def leftAligned (size : Nat) (line : List Char) : List Char :=
  line ++ blanks (size - width line)

/-- A line with blanks around it. An odd one goes behind it. -/
def centred (size : Nat) (line : List Char) : List Char :=
  leftAligned size (blanks ((size - width line) / 2) ++ line)

end Assay.Console
