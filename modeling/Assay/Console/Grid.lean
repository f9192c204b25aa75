import Assay.Console.Layout
import Assay.Console.Markup

/-! # Grids

A grid is a title over a frame with columns. Each column is as wide as its widest cell, with a
blank on either side.
-/

namespace Assay.Console

open Text (width)

/-- A column: what stands at its head, and what is done with words that are too long for it. -/
structure Column where
  head : String
  overflow : Overflow := .cut

/-- A grid. Title and cells may hold markup. -/
structure Grid where
  title : String
  columns : List Column
  rows : List (List String) := []

/-- Whether a character ends a line in the sense of the width of a cell. -/
def endsLine (c : Char) : Bool :=
  (0x0A ≤ c.toNat && c.toNat ≤ 0x0D) || (0x1C ≤ c.toNat && c.toNat ≤ 0x1E) || c.toNat = 0x85 ||
    c.toNat = 0x2028 || c.toNat = 0x2029

/-- How many cells the widest line of a text takes. -/
def widest (text : List Char) : Nat :=
  ((text.splitBy fun left right => !endsLine left && !endsLine right).map fun run =>
    width (run.filter fun c => !endsLine c)).foldl max 0

/-- How the parts of a frame look: left end, filling, crossing and right end. -/
structure Border where
  left : Char
  filling : Char
  crossing : Char
  right : Char

def Border.line (border : Border) (widths : List Nat) : List Char :=
  let parts := widths.map fun width => List.replicate (width + 2) border.filling
  border.left :: (List.intercalate [border.crossing] parts ++ [border.right])

/-- The upper end of a frame. -/
def topBorder : Border := ⟨'┏', '━', '┳', '┓'⟩

/-- The line below the heads. -/
def headBorder : Border := ⟨'┡', '━', '╇', '┩'⟩

/-- The lower end of a frame. -/
def bottomBorder : Border := ⟨'└', '─', '┴', '┘'⟩

def cellLine (bar : Char) (cells : List (List Char)) : List Char :=
  bar :: (List.intercalate [bar] (cells.map fun cell => ' ' :: cell ++ [' ']) ++ [bar])

/-- The lines of a row. A cell that has fewer lines than another is filled with blank ones. -/
def rowLines (bar : Char) (columns : List (Overflow × Nat)) (row : List (List Char)) :
    List (List Char) :=
  let cells := columns.zipWith (fun column text =>
    (setLines column.1 column.2 text).map (leftAligned column.2)) row
  let height := (cells.map List.length).foldl max 1
  (List.range height).map fun index =>
    cellLine bar (columns.zipWith (fun column lines =>
      (lines[index]?).getD (blanks column.2)) cells)

/-- The lines of a title, each in the middle of a given width. -/
def titleLines (size : Nat) (title : List Char) : List (List Char) :=
  (expandedLines title).flatMap fun line =>
    (broken .fold size line).map fun line =>
      centred size (fitted .fold size (trimEnd line))

def Grid.lines? (grid : Grid) : Option (List (List Char)) := do
  let heads ← grid.columns.mapM fun column => shown? column.head
  let rows ← grid.rows.mapM fun row => row.mapM shown?
  let title ← shown? grid.title
  let widths := heads.mapIdx fun index head =>
    ((head :: rows.filterMap fun row => row[index]?).map widest).foldl max 0
  let columns := (grid.columns.map Column.overflow).zip widths
  return titleLines (topBorder.line widths).length title ++
    [topBorder.line widths] ++ rowLines '┃' columns heads ++ [headBorder.line widths] ++
    rows.flatMap (rowLines '│' columns) ++ [bottomBorder.line widths]

end Assay.Console
