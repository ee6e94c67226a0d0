import DerivedQuery.Text.Width

/-!
# Tables

A table has a header and rows of cells. Every column is as wide as its widest cell, a cell has a
blank on both sides, and texts start at the left. A cell may have several lines, and a row is as
high as its highest cell. Cells that a row lacks at its end are empty.

What the lines of a table are drawn with is a `Border`: one in which rows follow each other, and one
of plain characters with lines between rows.

## Main definitions

* `Border`, `Border.box`, `Border.plain`
* `Table`, `Table.render`
-/

namespace DerivedQuery.Report

open Text

/-- A horizontal line: its ends, the line itself and where it crosses the border of a column. -/
structure Ruler where
  left : Char
  line : Char
  crossing : Char
  right : Char
deriving DecidableEq, Repr

/-- The characters that draw a table. -/
structure Border where
  top : Ruler
  belowHeader : Ruler
  /-- The line between two rows, if there is one. -/
  between : Option Ruler
  bottom : Ruler
  side : Char
  divider : Char
deriving DecidableEq, Repr

namespace Border

/-- A border of box drawing characters. -/
def box : Border where
  top := ⟨'┌', '─', '┬', '┐'⟩
  belowHeader := ⟨'╞', '═', '╪', '╡'⟩
  between := none
  bottom := ⟨'└', '─', '┴', '┘'⟩
  side := '│'
  divider := '┆'

/-- A border of ASCII characters. -/
def plain : Border where
  top := ⟨'+', '-', '+', '+'⟩
  belowHeader := ⟨'+', '=', '=', '+'⟩
  between := some ⟨'|', '-', '+', '|'⟩
  bottom := ⟨'+', '-', '+', '+'⟩
  side := '|'
  divider := '|'

end Border

/-- The cells of a table. -/
structure Table where
  header : List String
  rows : List (List String)
deriving DecidableEq, Repr

namespace Table

/-- The lines of a cell. -/
def cellLines (cell : String) : List (List Char) :=
  cell.toList.splitOn '\n'

/-- The number of columns that the longest line of a cell takes. -/
def cellWidth (cell : String) : Nat :=
  ((cellLines cell).map displayWidth).foldl max 0

/-- The width of each column, without the blanks. -/
def widths (table : Table) : List Nat :=
  let rows := table.header :: table.rows
  let columns := (rows.map List.length).foldl max 0
  (List.range columns).map fun column =>
    (rows.map fun row => cellWidth (row.getD column "")).foldl max 0

/-- A horizontal line of a table. -/
def drawRuler (widths : List Nat) (ruler : Ruler) : List Char :=
  ruler.left
    :: List.intercalate [ruler.crossing] (widths.map fun width => List.replicate (width + 2) ruler.line)
    ++ [ruler.right]

/-- A line of a cell, filled up to the width of its column. -/
def pad (width : Nat) (line : List Char) : List Char :=
  ' ' :: line ++ List.replicate (width - displayWidth line + 1) ' '

/-- The lines of a row. -/
def drawRow (border : Border) (widths : List Nat) (row : List String) : List (List Char) :=
  let cells := (List.range widths.length).map fun column => cellLines (row.getD column "")
  let height := (cells.map List.length).foldl max 0
  (List.range height).map fun i =>
    border.side
      :: List.intercalate [border.divider]
        (List.zipWith (fun width cell => pad width (cell.getD i [])) widths cells)
      ++ [border.side]

/-- The rows with the lines between them. -/
def drawRows (border : Border) (widths : List Nat) (rows : List (List String)) : List (List Char) :=
  List.intercalate ((border.between.map (drawRuler widths)).toList) (rows.map (drawRow border widths))

/-- The text of a table, without a line end behind the last line. -/
def render (border : Border) (table : Table) : String :=
  let widths := table.widths
  let drawn :=
    [drawRuler widths border.top] ++ drawRow border widths table.header
      ++ [drawRuler widths border.belowHeader] ++ drawRows border widths table.rows
      ++ [drawRuler widths border.bottom]
  String.ofList (List.intercalate ['\n'] drawn)

end Table

end DerivedQuery.Report
