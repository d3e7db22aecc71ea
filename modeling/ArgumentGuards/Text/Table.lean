import ArgumentGuards.Text.Width

/-!
# Tables

A table is drawn with lines around its cells. A cell may have several lines of text; every column is
as wide as the widest line in it, with a blank on both sides.
-/

namespace ArgumentGuards

/-- The side of a cell that its text keeps to. -/
inductive Alignment where
  | left
  | right
  deriving DecidableEq, Repr

/-- A column: its title keeps to the left, whatever its cells do. -/
structure Column where
  title : String
  alignment : Alignment := .left

/-- A table, with one text for each column in every row. -/
structure Table where
  columns : List Column
  rows : List (List String)

namespace Table

/-- The lines of a cell. -/
def cellLines (text : String) : List String := text.splitOn "\n"

/-- The width of a cell: that of its widest line. -/
def cellWidth (text : String) : Nat := ((cellLines text).map Text.width).foldl max 0

/-- The titles of the columns. -/
def titles (t : Table) : List String := t.columns.map Column.title

/-- The widths of the columns. -/
def widths (t : Table) : List Nat :=
  t.rows.foldl (fun widths row => List.zipWith max widths (row.map cellWidth))
    (t.titles.map cellWidth)

/-- So many copies of a character. -/
def fill (c : Char) (n : Nat) : String := String.ofList (List.replicate n c)

/-- A line of text in a cell of some width. -/
def pad (alignment : Alignment) (width : Nat) (line : String) : String :=
  let blanks := fill ' ' (width - Text.width line)
  match alignment with
  | .left => line ++ blanks
  | .right => blanks ++ line

/-- A line across all columns. -/
def rule (first across between last : Char) (widths : List Nat) : String :=
  first.toString
    ++ String.intercalate between.toString (widths.map fun width => fill across (width + 2))
    ++ last.toString

/-- A line of text, with what each cell says on it. -/
def textLine (cells : List String) : String :=
  "│" ++ String.intercalate "┆" (cells.map fun cell => " " ++ cell ++ " ") ++ "│"

/-- The lines of one cell that shares a row of some height. -/
def layCell (height width : Nat) (alignment : Alignment) (text : String) : List String :=
  let lines := cellLines text
  (lines ++ List.replicate (height - lines.length) "").map (pad alignment width)

/-- The lines of one row. -/
def layRow (widths : List Nat) (alignments : List Alignment) (row : List String) : List String :=
  -- every cell gets as many lines as the tallest one
  let height := (row.map fun cell => (cellLines cell).length).foldl max 0
  let cells := List.zipWith (fun f cell => f cell)
    (List.zipWith (fun width alignment => layCell height width alignment) widths alignments) row
  (List.range height).map fun i => textLine (cells.map fun lines => (lines[i]?).getD "")

/-- The lines of a table. -/
def lines (t : Table) : List String :=
  let widths := t.widths
  let header := layRow widths (t.columns.map fun _ => .left) t.titles
  let rows := t.rows.map (layRow widths (t.columns.map Column.alignment))
  [rule '┌' '─' '┬' '┐' widths] ++ header ++ [rule '╞' '═' '╪' '╡' widths]
    ++ List.flatten (rows.intersperse [rule '├' '╌' '┼' '┤' widths])
    ++ [rule '└' '─' '┴' '┘' widths]

/-- The text of a table. -/
def render (t : Table) : String := String.intercalate "\n" t.lines

end Table

end ArgumentGuards
