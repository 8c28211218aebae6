import SimilarItems.Text.Split
import SimilarItems.Text.Width

/-!
# Grids

Tables in a frame of box-drawing characters. A cell may have several lines. A column is as wide as
its widest line, and every line has a blank on either side; what is narrower is filled up with
blanks. A double rule stands below the headings, and none between the rows.
-/

namespace SimilarItems.Text

/-- A table: the headings of its columns, and rows of as many cells. -/
structure Grid where
  /-- The headings. -/
  headings : List String
  /-- The rows. -/
  rows : List (List String)

namespace Grid

/-- A horizontal rule: its two ends, what it consists of, and how it crosses the borders of
columns. -/
structure Rule where
  /-- At the left border. -/
  left : Char
  /-- Along a column. -/
  along : Char
  /-- Between two columns. -/
  crossing : Char
  /-- At the right border. -/
  right : Char

/-- The rule above the headings. -/
def Rule.top : Rule := ⟨'┌', '─', '┬', '┐'⟩

/-- The rule below the headings. -/
def Rule.middle : Rule := ⟨'╞', '═', '╪', '╡'⟩

/-- The rule below the last row. -/
def Rule.bottom : Rule := ⟨'└', '─', '┴', '┘'⟩

/-- A rule across columns of the given widths, which do not count the blanks at either side. -/
def Rule.chars (r : Rule) (widths : List Nat) : List Char :=
  r.left :: [r.crossing].intercalate (widths.map fun w => List.replicate (w + 2) r.along)
    ++ [r.right]

/-- The lines of a cell. -/
def cellLines (cell : String) : List (List Char) := splitAt '\n' cell.toList

/-- The width of a cell. -/
def cellWidth (cell : String) : Nat := ((cellLines cell).map columns).foldl max 0

/-- The widths of the columns. -/
def widths (g : Grid) : List Nat :=
  g.rows.foldl (fun ws row => List.zipWith max ws (row.map cellWidth))
    (g.headings.map fun h => max 1 (cellWidth h))

/-- One line of a row, given the line of each of its cells. -/
def lineChars (widths : List Nat) (parts : List (List Char)) : List Char :=
  '│' :: ['┆'].intercalate (List.zipWith (fun w p => ' ' :: padTo w p ++ [' ']) widths parts)
    ++ ['│']

/-- The lines of a row. A cell that has fewer lines than another one is empty in the others. -/
def rowLines (widths : List Nat) (row : List String) : List (List Char) :=
  let cells := row.map cellLines
  let height := (cells.map List.length).foldl max 0
  (List.range height).map fun i => lineChars widths (cells.map fun ls => ls.getD i [])

/-- The lines of a table. -/
def lines (g : Grid) : List (List Char) :=
  let ws := g.widths
  [Rule.top.chars ws] ++ rowLines ws g.headings ++ [Rule.middle.chars ws]
    ++ g.rows.flatMap (rowLines ws) ++ [Rule.bottom.chars ws]

/-- The text of a table, without a line feed at its end. -/
def text (g : Grid) : String := String.ofList (['\n'].intercalate g.lines)

end Grid

end SimilarItems.Text
