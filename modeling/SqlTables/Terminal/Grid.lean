import SqlTables.Terminal.Line

/-!
# Grids

A table with a header in a frame of lines.  Each column is as wide as its longest cell, and each row
as high as its highest.
-/

set_option autoImplicit false

namespace SqlTables.Terminal

/-- The cells of a table, as markup; each row has a cell for every column. -/
structure Grid where
  header : List String
  rows : List (List String)
deriving DecidableEq, Repr

/-- The characters of a horizontal line: its ends, what it is drawn with, and where columns meet. -/
structure Rule where
  left : Char
  stroke : Char
  cross : Char
  right : Char
deriving DecidableEq, Repr

/-- The line above the header. -/
def topRule : Rule := ⟨'┏', '━', '┳', '┓'⟩

/-- The line below the header. -/
def headerRule : Rule := ⟨'┡', '━', '╇', '┩'⟩

/-- The line below the rows. -/
def bottomRule : Rule := ⟨'└', '─', '┴', '┘'⟩

/-- A horizontal line over columns, with room for a space at both sides of a cell. -/
def Rule.draw (r : Rule) (widths : List Nat) : List Char :=
  r.left :: [r.cross].intercalate (widths.map fun w => List.replicate (w + 2) r.stroke) ++ [r.right]

/-- The lines of a cell. -/
abbrev Cell := List (List Char)

/-- The width of a cell: that of its longest line. -/
def Cell.width (c : Cell) : Nat := (c.map Terminal.width).foldl max 0

/-- A line of a row: the cells' lines, filled up with spaces, between bars. -/
def drawLine (bar : Char) (widths : List Nat) (lines : List (List Char)) : List Char :=
  let cells := List.zipWith (fun w l => ' ' :: padded w l ++ [' ']) widths lines
  bar :: [bar].intercalate cells ++ [bar]

/-- The lines of a row; a cell with fewer lines than others is blank below them. -/
def drawRow (bar : Char) (widths : List Nat) (cells : List Cell) : List (List Char) :=
  let height := (cells.map List.length).foldl max 0
  (List.range height).map fun i => drawLine bar widths (cells.map fun c => c.getD i [])

namespace Grid

/-- The cells of a row. -/
def cells (row : List String) : List Cell := row.map fun s => shownLines s.toList

/-- The width of each column. -/
def widths (g : Grid) : List Nat :=
  g.rows.foldl (fun ws row => List.zipWith max ws ((cells row).map Cell.width))
    ((cells g.header).map Cell.width)

/-- The lines of a grid. -/
def lines (g : Grid) : List (List Char) :=
  let ws := g.widths
  topRule.draw ws :: drawRow '┃' ws (cells g.header) ++ headerRule.draw ws ::
    g.rows.flatMap (fun row => drawRow '│' ws (cells row)) ++ [bottomRule.draw ws]

/-- A grid as it is printed. -/
def printed (g : Grid) : String := String.ofList (unlines g.lines)

end Grid

end SqlTables.Terminal
