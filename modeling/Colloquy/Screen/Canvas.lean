import Colloquy.Screen.Wrap
/-!
# Drawing rows into a terminal area

An area of `width` columns and `height` rows is a grid of cells, each holding a symbol; a
blank cell holds a space. The wrapped rows are drawn from the top, as many as the area has.
Each cluster of a row goes into the cell of the column where it starts, and the next cluster
starts as many columns further as the first takes cells. A cluster that takes no cell is not
drawn. A cluster that would start past the right edge cannot be drawn: the drawing fails
there (`Overflow`).

The terminal then shows the grid cell by cell, in reading order across the rows. A cell right
after a cell whose symbol takes two or more cells is taken for part of that symbol and shows
blank, also when that symbol sits in the last column and the cell begins the next row.

The text of a row is read from the cells it shows: each symbol, then the cells it covers
skipped; trailing spaces are dropped.
-/

namespace Colloquy.Screen

/-- A cluster that would be drawn in a column past the right edge of the area. -/
structure Overflow where
  column : Nat
  row : Nat
  width : Nat
  height : Nat
  deriving BEq, Inhabited, Repr

/-- The words that report an overflow. -/
def Overflow.message (o : Overflow) : String :=
  "index outside of buffer: the area is Rect \x7b x: 0, y: 0, width: " ++ toString o.width ++
    ", height: " ++ toString o.height ++ " \x7d but index is (" ++ toString o.column ++ ", " ++
    toString o.row ++ ")"

/-- The columns where the visible clusters of a row start, from column `x` on, with their
symbols; fails at the first one that would start at or past `width`. -/
def placeGlyphs (width height row : Nat) (x : Nat) : List Glyph → Except Overflow (List (Nat × String))
  | [] => pure []
  | g :: rest =>
    if g.width == 0 then placeGlyphs width height row x rest
    else if x ≥ width then throw ⟨x, row, width, height⟩
    else do
      let placed ← placeGlyphs width height row (x + g.width) rest
      pure ((x, g.symbol) :: placed)

/-- The cells of a row from column `col` on, `n` of them, given the clusters placed in it
from that column on, in order. -/
def rowCells (col : Nat) : Nat → List (Nat × String) → List String
  | 0, _ => []
  | n + 1, [] => " " :: rowCells (col + 1) n []
  | n + 1, (x, s) :: rest =>
    if x == col then s :: rowCells (col + 1) n rest
    else " " :: rowCells (col + 1) n ((x, s) :: rest)

/-- **Draws rows** into the area, from the top: the cells of every row of the area. -/
def paint (width height : Nat) (rows : List (List Glyph)) : Except Overflow (List (List String)) := do
  let drawn ← (rows.take height).zipIdx.mapM fun (gs, row) =>
    return rowCells 0 width (← placeGlyphs width height row 0 gs)
  return drawn ++ List.replicate (height - drawn.length) (List.replicate width " ")

/-- The cells the terminal shows, in reading order: a cell right after one whose symbol takes
two or more cells shows blank. -/
def shownCells : Bool → List String → List String
  | _, [] => []
  | covered, c :: rest => (if covered then " " else c) :: shownCells (textCells c ≥ 2) rest

/-- Splits a list into pieces of `width` items, for `count` pieces. -/
def rowsOf {α : Type} (width : Nat) : Nat → List α → List (List α)
  | 0, _ => []
  | count + 1, xs => xs.take width :: rowsOf width count (xs.drop width)

/-- The symbols read from the cells of a row: after each symbol, the cells it covers are
skipped. -/
def readRow : Nat → List String → List String
  | _, [] => []
  | skip + 1, _ :: rest => readRow skip rest
  | 0, c :: rest => c :: readRow (textCells c - 1) rest

/-- The text of a row of shown cells, without trailing spaces. -/
def rowText (cells : List String) : String :=
  let text := String.join (readRow 0 cells)
  String.ofList (text.toList.reverse.dropWhile (· == ' ')).reverse

/-- **Draws lines** into an area of `width` columns and `height` rows: the text of each row of
the area, or the overflow that stops the drawing. -/
def drawLines (width height : Nat) (lines : List ScreenLine) : Except Overflow (List String) :=
  if width == 0 then pure (List.replicate height "")
  else do
    let rows := (lines.flatMap (wrapLine width)).take height
    let cells ← paint width height rows
    return (rowsOf width height (shownCells false cells.flatten)).map rowText

end Colloquy.Screen
