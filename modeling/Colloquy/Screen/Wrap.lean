import Colloquy.Screen.Cells
import Colloquy.Screen.Clusters
import Colloquy.Text.Blank
/-!
# Wrapping lines into rows

A line of the screen is made of pieces of text. A line given as plain text is cut at its line
feeds (`lineTexts`) and the pieces are joined again without them; a line given as one styled
run is one piece. Each piece is cut into grapheme clusters, line feeds dropped, and the
clusters are wrapped at word boundaries so that no row is wider than the area. Blanks are kept
where they stand. A cluster wider than the area is left out.

The wrapping keeps a row being built, a word and the blanks before it:

* a blank right after a word finishes that word: the blanks and the word join the row;
* on an empty row, a word whose blanks, letters and next cluster would not fit joins the row
  as it is;
* when the row is full, or a visible cluster would make the row, its blanks and the word
  reach the width, the row is finished; blanks that still fit on it are dropped, and a blank
  that finds no blanks left after that is dropped too;
* at the end of the line the row, the blanks and the word are finished. A line that ends with
  blanks while nothing else is pending gives an empty row first, and a line with nothing gives
  one empty row.

A word is checked against the width only before its clusters are added, so a row can come out
wider than the area: a wide cluster may start in the last column, and a word carried to the
next row may already be longer than it.
-/

namespace Colloquy.Screen

/-- A grapheme cluster ready to be laid out. -/
structure Glyph where
  symbol : String
  width : Nat
  blank : Bool
  deriving Inhabited, Repr

/-- Whether a cluster shows as blank: the zero width space, or blanks only other than the
no-break space. -/
def isBlankCluster (g : String) : Bool :=
  g == "\u200B" || (g.toList.all Text.isBlank && g != "\u00A0")

/-- A line of the screen: the pieces of text it is made of. -/
structure ScreenLine where
  pieces : List String
  deriving Inhabited, Repr

/-- Drops a carriage return that ends a text. -/
def dropCarriage (s : String) : String :=
  if s.toList.getLast? == some '\r' then String.ofList s.toList.dropLast else s

/-- **The lines of a text**: its pieces between line feeds, a carriage return before a line
feed dropped with it. A text that ends in a line feed has no empty line after it, and the
empty text has no lines. -/
def lineTexts (s : String) : List String :=
  let parts := s.splitOn "\n"
  let last := parts.getLast?.getD ""
  parts.dropLast.map dropCarriage ++ (if last.isEmpty then [] else [last])

/-- A line given as plain text. -/
def ScreenLine.plain (s : String) : ScreenLine :=
  ⟨lineTexts s⟩

/-- A line given as one styled run. -/
def ScreenLine.run (s : String) : ScreenLine :=
  ⟨[s]⟩

/-- The clusters of a line, piece by piece, without line feeds. -/
def glyphsOf (l : ScreenLine) : List Glyph :=
  ((l.pieces.flatMap graphemes).filter (· != "\n")).map fun g =>
    ⟨g, textCells g, isBlankCluster g⟩

/-- The total width of some clusters. -/
def widthOf (gs : List Glyph) : Nat :=
  gs.foldl (fun n g => n + g.width) 0

/-- The wrapping of one line in progress. -/
structure Wrapping where
  rows : Array (List Glyph) := #[]
  row : List Glyph := []
  rowWidth : Nat := 0
  word : List Glyph := []
  wordWidth : Nat := 0
  blanks : List Glyph := []
  blanksWidth : Nat := 0
  afterWord : Bool := false

/-- Drops blanks from the front while they fit in the room left. -/
def dropFitting : List Glyph → Nat → Nat → List Glyph × Nat
  | [], _, w => ([], w)
  | g :: rest, room, w =>
    if g.width > room then (g :: rest, w) else dropFitting rest (room - g.width) (w - g.width)

/-- **Takes one cluster** into the wrapping of a line `max` columns wide. -/
def Wrapping.take (max : Nat) (s : Wrapping) (g : Glyph) : Wrapping :=
  if g.width > max then s
  else
    let wordFound := s.afterWord && g.blank
    let overflow := s.row.isEmpty && s.wordWidth + s.blanksWidth + g.width > max
    let s := if wordFound || overflow then
        { s with row := s.row ++ s.blanks ++ s.word,
                 rowWidth := s.rowWidth + s.blanksWidth + s.wordWidth,
                 blanks := [], blanksWidth := 0, word := [], wordWidth := 0 }
      else s
    let full := s.rowWidth ≥ max
    let wordOverflow := g.width > 0 && s.rowWidth + s.blanksWidth + s.wordWidth ≥ max
    let (s, skip) := if full || wordOverflow then
        let (blanks, blanksWidth) := dropFitting s.blanks (max - s.rowWidth) s.blanksWidth
        let s := { s with rows := s.rows.push s.row, row := [], rowWidth := 0,
                          blanks := blanks, blanksWidth := blanksWidth }
        (s, g.blank && blanks.isEmpty)
      else (s, false)
    if skip then s
    else if g.blank then
      { s with blanks := s.blanks ++ [g], blanksWidth := s.blanksWidth + g.width, afterWord := false }
    else
      { s with word := s.word ++ [g], wordWidth := s.wordWidth + g.width, afterWord := true }

/-- Finishes the wrapping of a line. -/
def Wrapping.finish (s : Wrapping) : List (List Glyph) :=
  let rows := if s.row.isEmpty && s.word.isEmpty && !s.blanks.isEmpty then s.rows.push [] else s.rows
  let last := s.row ++ s.blanks ++ s.word
  let rows := if last.isEmpty then rows else rows.push last
  if rows.isEmpty then [[]] else rows.toList

/-- **The rows of one line** wrapped to `max` columns. -/
def wrapLine (max : Nat) (l : ScreenLine) : List (List Glyph) :=
  ((glyphsOf l).foldl (Wrapping.take max) {}).finish

end Colloquy.Screen
