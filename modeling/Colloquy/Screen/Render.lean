import Colloquy.Screen.Display
import Colloquy.Screen.Canvas
/-!
# Drawing the full screen

The screen is a list of lines drawn into the terminal (`drawLines`); the title and the text
are plain lines, the others styled runs:

1. the title, the file and the status;
2. the text: the lines shown in full and the part of the typed line that is out, cut into
   pieces of the content width, only the last ones that fit;
3. a divider;
4. once the text is out and there are choices, a header and the choices in the window,
   the selected one marked with `> `; five rows in any case;
5. where the window stands when the choices do not all fit;
6. `[end]` after the end, the keys, and the help line when it is visible.

The content width is the terminal width less two, and at least 16. Texts longer than their
room are cut with an ellipsis. Lengths count characters. Drawing fails when a cluster would
start past the right edge.
-/

namespace Colloquy.Screen

/-- Cuts a text to `width` characters, ending it with an ellipsis when it is cut. -/
def truncate (value : String) (width : Nat) : String :=
  if width == 0 then ""
  else if value.length ≤ width then value
  else if width == 1 then "…"
  else String.ofList (value.toList.take (width - 1)) ++ "…"

/-- Splits a list into pieces of `width` items, the last one possibly shorter. -/
def chunks {α : Type} (width : Nat) (xs : List α) : List (List α) :=
  go xs.length xs
where
  go : Nat → List α → List (List α)
    | 0, _ => []
    | _, [] => []
    | fuel + 1, xs => xs.take width :: go fuel (xs.drop width)

/-- Cuts a line into pieces of `width` characters; an empty line is one empty piece. -/
def wrapByWidth (value : String) (width : Nat) : List String :=
  if width == 0 || value.isEmpty then [""]
  else (chunks width value.toList).map String.ofList

/-- The rows the screen keeps for everything but the text. -/
def reservedRows (d : Display) (header : Bool) : Nat :=
  3 + 1 + windowRows + 1 + 1 + (if d.ended then 1 else 0) + (if d.helpVisible then 1 else 0) +
    (if header then 1 else 0)

/-- The rows of the choice window, each with whether it is the selected choice. -/
def choiceRows (d : Display) (shown : Bool) (width : Nat) : List (String × Bool) :=
  (List.range windowRows).map fun row =>
    if !shown then (" ", false)
    else
      match d.choices[d.scroll + row]? with
      | none => (" ", false)
      | some c =>
        (truncate ("[" ++ toString c.index ++ "] " ++ c.text) width, d.scroll + row == d.selected)

/-- The keys line. -/
def keysText : String :=
  "keys: enter/space advance or choose | up/down move | e end | r restart | h help | q quit"

/-- The help line. -/
def helpText : String :=
  "enter while text is streaming shows the whole line. choices appear once the line is done."

/-- **The lines of the screen** for a terminal of `width` columns and `height` rows. -/
def screenLines (d : Display) (title path : String) (width height : Nat) : List ScreenLine :=
  let streaming := d.streaming
  let typed := match d.typing with
    | some line => [String.ofList (line.toList.take d.typed)]
    | none => []
  let content := max (width - 2) 16
  let textRows := (d.shown ++ typed).flatMap (wrapByWidth · content)
  let showChoices := !streaming && !d.choices.isEmpty
  let header := if showChoices then truncate "choices (up/down + enter):" content else ""
  let visible := max (height - reservedRows d !header.isEmpty) 1
  let textRows := textRows.drop (textRows.length - visible)
  let choices := choiceRows d showChoices (max (content - 6) 8)
  let window :=
    if showChoices && d.choices.length > windowRows then
      truncate ("window " ++ toString (d.scroll + 1) ++ "-" ++
        toString (min (d.scroll + windowRows) d.choices.length) ++ " / " ++
        toString d.choices.length) content
    else " "
  [.plain (truncate ("dialogue | " ++ title) content),
   .run (truncate ("file: " ++ path) content),
   .run (truncate ("status: " ++ d.status) content)] ++
  textRows.map .plain ++
  [.run (String.join (List.replicate content "─"))] ++
  (if header.isEmpty then [] else [.run header]) ++
  choices.map (fun (text, selected) => .run ((if selected then "> " else "  ") ++ text)) ++
  [.run window] ++
  (if d.ended then [.run "[end]"] else []) ++
  [.run (truncate keysText content)] ++
  (if d.helpVisible then [.run (truncate helpText content)] else [])

/-- **Draws the screen** into a terminal of `width` columns and `height` rows: the text of
each row, or the overflow that stops the drawing. -/
def render (d : Display) (title path : String) (width height : Nat) : Except Overflow (List String) :=
  drawLines width height (screenLines d title path width height)

end Colloquy.Screen
