import Colloquy.Presentation
import Colloquy.Diagnostic
import Colloquy.Console.Session
/-!
# What the full screen shows

The full-screen player keeps a `Display`: the lines shown in full, the lines waiting to be
typed, the line being typed with how many of its characters are out, the choices with the
selected one and the first one in view, whether the run has ended, whether the help line is
visible, and a status text.

## The typewriter

A line event queues the line as it is shown (`dialogueLine`); when anything is already shown
or being typed, an empty line is queued before it to set it apart. Each tick of the typewriter

* starts the next queued line with its first character, or shows an empty queued line at once,
* adds one character to the line being typed, or
* once the whole line is out, moves it to the lines shown in full.

A tick with nothing queued or being typed does nothing and says so. Finishing shows the line
being typed and every queued line at once.

## The choice window

The choices are seen through a window of `windowRows` rows. Selecting the next choice stops at
the last one, and scrolls the window so that the selection stays in view; selecting the
previous one stops at the first.
-/

namespace Colloquy.Screen

open Console (dialogueLine)

/-- The rows of the choice window. -/
def windowRows : Nat := 5

/-- The state of the full screen. -/
structure Display where
  shown : List String := []
  queued : List String := []
  typing : Option String := none
  typed : Nat := 0
  choices : List ChoiceItem := []
  selected : Nat := 0
  scroll : Nat := 0
  ended : Bool := false
  helpVisible : Bool := false
  status : String := ""
  deriving BEq, Inhabited, Repr

namespace Display

/-- Whether text is still being typed: a line is being typed or lines are queued. -/
def streaming (d : Display) : Bool :=
  d.typing.isSome || !d.queued.isEmpty

/-- **Takes in an event.** -/
def applyEvent (d : Display) : Event → Display
  | .line speaker text =>
    let queued := if !d.shown.isEmpty || d.streaming then d.queued ++ [""] else d.queued
    { d with queued := queued ++ [dialogueLine speaker text], ended := false }
  | .choices items => { d with choices := items, selected := 0, scroll := 0 }
  | .choicesCleared => { d with choices := [], selected := 0, scroll := 0 }
  | .hidden => { d with choices := [], ended := true }

/-- Takes in events, in order. -/
def applyEvents (d : Display) (events : List Event) : Display :=
  events.foldl applyEvent d

/-- Shows the last of some diagnostics as the status; none leave the status as it is. -/
def applyDiagnostics (d : Display) (diagnostics : List Diagnostic) : Display :=
  match diagnostics.getLast? with
  | some last => { d with status := last.code ++ ": " ++ last.message }
  | none => d

/-- A fresh display for a new run; only the help line stays as it was. -/
def reset (d : Display) : Display :=
  { helpVisible := d.helpVisible }

/-- **One tick of the typewriter**, and whether it did anything. -/
def tick (d : Display) : Bool × Display :=
  match d.typing with
  | none =>
    match d.queued with
    | [] => (false, d)
    | line :: rest =>
      if line.isEmpty then (true, { d with queued := rest, shown := d.shown ++ [line] })
      else (true, { d with queued := rest, typing := some line, typed := 1 })
  | some line =>
    if d.typed ≥ line.length then
      (true, { d with shown := d.shown ++ [line], typing := none, typed := 0 })
    else (true, { d with typed := d.typed + 1 })

/-- Ticks while the typewriter does something, at most `fuel` times, adding the ticks that
did something to `count`. -/
def drainFor : Nat → Nat → Display → Nat × Display
  | 0, count, d => (count, d)
  | fuel + 1, count, d =>
    match d.tick with
    | (false, d) => (count, d)
    | (true, d) => drainFor fuel (count + 1) d

/-- **Ticks the typewriter `n` times**, counting the ticks that did something. A tick that
does nothing leaves the display as it is, and so does every tick after it: ticking can stop
at the first. -/
def ticks (n : Nat) (d : Display) : Nat × Display :=
  drainFor n 0 d

/-- The ticks the typewriter has left to do: each queued line takes one more than its
length, and the line being typed one more than the characters it has left. Each tick that
does something takes one off. -/
def workLeft (d : Display) : Nat :=
  d.queued.foldl (fun n line => n + line.length + 1) 0 +
    match d.typing with
    | some line => line.length - d.typed + 1
    | none => 0

/-- **Runs the typewriter** until it has nothing left to do; the count of ticks. -/
def drain (d : Display) : Nat × Display :=
  drainFor (d.workLeft + 1) 0 d

/-- Shows at once the line being typed and every queued line. -/
def finishTyping (d : Display) : Display :=
  let shown := match d.typing with
    | some line => d.shown ++ [line]
    | none => d.shown
  { d with shown := shown ++ d.queued, queued := [], typing := none, typed := 0 }

/-- Selects the previous choice, stopping at the first. -/
def selectPrevious (d : Display) : Display :=
  let selected := d.selected - 1
  { d with selected := selected, scroll := if selected < d.scroll then selected else d.scroll }

/-- Selects the next choice, stopping at the last, and keeps it in the window. -/
def selectNext (d : Display) : Display :=
  let selected := min (d.selected + 1) (d.choices.length - 1)
  let scroll :=
    if d.choices.length > windowRows && selected ≥ d.scroll + windowRows
    then selected + 1 - windowRows else d.scroll
  { d with selected := selected, scroll := scroll }

/-- The index of the selected choice, if there is one. -/
def selectedChoice? (d : Display) : Option Nat :=
  (d.choices[d.selected]?).map (·.index)

end Display

end Colloquy.Screen
