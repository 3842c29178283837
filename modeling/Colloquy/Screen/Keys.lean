import Colloquy.Screen.Display
/-!
# Keys of the full screen

* `esc` or `q` (with any modifier keys) and ctrl+`c` close the screen;
* `h` shows or hides the help line;
* `r` restarts the session on a fresh display, with the status `restarted`;
* `e` ends the run (status `ended` when there was one to end);
* the arrow keys move the choice selection; while text is streaming, or with no choices, they
  only say so in the status;
* `enter` and the space bar first finish the text being typed; after the end they only say
  how to go on; otherwise they choose the selected choice (status `chose <index>`) or, with
  no choices, advance.

After a key that sends a command, the display takes in the events and diagnostics the
session has gathered (`sync`).
-/

namespace Colloquy.Screen

open Console (Session)

/-- A key of the keyboard. -/
inductive Key where
  | enter
  | esc
  | up
  | down
  | left
  | right
  | tab
  | backspace
  | function (n : Nat)
  | char (c : Char)
  deriving BEq, Inhabited, Repr

/-- A key press with the modifier keys held. -/
structure KeyPress where
  key : Key
  ctrl : Bool := false
  alt : Bool := false
  shift : Bool := false
  deriving BEq, Inhabited, Repr

/-- **Takes in** what the session gathered: its events, then its diagnostics. -/
def sync (s : Session) (d : Display) : Session × Display :=
  let (events, e) := s.engine.drainEvents
  let (diagnostics, e) := e.takeDiagnostics
  ({ s with engine := e }, (d.applyEvents events).applyDiagnostics diagnostics)

/-- Sends a command to the session and takes in what it gathered. -/
def send (c : Command) (s : Session) (d : Display) : Session × Display :=
  let (_, s) := s.dispatch c
  sync s d

/-- The answer to `enter` or the space bar. -/
def confirm (s : Session) (d : Display) : Session × Display :=
  if d.streaming then (s, d.finishTyping)
  else if d.ended then (s, { d with status := "conversation ended, r restart, q quit" })
  else
    match d.selectedChoice? with
    | some index => send (.choose index) s { d with status := "chose " ++ toString index }
    | none => send .advance s d

/-- The answer to an arrow key. -/
def move (up : Bool) (d : Display) : Display :=
  if d.streaming then { d with status := "text streaming..." }
  else if d.choices.isEmpty then { d with status := "no pending choice" }
  else if up then d.selectPrevious
  else d.selectNext

/-- **Answers a key press**: whether to close the screen, the session and the display. -/
def handleKey (k : KeyPress) (s : Session) (d : Display) : Except Fault (Bool × Session × Display) :=
  match k.key with
  | .esc | .char 'q' => pure (true, s, d)
  | .char 'c' => pure (k.ctrl, s, d)
  | .char 'h' => pure (false, s, { d with helpVisible := !d.helpVisible })
  | .char 'r' => do
    let s ← s.restart
    let (s, d) := sync s d.reset
    pure (false, s, { d with status := "restarted" })
  | .char 'e' =>
    let (acted, s) := s.dispatch .stop
    let (s, d) := sync s (if acted then { d with status := "ended" } else d)
    pure (false, s, d)
  | .up => pure (false, s, move true d)
  | .down => pure (false, s, move false d)
  | .enter | .char ' ' => let (s, d) := confirm s d; pure (false, s, d)
  | _ => pure (false, s, d)

end Colloquy.Screen
