/-!
# What a running dialogue shows

The engine tells a *presentation* what to show, as events: a line, a list of choices, the
choices cleared, or everything hidden at the end. It tells *listeners* about each update with a
view of the current line and choices, and about the end of a run.

A `Presentation` records the events in order while it is attached. A detached one lets them
pass unseen, and keeps what it recorded before.
-/

namespace Colloquy

/-- A choice as shown: its position and text. -/
structure ChoiceItem where
  index : Nat
  text : String
  deriving BEq, Inhabited, Repr

/-- Something to show. -/
inductive Event where
  | line (speaker text : String)
  | choices (items : List ChoiceItem)
  | choicesCleared
  | hidden
  deriving BEq, Inhabited, Repr

/-- The current line and choices of a run. -/
structure View where
  conversationId : String
  cursor : Nat
  speaker : String
  text : String
  choices : List ChoiceItem
  deriving BEq, Inhabited, Repr

/-- What a listener hears. -/
inductive Notice where
  | updated (v : View)
  | ended
  deriving BEq, Inhabited, Repr

/-- A record of events, attached or not. -/
structure Presentation where
  attached : Bool := true
  events : Array Event := #[]
  deriving Inhabited

namespace Presentation

/-- Records an event if attached. -/
def emit (p : Presentation) (e : Event) : Presentation :=
  if p.attached then { p with events := p.events.push e } else p

/-- Takes the recorded events, leaving none. -/
def drain (p : Presentation) : List Event × Presentation :=
  (p.events.toList, { p with events := #[] })

end Presentation

/-- A listener: one that keeps a log of what it hears, or one that ignores it. -/
inductive Listener where
  | log (heard : Array Notice)
  | silent
  deriving Inhabited

namespace Listener

/-- Hears a notice. -/
def hear (l : Listener) (n : Notice) : Listener :=
  match l with
  | log heard => log (heard.push n)
  | silent => silent

/-- What a logging listener has heard so far. -/
def heard? : Listener → Option (List Notice)
  | log heard => some heard.toList
  | silent => none

/-- Empties a log. -/
def clear : Listener → Listener
  | log _ => log #[]
  | silent => silent

end Listener

end Colloquy
