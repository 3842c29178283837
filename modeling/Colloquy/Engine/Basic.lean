import Colloquy.Store
import Colloquy.Registry
import Colloquy.Diagnostic
import Colloquy.Presentation
/-!
# The engine's state

An engine holds a registry of conversations, the variables, a presentation, listeners, a
diagnostic log, its options, and the state of the current run. A run is *active* between a
start and an end. It is in a conversation, at a cursor (the node last entered), and may have
pending choices.

The *phase* of an engine is idle when no run is active, awaiting a choice while choices are
pending, and displaying otherwise.

The operations that change a run are in `Colloquy.Engine.Step`. Here are the state, the
queries, and the small updates they are built from.
-/

namespace Colloquy

/-- What a start does while a run is active: replace it, or refuse. -/
inductive StartPolicy where
  | replace
  | reject
  deriving BEq, Inhabited, Repr

/-- What a failed load does to the loaded conversations and variables: keep or clear them. -/
inductive ReloadPolicy where
  | keep
  | clear
  deriving BEq, Inhabited, Repr

/-- The default bound on consecutive jumps taken by one advance. -/
def defaultMaxHops : Nat := 64

/-- How an engine behaves. -/
structure EngineOptions where
  startPolicy : StartPolicy := .replace
  reloadPolicy : ReloadPolicy := .keep
  maxHops : Nat := defaultMaxHops
  deriving Inhabited

/-- Where a run stands. -/
inductive Phase where
  | idle
  | displaying
  | awaitingChoice
  deriving BEq, Inhabited, Repr

/-- The state of a run. The default is no run at all. -/
structure Run where
  active : Bool := false
  conversation : Option Conversation := none
  cursor : Option Nat := none
  pending : List Choice := []
  deriving Inhabited

/-- A dialogue engine. -/
structure Engine where
  registry : Registry := Registry.empty
  store : Store := {}
  presentation : Presentation := { attached := false }
  listeners : List Listener := []
  diagnostics : DiagnosticLog := {}
  options : EngineOptions := {}
  run : Run := {}
  deriving Inhabited

namespace Engine

/-- A new engine with nothing loaded. -/
def new (options : EngineOptions) (presentation : Presentation) : Engine :=
  { options := options, presentation := presentation }

/-- Whether a run is active. -/
def isActive (e : Engine) : Bool :=
  e.run.active

/-- **The phase** of the engine. -/
def phase (e : Engine) : Phase :=
  if !e.run.active then .idle
  else if e.run.pending.isEmpty then .displaying
  else .awaitingChoice

/-- The display id of the run's conversation. -/
def conversationId? (e : Engine) : Option String :=
  e.run.conversation.map (·.id)

/-- The pending choices as shown, numbered from zero. -/
def pendingItems (e : Engine) : List ChoiceItem :=
  e.run.pending.zipIdx.map fun (c, i) => ⟨i, c.text⟩

/-- The speaker and text of the node under the cursor, while a run is active. -/
def currentLine? (e : Engine) : Option (String × String) := do
  if !e.run.active then none
  let c ← e.run.conversation
  let i ← e.run.cursor
  let n ← c.node? i
  pure (n.speaker, n.text)

/-- The view of the current line and choices, while there is a current line. -/
def view? (e : Engine) : Option View := do
  let (speaker, text) ← e.currentLine?
  let id ← e.conversationId?
  let cursor ← e.run.cursor
  pure ⟨id, cursor, speaker, text, e.pendingItems⟩

/-- Adds a listener. -/
def subscribe (e : Engine) (l : Listener) : Engine :=
  { e with listeners := e.listeners ++ [l] }

/-- Attaches or detaches the presentation, keeping what it recorded. -/
def setPresentation (e : Engine) (attached : Bool) : Engine :=
  { e with presentation := { e.presentation with attached := attached } }

/-- Shows an event. -/
def emit (e : Engine) (ev : Event) : Engine :=
  { e with presentation := e.presentation.emit ev }

/-- Tells every listener. -/
def notify (e : Engine) (n : Notice) : Engine :=
  { e with listeners := e.listeners.map (·.hear n) }

/-- Reports a diagnostic. -/
def report (e : Engine) (d : Diagnostic) : Engine :=
  { e with diagnostics := e.diagnostics.report d }

/-- Takes the diagnostics reported since the last take. -/
def takeDiagnostics (e : Engine) : List Diagnostic × Engine :=
  let (ds, log) := e.diagnostics.take
  (ds, { e with diagnostics := log })

/-- Takes the recorded events. -/
def drainEvents (e : Engine) : List Event × Engine :=
  let (evs, p) := e.presentation.drain
  (evs, { e with presentation := p })

/-- Empties every listener's log. -/
def clearNotices (e : Engine) : Engine :=
  { e with listeners := e.listeners.map Listener.clear }

/-- A not-found diagnostic listing the registry's ids. -/
def notFound (e : Engine) (code context id : String) : Diagnostic :=
  Diagnostic.notFound code context id e.registry.knownIds

end Engine

end Colloquy
