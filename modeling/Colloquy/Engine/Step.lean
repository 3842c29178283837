import Colloquy.Engine.Basic
import Colloquy.Document.Reader
/-!
# Playing a dialogue

The operations of an engine, each a function from engine to engine:

* `start id` begins a conversation at its first node. An unknown id is reported and changes
  nothing. While a run is active, a start replaces it, or is refused under `StartPolicy.reject`.
* `advance` enters the next node. A node's assignments are applied when it is entered. A node
  that jumps is left for the first node of the target conversation; the jumps one advance may
  take are bounded by `EngineOptions.maxHops`. A node that does not jump is shown. Past the
  last node the run ends.
* `choose i` follows the `i`-th pending choice.
* `stop` ends the run, hides everything and tells the listeners. It may be repeated.
* `load` reads a document and installs it, ending any run first.

Showing a node emits its line, clears the old choices, emits the new ones if any, and sends
the listeners the new view. `dispatch` routes a `Command` and says whether it had anything to
act on.
-/

namespace Colloquy

namespace Engine

/-- **Ends the run**: no run remains, everything is hidden and the listeners are told. -/
def stop (e : Engine) : Engine :=
  ({ e with run := {} }.emit .hidden).notify .ended

/-- Sends the current view to the listeners, if there is one. -/
def notifyUpdated (e : Engine) : Engine :=
  match e.view? with
  | some v => e.notify (.updated v)
  | none => e

/-- Shows a node: its line, the old choices cleared, its choices, then the new view. -/
def render (e : Engine) (node : Node) : Engine :=
  let e := (e.emit (.line node.speaker node.text)).emit .choicesCleared
  let e := { e with run := { e.run with pending := node.choices } }
  let e := if node.isDecision then e.emit (.choices e.pendingItems) else e
  e.notifyUpdated

/-- What entering one node leads to: the run settles (the node is shown, or the run ends), or
the node jumps to a known conversation. -/
inductive Entry where
  | settled (e : Engine)
  | jump (e : Engine) (next : Conversation)

/-- Enters the node after the cursor: applies its assignments, then shows it, ends the run, or
names the known conversation it jumps to. -/
def enterNext (e : Engine) : Entry :=
  match e.run.conversation with
  | none => .settled e.stop
  | some conv =>
    let cursor := match e.run.cursor with
      | some c => c + 1
      | none => 0
    let e := { e with run := { e.run with cursor := some cursor } }
    match conv.node? cursor with
    | none => .settled e.stop
    | some node =>
      let e := { e with store := e.store.setAll node.assignments }
      match node.jumpTarget? with
      | none => .settled (e.render node)
      | some target =>
        match e.registry.lookup? target with
        | none => .settled (e.report (e.notFound "ENGINE_JUMP_TARGET_NOT_FOUND" "goto" target)).stop
        | some next => .jump e next

/-- Enters nodes until one is shown or the run ends, with `hopsLeft` jumps still allowed. -/
def enter : Nat → Engine → Engine
  | hopsLeft, e =>
    match enterNext e with
    | .settled e => e
    | .jump e next =>
      match hopsLeft with
      | 0 => (e.report (Diagnostic.jumpLimit next.id e.options.maxHops)).stop
      | h + 1 => enter h { e with run := { e.run with conversation := some next, cursor := none } }

/-- **Advances** to the next shown node; nothing happens while idle or awaiting a choice. -/
def advance (e : Engine) : Engine :=
  if !e.run.active || !e.run.pending.isEmpty then e
  else enter e.options.maxHops e

/-- **Follows a pending choice.** An index out of range does nothing. A choice whose target is
unknown is reported and dropped with the other choices, and the line stays. -/
def choose (e : Engine) (index : Nat) : Engine :=
  match e.run.pending[index]? with
  | none => e
  | some choice =>
    match e.registry.lookup? choice.target with
    | none =>
      let e := e.report (e.notFound "ENGINE_CHOICE_TARGET_NOT_FOUND" "choice goto" choice.target)
      let e := { e with run := { e.run with pending := [] } }
      (e.emit .choicesCleared).notifyUpdated
    | some next =>
      let e := { e with run := { e.run with conversation := some next, cursor := none,
                                            pending := [] } }
      (e.emit .choicesCleared).advance

/-- **Starts a conversation**, saying whether it started. -/
def start (e : Engine) (id : String) : Bool × Engine :=
  match e.registry.lookup? id with
  | none => (false, e.report (e.notFound "ENGINE_CONVERSATION_NOT_FOUND" "Dialogue" (Text.trim id)))
  | some conv =>
    if e.run.active && e.options.startPolicy == .reject then
      (false, e.report (Diagnostic.alreadyActive ((e.conversationId?).getD "") conv.id))
    else
      (true, advance { e with run := { active := true, conversation := some conv } })

/-- Ends the run if one is active. -/
def stopIfActive (e : Engine) : Engine :=
  if e.run.active then e.stop else e

/-- Puts a document's conversations and variables in place of the loaded ones. -/
def install (e : Engine) (d : Document) : Engine :=
  { e with registry := Registry.ofDocument d, store := Store.ofBindings d.bindings }

/-- Installs a document that is already read, ending any run first. -/
def loadParsed (e : Engine) (d : Document) : Engine :=
  e.stopIfActive.install d

/-- **Loads a document** from its text, ending any run first. A document that fails to read is
reported, and under `ReloadPolicy.clear` empties the conversations and variables. -/
def load (e : Engine) (source : String) : Except Fault Unit × Engine :=
  let e := e.stopIfActive
  match Document.parse source with
  | .ok d => (.ok (), e.install d)
  | .error f =>
    let e := e.report (Diagnostic.document f)
    let e := if e.options.reloadPolicy == .clear then { e with registry := Registry.empty, store := {} }
      else e
    (.error f, e)

end Engine

/-- What a player or host asks of an engine. -/
inductive Command where
  | advance
  | choose (index : Nat)
  | start (id : String)
  | stop
  deriving BEq, Inhabited, Repr

/-- **Routes a command**, saying whether it had anything to act on:
* advancing acts only while displaying;
* choosing acts only on a pending index;
* starting acts when the start succeeds;
* stopping always ends, and acts when a run was active. -/
def Engine.dispatch (e : Engine) : Command → Bool × Engine
  | .advance => if e.phase != .displaying then (false, e) else (true, e.advance)
  | .choose i => if i ≥ e.run.pending.length then (false, e) else (true, e.choose i)
  | .start id => e.start id
  | .stop => (e.run.active, e.stop)

end Colloquy
