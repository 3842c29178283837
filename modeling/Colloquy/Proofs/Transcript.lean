import Mathlib.Data.List.Forall2
import Colloquy.Proofs.RunShape
/-!
# What a host is shown follows the run

A host that installs a recording presentation when it builds an engine, and subscribes its
listeners before the first operation, sees two things: the transcript of presentation events,
and the notices each listener hears. Folding the transcript gives what a screen shows
(`Presented.ofEvents`): a line replaces the shown line and unhides the dialogue, a choice list
replaces the shown choices, clearing empties them, and hiding blanks everything.

The theorem here (`transcript_follows_run`) says that after every run of operations the folded
transcript is exactly the engine's own account (`Engine.presented`: its current line, its
pending choices, and whether no run is active), and the last notice of every listener is the
current view while a run is active, and the end or nothing while none is.

The proof says once how each operation changes what is shown (`Shows`): the events it emits,
the notices every listener hears, and that folding those events carries the old account to
the new one. Entering settles the question outright (`Settles`): whatever entering emits ends
with a hide or with a line followed by its choices, so the screen no longer depends on what
it showed before. An operation that notifies nobody leaves the run alone.
-/

namespace Colloquy

/-- What a screen shows: the line, the choices on offer, and whether the dialogue is hidden. -/
structure Presented where
  line : Option (String × String) := none
  choices : List ChoiceItem := []
  hidden : Bool := true

namespace Presented

/-- Shows one event. -/
def present (s : Presented) : Event → Presented
  | .line speaker text => { s with line := some (speaker, text), hidden := false }
  | .choices items => { s with choices := items }
  | .choicesCleared => { s with choices := [] }
  | .hidden => { line := none, choices := [], hidden := true }

/-- What a transcript shows, from a blank screen. -/
def ofEvents (evs : List Event) : Presented :=
  evs.foldl present {}

end Presented

/-- Emits events in order. -/
def Presentation.emitAll (p : Presentation) (evs : List Event) : Presentation :=
  evs.foldl Presentation.emit p

/-- Hears notices in order. -/
def Listener.hearAll (l : Listener) (ns : List Notice) : Listener :=
  ns.foldl Listener.hear l

theorem Presentation.emitAll_append (p : Presentation) (u v : List Event) :
    p.emitAll (u ++ v) = (p.emitAll u).emitAll v := by
  simp [emitAll, List.foldl_append]

theorem Listener.hearAll_append (l : Listener) (r ns : List Notice) :
    l.hearAll (r ++ ns) = (l.hearAll r).hearAll ns := by
  simp [hearAll, List.foldl_append]

theorem Presentation.attached_emitAll (p : Presentation) (u : List Event) :
    (p.emitAll u).attached = p.attached := by
  induction u generalizing p with
  | nil => rfl
  | cons ev u ih =>
    rw [emitAll, List.foldl_cons, ← emitAll, ih]
    unfold emit
    split <;> rfl

/-- An attached presentation records every event it is given. -/
theorem Presentation.events_emitAll {p : Presentation} (h : p.attached = true) (u : List Event) :
    (p.emitAll u).events.toList = p.events.toList ++ u := by
  induction u generalizing p with
  | nil => simp [emitAll]
  | cons ev u ih =>
    have hemit : p.emit ev = { p with events := p.events.push ev } := by simp [emit, h]
    rw [emitAll, List.foldl_cons, ← emitAll, ih (by rw [hemit]; exact h), hemit]
    simp

namespace Engine

/-- What the engine says should be shown: its current line, its pending choices, and whether
no run is active. -/
def presented (e : Engine) : Presented :=
  ⟨e.currentLine?, e.pendingItems, !e.isActive⟩

/-- The last of the notices `received` agrees with the engine: it is the current view while a
run is active, and the end, or there is none, while no run is. -/
def LastNotice (e : Engine) (received : List Notice) : Prop :=
  if e.run.active then ∃ v, e.view? = some v ∧ received.getLast? = some (.updated v)
  else received.getLast? = none ∨ received.getLast? = some .ended

/-- A listener subscribed as `l₀` is now `l`, having heard notices whose last agrees with the
engine. -/
def Hears (e : Engine) (l₀ l : Listener) : Prop :=
  ∃ r, l = l₀.hearAll r ∧ e.LastNotice r

/-- **What is shown follows the run**: the folded transcript since the presentation `p` was
installed is the engine's own account, and every listener subscribed as one of `ls` last heard
what agrees with the engine. -/
structure Follows (p : Presentation) (ls : List Listener) (e : Engine) : Prop where
  transcript : ∃ t, e.presentation.events.toList = p.events.toList ++ t ∧
    Presented.ofEvents t = e.presented
  listeners : List.Forall₂ e.Hears ls e.listeners

/-! ### The account reads only the run -/

theorem presented_of_run {e e' : Engine} (h : e'.run = e.run) : e'.presented = e.presented := by
  simp [presented, currentLine?, pendingItems, isActive, h]

theorem view?_of_run {e e' : Engine} (h : e'.run = e.run) : e'.view? = e.view? := by
  simp [view?, currentLine?, conversationId?, pendingItems, h]

theorem LastNotice.of_run {e e' : Engine} {r : List Notice} (h : e.LastNotice r)
    (hrun : e'.run = e.run) : e'.LastNotice r := by
  unfold LastNotice at h ⊢
  rw [hrun, view?_of_run hrun]
  exact h

/-! ### Frame lemmas -/

@[simp] theorem emit_presentation (e : Engine) (ev : Event) :
    (e.emit ev).presentation = e.presentation.emit ev := rfl
@[simp] theorem emit_listeners (e : Engine) (ev : Event) :
    (e.emit ev).listeners = e.listeners := rfl
@[simp] theorem notify_presentation (e : Engine) (n : Notice) :
    (e.notify n).presentation = e.presentation := rfl
@[simp] theorem notify_listeners (e : Engine) (n : Notice) :
    (e.notify n).listeners = e.listeners.map (·.hear n) := rfl
@[simp] theorem report_presentation (e : Engine) (d : Diagnostic) :
    (e.report d).presentation = e.presentation := rfl
@[simp] theorem report_listeners (e : Engine) (d : Diagnostic) :
    (e.report d).listeners = e.listeners := rfl

theorem stop_presentation (e : Engine) :
    e.stop.presentation = e.presentation.emitAll [.hidden] := rfl

theorem stop_listeners (e : Engine) :
    e.stop.listeners = e.listeners.map (·.hearAll [.ended]) := rfl

theorem notifyUpdated_presentation (e : Engine) :
    e.notifyUpdated.presentation = e.presentation := by
  unfold notifyUpdated
  split <;> rfl

theorem notifyUpdated_listeners (e : Engine) :
    e.notifyUpdated.listeners = e.listeners.map (·.hearAll (e.view?.map .updated).toList) := by
  unfold notifyUpdated
  split
  · rename_i v hv
    simp [hv, Listener.hearAll]
  · rename_i hv
    simp [hv, Listener.hearAll]

/-- Choices as shown, numbered from zero. -/
def itemsOf (cs : List Choice) : List ChoiceItem :=
  cs.zipIdx.map fun (c, i) => ⟨i, c.text⟩

theorem pendingItems_eq (e : Engine) : e.pendingItems = itemsOf e.run.pending := rfl

/-- The events a node is shown with: its line, the old choices cleared, and its own choices if
it has any. -/
def shownEvents (node : Node) : List Event :=
  [.line node.speaker node.text, .choicesCleared] ++
    if node.isDecision then [.choices (itemsOf node.choices)] else []

theorem render_presentation (e : Engine) (node : Node) :
    (e.render node).presentation = e.presentation.emitAll (shownEvents node) := by
  unfold render shownEvents
  split <;> simp [notifyUpdated_presentation, Presentation.emitAll, pendingItems_eq]

theorem render_listeners (e : Engine) (node : Node) :
    (e.render node).listeners =
      e.listeners.map (·.hearAll ((e.render node).view?.map .updated).toList) := by
  unfold render
  split <;> simp [notifyUpdated_listeners, view?_of_run (notifyUpdated_run _)]

/-! ### How one step changes what is shown -/

/-- How one step changed what is shown: it emitted the events `u`, every listener heard the
notices `ns`, folding `u` carries the old account to the new one, and a step that notified
nobody left the run alone. -/
structure Shows (e e' : Engine) (u : List Event) (ns : List Notice) : Prop where
  presentation : e'.presentation = e.presentation.emitAll u
  listeners : e'.listeners = e.listeners.map (·.hearAll ns)
  screen : u.foldl Presented.present e.presented = e'.presented
  heard : (ns = [] ∧ e'.run = e.run) ∨ (ns ≠ [] ∧ e'.LastNotice ns)

/-- A step that settles what is shown: whatever was shown before, its events leave the new
account, and every listener last heard what agrees with the new engine. -/
structure Settles (e e' : Engine) (u : List Event) (ns : List Notice) : Prop where
  presentation : e'.presentation = e.presentation.emitAll u
  listeners : e'.listeners = e.listeners.map (·.hearAll ns)
  screen : ∀ s, u.foldl Presented.present s = e'.presented
  heard : ns ≠ [] ∧ e'.LastNotice ns

theorem Settles.shows {e e' : Engine} {u : List Event} {ns : List Notice} (h : Settles e e' u ns) :
    Shows e e' u ns :=
  ⟨h.presentation, h.listeners, h.screen _, .inr h.heard⟩

/-- A step that emits nothing, notifies nobody and leaves the run shows nothing new. -/
theorem Shows.stay {e e' : Engine} (hp : e'.presentation = e.presentation)
    (hl : e'.listeners = e.listeners) (hr : e'.run = e.run) : Shows e e' [] [] :=
  ⟨hp, by simp [hl, Listener.hearAll], by simp [presented_of_run hr], .inl ⟨rfl, hr⟩⟩

/-- Changes to the registry, the variables and the diagnostics after a step show nothing. -/
theorem Shows.frame {e e₁ e' : Engine} {u : List Event} {ns : List Notice} (h : Shows e e₁ u ns)
    (hp : e'.presentation = e₁.presentation) (hl : e'.listeners = e₁.listeners)
    (hr : e'.run = e₁.run) : Shows e e' u ns := by
  refine ⟨hp.trans h.presentation, hl.trans h.listeners, ?_, ?_⟩
  · rw [presented_of_run hr]
    exact h.screen
  · rcases h.heard with ⟨hns, hrun⟩ | ⟨hns, hlast⟩
    · exact .inl ⟨hns, hr.trans hrun⟩
    · exact .inr ⟨hns, hlast.of_run hr⟩

/-- A settling step taken after some events were emitted settles the whole. -/
theorem Settles.after {e e₁ e' : Engine} {u₀ u : List Event} {ns : List Notice}
    (h : Settles e₁ e' u ns) (hp : e₁.presentation = e.presentation.emitAll u₀)
    (hl : e₁.listeners = e.listeners) : Settles e e' (u₀ ++ u) ns := by
  refine ⟨?_, by rw [h.listeners, hl], fun s => ?_, h.heard⟩
  · rw [h.presentation, hp, Presentation.emitAll_append]
  · rw [List.foldl_append]
    exact h.screen _

/-- Settling depends on the engine before only through its presentation and listeners. -/
theorem Settles.of_host {e e₁ e' : Engine} {u : List Event} {ns : List Notice}
    (h : Settles e₁ e' u ns) (hp : e₁.presentation = e.presentation)
    (hl : e₁.listeners = e.listeners) : Settles e e' u ns :=
  ⟨by rw [h.presentation, hp], by rw [h.listeners, hl], h.screen, h.heard⟩

theorem presented_stop (e : Engine) : e.stop.presented = {} := by
  simp [presented, currentLine?, pendingItems, isActive, stop_run]

/-- **Ending** hides everything and tells every listener. -/
theorem settles_stop (e : Engine) : Settles e e.stop [.hidden] [.ended] := by
  refine ⟨stop_presentation e, stop_listeners e, fun s => ?_, by simp, ?_⟩
  · rw [presented_stop]
    rfl
  · simp [LastNotice]

/-- **Showing a node** settles the screen on its line and its choices, and tells every listener
the new view. -/
theorem settles_render {e : Engine} {c : Conversation} {i : Nat} {node : Node}
    (hact : e.run.active = true) (hc : e.run.conversation = some c) (hi : e.run.cursor = some i)
    (hn : c.nodes[i]? = some node) :
    ∃ v, Settles e (e.render node) (shownEvents node) [.updated v] := by
  have hline : (e.render node).currentLine? = some (node.speaker, node.text) := by
    simp [currentLine?, hact, hc, hi, Conversation.node?, hn]
  obtain ⟨v, hv⟩ : ∃ v, (e.render node).view? = some v := by
    simp [view?, hline, conversationId?, hc, hi]
  refine ⟨v, render_presentation e node, by rw [render_listeners, hv]; rfl, fun s => ?_,
    by simp, ?_⟩
  · -- the line unhides, the choices are cleared, then replaced by the node's own if any
    have hitems : (e.render node).pendingItems = itemsOf node.choices := by
      simp [pendingItems_eq]
    simp only [presented, hline, hitems, isActive, render_run, hact, Bool.not_true]
    unfold shownEvents
    split
    · rfl
    · rename_i hdec
      have hnil : node.choices = [] := by simpa [Node.isDecision] using hdec
      simp [hnil, itemsOf, Presented.present]
  · simp [LastNotice, hact, hv]

/-- **Entering** settles what is shown: the run ends, or a node is shown. -/
theorem settles_enter {n : Nat} {e : Engine} (hact : e.run.active = true) :
    ∃ u ns, Settles e (enter n e) u ns := by
  rcases enter_cases n e with ⟨s, hs⟩ | ⟨s, d, hs⟩ | ⟨s, c, i, node, hn, -, -, hs⟩
  · rw [hs]
    exact ⟨_, _, (settles_stop _).of_host rfl rfl⟩
  · rw [hs]
    exact ⟨_, _, (settles_stop _).of_host rfl rfl⟩
  · rw [hs]
    obtain ⟨v, hv⟩ := @settles_render { e with
      store := s, run := { e.run with conversation := some c, cursor := some i } } c i node
      hact rfl rfl hn
    exact ⟨_, _, hv.of_host rfl rfl⟩

/-- Entering, after some events were emitted, shows all together what it changed. -/
theorem shows_enter {e e₁ : Engine} {n : Nat} (u₀ : List Event) (hact : e₁.run.active = true)
    (hp : e₁.presentation = e.presentation.emitAll u₀) (hl : e₁.listeners = e.listeners) :
    ∃ u ns, Shows e (enter n e₁) u ns := by
  obtain ⟨u, ns, hs⟩ : ∃ u ns, Settles e₁ (enter n e₁) u ns := settles_enter hact
  exact ⟨u₀ ++ u, ns, (hs.after hp hl).shows⟩

/-! ### Each operation shows what it changed -/

theorem shows_advance (e : Engine) : ∃ u ns, Shows e e.advance u ns := by
  unfold Engine.advance
  split
  · exact ⟨[], [], Shows.stay rfl rfl rfl⟩
  · rename_i hgo
    have hact : e.run.active = true := by
      simp only [Bool.or_eq_true, Bool.not_eq_eq_eq_not, Bool.not_true, not_or] at hgo
      simpa using hgo.1
    exact shows_enter [] hact rfl rfl

/-- **Clearing the choices** of a shown line empties the shown choices, and every listener
hears the line again without them. -/
theorem shows_clearChoices {e e₁ : Engine} {c : Conversation} {j : Nat} {node : Node}
    (hact : e.run.active = true) (hc : e.run.conversation = some c) (hj : e.run.cursor = some j)
    (hn : c.nodes[j]? = some node) (hrun : e₁.run = { e.run with pending := [] })
    (hp : e₁.presentation = e.presentation.emit .choicesCleared)
    (hl : e₁.listeners = e.listeners) :
    ∃ v, Shows e e₁.notifyUpdated [.choicesCleared] [.updated v] := by
  -- the line under the cursor is still there once the choices are gone
  have hline : e₁.currentLine? = some (node.speaker, node.text) := by
    simp [currentLine?, hrun, hact, hc, hj, Conversation.node?, hn]
  obtain ⟨v, hv⟩ : ∃ v, e₁.view? = some v := by
    simp [view?, hline, conversationId?, hrun, hc, hj]
  refine ⟨v, ?_, ?_, ?_, .inr ⟨by simp, ?_⟩⟩
  · rw [notifyUpdated_presentation, hp]
    rfl
  · rw [notifyUpdated_listeners, hv, hl]
    rfl
  · rw [presented_of_run (notifyUpdated_run _)]
    simp [presented, Presented.present, currentLine?, pendingItems, isActive, hrun]
  · simp [LastNotice, hrun, hact, view?_of_run (notifyUpdated_run _), hv]

/-- **A choice that leads nowhere** clears the shown choices, and every listener hears the line
again without them. -/
theorem shows_choose_unknown {e : Engine} (h : e.WellFormed) {i : Nat} {choice : Choice}
    (hch : e.run.pending[i]? = some choice) (hmiss : e.registry.lookup? choice.target = none) :
    ∃ v, Shows e (e.choose i) [.choicesCleared] [.updated v] := by
  obtain ⟨c, j, node, hact, hc, hj, hn, -⟩ :=
    h.run.shown_of_pending (List.ne_nil_of_mem (List.mem_of_getElem? hch))
  simp only [Engine.choose, hch, hmiss]
  exact shows_clearChoices hact hc hj hn rfl rfl rfl

theorem shows_choose {e : Engine} (h : e.WellFormed) (i : Nat) :
    ∃ u ns, Shows e (e.choose i) u ns := by
  cases hch : e.run.pending[i]? with
  | none => exact ⟨[], [], Shows.stay (by simp [Engine.choose, hch]) (by simp [Engine.choose, hch])
      (by simp [Engine.choose, hch])⟩
  | some choice =>
    cases hmiss : e.registry.lookup? choice.target with
    | none =>
      obtain ⟨v, hv⟩ := shows_choose_unknown h hch hmiss
      exact ⟨_, _, hv⟩
    | some next =>
      -- the choices are cleared, then the target is entered from its first node
      obtain ⟨-, -, -, hact, -⟩ :=
        h.run.shown_of_pending (List.ne_nil_of_mem (List.mem_of_getElem? hch))
      simp only [Engine.choose, hch, hmiss]
      rw [advance_eq_enter (by simpa using hact) rfl]
      exact shows_enter [.choicesCleared] (by simpa using hact) rfl rfl

theorem shows_start (e : Engine) (id : String) : ∃ u ns, Shows e (e.start id).2 u ns := by
  unfold Engine.start
  split
  · exact ⟨[], [], Shows.stay rfl rfl rfl⟩
  · split
    · exact ⟨[], [], Shows.stay rfl rfl rfl⟩
    · rw [advance_eq_enter]
      · exact shows_enter [] rfl rfl rfl
      · rfl
      · rfl

theorem shows_stopIfActive (e : Engine) : ∃ u ns, Shows e e.stopIfActive u ns := by
  unfold stopIfActive
  split
  · exact ⟨_, _, (settles_stop e).shows⟩
  · exact ⟨[], [], Shows.stay rfl rfl rfl⟩

theorem shows_load (e : Engine) (source : String) : ∃ u ns, Shows e (e.load source).2 u ns := by
  obtain ⟨u, ns, hs⟩ := shows_stopIfActive e
  -- loading changes only the registry, the variables and the diagnostics after the end
  refine ⟨u, ns, hs.frame ?_ ?_ ?_⟩ <;>
  · unfold Engine.load
    simp only
    split
    · rfl
    · split <;> rfl

theorem shows_loadParsed (e : Engine) (d : Document) :
    ∃ u ns, Shows e (e.loadParsed d) u ns := by
  obtain ⟨u, ns, hs⟩ := shows_stopIfActive e
  exact ⟨u, ns, hs.frame rfl rfl rfl⟩

/-- **Every operation but subscribing shows what it changed.** -/
theorem shows_apply {e : Engine} (h : e.WellFormed) :
    ∀ op : Op, op.addsListener = false → ∃ u ns, Shows e (op.apply e) u ns
  | .load s, _ => shows_load e s
  | .loadParsed d, _ => shows_loadParsed e d
  | .start id, _ => shows_start e id
  | .advance, _ => shows_advance e
  | .choose i, _ => shows_choose h i
  | .stop, _ => ⟨_, _, (settles_stop e).shows⟩
  | .dispatch c, _ => by
    rcases dispatch_cases e c with hc | hc <;> rw [Op.apply, hc]
    · exact ⟨[], [], Shows.stay rfl rfl rfl⟩
    · cases c with
      | advance => exact shows_advance e
      | choose i => exact shows_choose h i
      | start id => exact shows_start e id
      | stop => exact ⟨_, _, (settles_stop e).shows⟩
  | .takeDiagnostics, _ => ⟨[], [], Shows.stay rfl rfl rfl⟩

/-! ### What is shown follows every run -/

/-- One step keeps what is shown following the run: the transcript grows by the step's events,
and every listener has heard the step's notices after its own. -/
theorem Follows.step {p : Presentation} {ls : List Listener} {e e' : Engine} {u : List Event}
    {ns : List Notice} (hf : e.Follows p ls) (hatt : e.presentation.attached = true)
    (hs : Shows e e' u ns) : e'.Follows p ls := by
  obtain ⟨⟨t, ht, hscreen⟩, hls⟩ := hf
  refine ⟨⟨t ++ u, ?_, ?_⟩, ?_⟩
  · rw [hs.presentation, Presentation.events_emitAll hatt, ht, List.append_assoc]
  · rw [Presented.ofEvents, List.foldl_append, ← Presented.ofEvents, hscreen]
    exact hs.screen
  · rw [hs.listeners, List.forall₂_map_right_iff]
    refine hls.imp fun l₀ l ⟨r, hl, hlast⟩ => ⟨r ++ ns, by rw [hl, Listener.hearAll_append], ?_⟩
    rcases hs.heard with ⟨rfl, hrun⟩ | ⟨hne, hlast'⟩
    · simpa using hlast.of_run hrun
    · -- the step's own notices come last
      unfold LastNotice at hlast' ⊢
      rwa [List.getLast?_append_of_ne_nil _ hne]

/-- Operations that subscribe nobody keep what is shown following the run. -/
theorem Follows.runOps {p : Presentation} {ls : List Listener} {e : Engine} (hf : e.Follows p ls)
    (hwf : e.WellFormed) (hatt : e.presentation.attached = true) (ops : List Op)
    (hops : ∀ op ∈ ops, op.addsListener = false) : (e.runOps ops).Follows p ls := by
  induction ops generalizing e with
  | nil => exact hf
  | cons op ops ih =>
    obtain ⟨u, ns, hs⟩ := shows_apply hwf op (hops op List.mem_cons_self)
    have hatt' : (op.apply e).presentation.attached = true := by
      rw [hs.presentation, Presentation.attached_emitAll, hatt]
    rw [runOps_cons]
    exact ih (hf.step hatt hs) (hwf.apply op) hatt' fun op' h' => hops op' (List.mem_cons_of_mem _ h')

theorem subscribeAll_listeners (e : Engine) (ls : List Listener) :
    (e.subscribeAll ls).listeners = e.listeners ++ ls := by
  induction ls generalizing e with
  | nil => simp [subscribeAll]
  | cons l ls ih =>
    rw [subscribeAll, List.foldl_cons, ← subscribeAll, ih]
    simp [subscribe]

/-- Subscribing changes only the listeners. -/
theorem subscribeAll_eq (e : Engine) (ls : List Listener) :
    e.subscribeAll ls = { e with listeners := e.listeners ++ ls } := by
  rw [← subscribeAll_listeners]
  induction ls generalizing e with
  | nil => rfl
  | cons l ls ih =>
    rw [subscribeAll, List.foldl_cons, ← subscribeAll, ih]
    rfl

/-- A new engine with its listeners subscribed shows nothing, and no listener heard anything. -/
theorem follows_new (o : EngineOptions) (p : Presentation) (ls : List Listener) :
    ((Engine.new o p).subscribeAll ls).Follows p ls := by
  rw [subscribeAll_eq]
  refine ⟨⟨[], by simp [Engine.new], by simp [presented, Presented.ofEvents, Engine.new,
    currentLine?, pendingItems, isActive]⟩, ?_⟩
  simp only [Engine.new, List.nil_append]
  exact List.forall₂_same.mpr fun l _ => ⟨[], rfl, by simp [LastNotice]⟩

/-- **What is shown follows the run.** For an engine built with a recording presentation `p`
and the listeners `ls` subscribed before anything else, after every sequence of operations that
subscribes nobody: the events recorded since `p` fold to the engine's current line, pending
choices and whether no run is active; and every listener last heard the current view while a
run is active, and the end or nothing while none is. -/
theorem transcript_follows_run (o : EngineOptions) {p : Presentation} (hp : p.attached = true)
    (ls : List Listener) (ops : List Op) (hops : ∀ op ∈ ops, op.addsListener = false) :
    (((Engine.new o p).subscribeAll ls).runOps ops).Follows p ls := by
  have hwf : ((Engine.new o p).subscribeAll ls).WellFormed := by
    rw [subscribeAll_eq]
    exact (wellFormed_new o p).of_frame rfl rfl
  have hatt : ((Engine.new o p).subscribeAll ls).presentation.attached = true := by
    rw [subscribeAll_eq]
    exact hp
  exact (follows_new o p ls).runOps hwf hatt ops hops

/-- A host that records, keeps a log, loads two rooms, starts and takes the one choice. -/
theorem twoRooms_chosen_transcript_follows :
    ({} : Presentation).attached = true ∧
    (∀ op ∈ [Op.loadParsed twoRooms, .start "main", .choose 0], op.addsListener = false) ∧
    (((Engine.new {} {}).subscribeAll [.log #[]]).runOps
      [.loadParsed twoRooms, .start "main", .choose 0]).Follows {} [.log #[]] :=
  have hops : ∀ op ∈ [Op.loadParsed twoRooms, .start "main", .choose 0],
      op.addsListener = false := by
    simp [Op.addsListener]
  ⟨rfl, hops, transcript_follows_run {} rfl [.log #[]] _ hops⟩

end Engine

end Colloquy
