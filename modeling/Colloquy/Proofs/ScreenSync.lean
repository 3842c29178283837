import Mathlib
import Colloquy.Proofs.Transcript
import Colloquy.Screen.Keys
/-!
# The full screen stays in step with the engine

The full-screen player opens a session, takes in what the engine emitted on a fresh display,
and from then on answers key presses, between which the typewriter ticks (`Screen.Input`).
After every key that sends a command, the display takes in the events the engine emitted and
the diagnostics it reported (`Screen.sync`).

The display folds the events as a screen does (`Presented.present`) as far as the choices and
the end are concerned (`Display.Agrees.applyEvent`): a line unhides, a choice list replaces the
choices, clearing empties them, and hiding empties them and marks the end. After each step, the
events taken in are exactly those the engine emitted since the last, and these carry the
engine's old account to its new one (`Engine.Shows`). Opening and restarting emit events that
settle the account whatever was shown before (`Engine.Settles`), because the entry is started
at once. So the display agrees with the engine after every input (`Screen.InStep`).

The main theorem (`screen_stays_in_sync`) says that, for every dialogue the session opens and
every run of inputs, the displayed choices are the engine's pending choices, the display has
ended exactly when no run is active, no key press fails (a restart opens the same dialogue
again, which succeeded once), and a confirmation while nothing is typed and the run goes on
sends a command the engine acts on: the selected choice while choices are shown, an advance
otherwise.
-/

namespace Colloquy

/-! ### Opening an engine -/

/-- A start that goes ahead enters the conversation it found. -/
theorem Engine.start_eq_true {e e' : Engine} {id : String} (h : e.start id = (true, e')) :
    ∃ c, e' = Engine.enter e.options.maxHops
      { e with run := { active := true, conversation := some c } } := by
  unfold Engine.start at h
  split at h
  · cases h
  · rename_i c hc
    split at h
    · cases h
    · refine ⟨c, ?_⟩
      rw [← (Prod.mk.inj h).2, Engine.advance_eq_enter rfl rfl]

/-- **A freshly built engine** is well formed, records, and has emitted events that settle its
account whatever was shown before. -/
theorem Engine.create_settles {source : String} {entry : Option String} {o : EngineOptions}
    {e : Engine} (h : Engine.create source entry o { attached := true } = .ok e) :
    e.WellFormed ∧ e.presentation.attached = true ∧
      ∀ p, e.presentation.events.toList.foldl Presented.present p = e.presented := by
  unfold Engine.create at h
  cases hd : Document.parse source with
  | error f => simp [hd, bind, Except.bind] at h
  | ok d =>
    cases hentry : (Registry.ofDocument d).resolveEntry entry with
    | error f => simp [hd, hentry, bind, Except.bind] at h
    | ok entry' =>
      simp only [hd, hentry, bind, Except.bind] at h
      -- the start went ahead, or creating would have failed
      cases hs : ((Engine.new o { attached := true }).loadParsed d).start entry' with
      | mk started e' =>
        rw [hs] at h
        cases started with
        | false =>
          simp only [Bool.false_eq_true, if_false] at h
          split at h <;> cases h
        | true =>
          simp only [if_true, pure, Except.pure, Except.ok.injEq] at h
          subst h
          have hreach : Engine.Reachable e' := by
            have hr := Engine.Reachable.step (.start entry')
              (Engine.Reachable.step (.loadParsed d) (Engine.Reachable.new o { attached := true }))
            rwa [Engine.Op.apply, Engine.Op.apply, hs] at hr
          obtain ⟨c, hc⟩ := Engine.start_eq_true hs
          obtain ⟨u, ns, hset⟩ := @Engine.settles_enter
            ((Engine.new o { attached := true }).loadParsed d).options.maxHops
            { (Engine.new o { attached := true }).loadParsed d with
              run := { active := true, conversation := some c } } rfl
          rw [← hc] at hset
          -- loading into a new engine emits nothing
          have hpres : ((Engine.new o { attached := true }).loadParsed d).presentation =
              { attached := true } := rfl
          have hemit : e'.presentation = ({ attached := true } : Presentation).emitAll u := by
            rw [hset.presentation, hpres]
          refine ⟨hreach.wellFormed, ?_, fun p => ?_⟩
          · rw [hemit, Presentation.attached_emitAll]
          · rw [hemit, Presentation.events_emitAll rfl]
            exact hset.screen p

/-- A session that opens holds its dialogue and entry, and the engine built for them. -/
theorem Console.Session.create_eq_ok {dialogue : Console.Loaded} {entry : Option String}
    {s₀ : Console.Session} (hopen : Console.Session.create dialogue entry = .ok s₀) :
    ∃ e, Engine.create dialogue.source entry {} { attached := true } = .ok e ∧
      s₀ = ⟨dialogue, entry, e⟩ := by
  unfold Console.Session.create at hopen
  cases hc : Engine.create dialogue.source entry {} { attached := true } with
  | error f => simp [hc, Except.map] at hopen
  | ok e =>
    simp only [hc, Except.map, Except.ok.injEq] at hopen
    exact ⟨e, rfl, hopen.symm⟩

end Colloquy

namespace Colloquy.Screen

open Console (Session Loaded)

/-! ### The display follows the account of the engine -/

namespace Display

/-- The display shows the choices of the account `p`, and has ended exactly when `p` is
hidden. -/
def Agrees (d : Display) (p : Presented) : Prop :=
  d.choices = p.choices ∧ d.ended = p.hidden

/-- While choices are shown, one of them is selected. -/
def Selects (d : Display) : Prop :=
  d.choices ≠ [] → d.selected < d.choices.length

theorem Agrees.applyEvent {d : Display} {p : Presented} (h : d.Agrees p) (ev : Event) :
    (d.applyEvent ev).Agrees (p.present ev) := by
  obtain ⟨hc, he⟩ := h
  cases ev with
  | line speaker text => exact ⟨hc, rfl⟩
  | choices items => exact ⟨rfl, he⟩
  | choicesCleared => exact ⟨rfl, he⟩
  | hidden => exact ⟨rfl, rfl⟩

theorem Agrees.applyEvents {d : Display} {p : Presented} (h : d.Agrees p) (evs : List Event) :
    (d.applyEvents evs).Agrees (evs.foldl Presented.present p) := by
  induction evs generalizing d p with
  | nil => exact h
  | cons ev evs ih => exact ih (h.applyEvent ev)

theorem Selects.applyEvent {d : Display} (h : d.Selects) (ev : Event) :
    (d.applyEvent ev).Selects := by
  cases ev with
  | line speaker text => exact h
  | choices items =>
    -- a new choice list selects its first choice
    intro hne
    exact List.length_pos_of_ne_nil hne
  | choicesCleared => exact fun hne => absurd rfl hne
  | hidden => exact fun hne => absurd rfl hne

theorem Selects.applyEvents {d : Display} (h : d.Selects) (evs : List Event) :
    (d.applyEvents evs).Selects := by
  induction evs generalizing d with
  | nil => exact h
  | cons ev evs ih => exact ih (h.applyEvent ev)

/-- Selecting the next choice stops at the last, so it selects one whatever was selected. -/
theorem selects_selectNext (d : Display) : d.selectNext.Selects := by
  intro hne
  have hpos : 0 < d.choices.length := List.length_pos_of_ne_nil hne
  simp only [Display.selectNext]
  omega

theorem Selects.selectPrevious {d : Display} (h : d.Selects) : d.selectPrevious.Selects := by
  intro hne
  have hsel := h hne
  simp only [Display.selectPrevious]
  omega

/-- The selected choice of the items of `cs` is the position selected, while it is one of
theirs. -/
theorem selectedChoice?_itemsOf {d : Display} {cs : List Choice} (h : d.choices = Engine.itemsOf cs) :
    d.selectedChoice? = if d.selected < cs.length then some d.selected else none := by
  simp only [selectedChoice?, h, Engine.itemsOf, List.getElem?_map, List.getElem?_zipIdx]
  split <;> simp_all

end Display

/-! ### Taking in what the session gathered -/

@[simp] theorem sync_engine (s : Session) (d : Display) :
    (sync s d).1.engine =
      { s.engine with presentation := { s.engine.presentation with events := #[] },
                      diagnostics := s.engine.diagnostics.take.2 } := rfl

@[simp] theorem sync_dialogue (s : Session) (d : Display) :
    (sync s d).1.dialogue = s.dialogue := rfl

@[simp] theorem sync_entry (s : Session) (d : Display) : (sync s d).1.entry = s.entry := rfl

@[simp] theorem sync_display (s : Session) (d : Display) :
    (sync s d).2 = (d.applyEvents s.engine.presentation.events.toList).applyDiagnostics
      s.engine.diagnostics.take.1 := rfl

@[simp] theorem Display.applyDiagnostics_choices (d : Display) (ds : List Diagnostic) :
    (d.applyDiagnostics ds).choices = d.choices := by
  unfold Display.applyDiagnostics
  split <;> rfl

@[simp] theorem Display.applyDiagnostics_ended (d : Display) (ds : List Diagnostic) :
    (d.applyDiagnostics ds).ended = d.ended := by
  unfold Display.applyDiagnostics
  split <;> rfl

@[simp] theorem Display.applyDiagnostics_selected (d : Display) (ds : List Diagnostic) :
    (d.applyDiagnostics ds).selected = d.selected := by
  unfold Display.applyDiagnostics
  split <;> rfl

/-- **The screen is in step with the session** opened as `s₀`: the session is one of the same
dialogue and entry, its engine is well formed and records events, every event recorded has been
taken in, the display agrees with the engine's account, and a choice is selected while choices
are shown. -/
structure InStep (s₀ s : Session) (d : Display) : Prop where
  dialogue : s.dialogue = s₀.dialogue
  entry : s.entry = s₀.entry
  wellFormed : s.engine.WellFormed
  attached : s.engine.presentation.attached = true
  drained : s.engine.presentation.events = #[]
  agrees : d.Agrees s.engine.presented
  selects : d.Selects

/-- Taking in events that carry the account `p` of the display to the engine's own brings the
screen in step. -/
theorem inStep_sync {s₀ s : Session} {d : Display} {p : Presented}
    (hdialogue : s.dialogue = s₀.dialogue) (hentry : s.entry = s₀.entry)
    (hwf : s.engine.WellFormed) (hatt : s.engine.presentation.attached = true)
    (hagrees : d.Agrees p) (hsel : d.Selects)
    (hscreen : s.engine.presentation.events.toList.foldl Presented.present p =
      s.engine.presented) :
    InStep s₀ (sync s d).1 (sync s d).2 := by
  -- taking in changes neither the run nor the registry
  have hsame : (sync s d).1.engine.presented = s.engine.presented := Engine.presented_of_run rfl
  obtain ⟨hc, he⟩ := hagrees.applyEvents s.engine.presentation.events.toList
  refine ⟨hdialogue, hentry, hwf.of_frame rfl rfl, hatt, rfl, ⟨?_, ?_⟩, ?_⟩
  · rw [sync_display, Display.applyDiagnostics_choices, hc, hscreen, hsame]
  · rw [sync_display, Display.applyDiagnostics_ended, he, hscreen, hsame]
  · rw [sync_display]
    intro hne
    rw [Display.applyDiagnostics_selected]
    rw [Display.applyDiagnostics_choices] at hne ⊢
    exact hsel.applyEvents _ hne

/-! ### Opening a session -/

/-- **Opening a session and taking in what it emitted** brings a display that shows no choices
in step with it. -/
theorem inStep_open {dialogue : Loaded} {entry : Option String} {s₀ : Session}
    (hopen : Session.create dialogue entry = .ok s₀) (d : Display) (hnone : d.choices = []) :
    InStep s₀ (sync s₀ d).1 (sync s₀ d).2 := by
  obtain ⟨e, hc, rfl⟩ := Console.Session.create_eq_ok hopen
  obtain ⟨hwf, hatt, hscreen⟩ := Engine.create_settles hc
  have hagrees : d.Agrees ⟨none, [], d.ended⟩ := ⟨hnone, rfl⟩
  exact inStep_sync rfl rfl hwf hatt hagrees (fun hne => absurd hnone hne) (hscreen _)

/-! ### Each key keeps the screen in step -/

/-- A change of the display that keeps its choices, selection and end keeps it in step. -/
theorem InStep.display {s₀ s : Session} {d d' : Display} (h : InStep s₀ s d)
    (hc : d'.choices = d.choices) (hsel : d'.selected = d.selected) (he : d'.ended = d.ended) :
    InStep s₀ s d' :=
  { h with
    agrees := ⟨hc.trans h.agrees.1, he.trans h.agrees.2⟩
    selects := fun hne => hsel ▸ hc ▸ h.selects (hc ▸ hne) }

/-- **Sending a command** and taking in what the engine emitted keeps the screen in step, on a
display changed in nothing but its status. -/
theorem InStep.dispatch_sync {s₀ s : Session} {d : Display} (h : InStep s₀ s d) (c : Command)
    {d' : Display} (hc : d'.choices = d.choices) (hsel : d'.selected = d.selected)
    (he : d'.ended = d.ended) :
    InStep s₀ (sync (s.dispatch c).2 d').1 (sync (s.dispatch c).2 d').2 := by
  have h' := h.display hc hsel he
  obtain ⟨u, ns, hshows⟩ := Engine.shows_apply h.wellFormed (.dispatch c) rfl
  have hevents : ((Engine.Op.dispatch c).apply s.engine).presentation.events.toList = u := by
    rw [hshows.presentation, Presentation.events_emitAll h.attached, h.drained]
    rfl
  have hatt : ((Engine.Op.dispatch c).apply s.engine).presentation.attached = true := by
    rw [hshows.presentation, Presentation.attached_emitAll, h.attached]
  refine inStep_sync h.dialogue h.entry (h.wellFormed.apply (.dispatch c)) hatt h'.agrees
    h'.selects ?_
  show ((Engine.Op.dispatch c).apply s.engine).presentation.events.toList.foldl
    Presented.present s.engine.presented = ((Engine.Op.dispatch c).apply s.engine).presented
  rw [hevents]
  exact hshows.screen

theorem InStep.move_step {s₀ s : Session} {d : Display} (h : InStep s₀ s d) (up : Bool) :
    InStep s₀ s (move up d) := by
  unfold move
  split
  · exact h.display rfl rfl rfl
  · split
    · exact h.display rfl rfl rfl
    · split
      · exact { h.display rfl rfl rfl with selects := h.selects.selectPrevious }
      · exact { h.display rfl rfl rfl with selects := d.selects_selectNext }

theorem InStep.confirm_step {s₀ s : Session} {d : Display} (h : InStep s₀ s d) :
    InStep s₀ (confirm s d).1 (confirm s d).2 := by
  unfold confirm
  split
  · exact h.display rfl rfl rfl
  · split
    · exact h.display rfl rfl rfl
    · split
      · exact h.dispatch_sync (.choose _) rfl rfl rfl
      · exact h.dispatch_sync .advance rfl rfl rfl

/-- Restarting opens the session again, which succeeds as it did the first time. -/
theorem InStep.restart_ok {dialogue : Loaded} {entry : Option String} {s₀ s : Session} {d : Display}
    (hopen : Session.create dialogue entry = .ok s₀) (h : InStep s₀ s d) : s.restart = .ok s₀ := by
  obtain ⟨e, -, rfl⟩ := Console.Session.create_eq_ok hopen
  rw [Session.restart, h.dialogue, h.entry]
  exact hopen

/-- **Every key press answers, and keeps the screen in step.** -/
theorem InStep.press_step {dialogue : Loaded} {entry : Option String} {s₀ s : Session} {d : Display}
    (hopen : Session.create dialogue entry = .ok s₀) (h : InStep s₀ s d) (k : KeyPress) :
    ∃ r, handleKey k s d = .ok r ∧ InStep s₀ r.2.1 r.2.2 := by
  unfold handleKey
  split
  · exact ⟨_, rfl, h⟩
  · exact ⟨_, rfl, h⟩
  · exact ⟨_, rfl, h⟩
  · -- `h` toggles the help line
    exact ⟨_, rfl, h.display rfl rfl rfl⟩
  · -- `r` opens the session again on a fresh display
    rw [h.restart_ok hopen]
    refine ⟨_, rfl, ?_⟩
    exact (inStep_open hopen d.reset rfl).display rfl rfl rfl
  · -- `e` ends the run
    refine ⟨_, rfl, ?_⟩
    exact h.dispatch_sync .stop (by split <;> rfl) (by split <;> rfl) (by split <;> rfl)
  · exact ⟨_, rfl, h.move_step true⟩
  · exact ⟨_, rfl, h.move_step false⟩
  · exact ⟨_, rfl, h.confirm_step⟩
  · exact ⟨_, rfl, h.confirm_step⟩
  · exact ⟨_, rfl, h⟩

/-! ### What a screen in step promises -/

/-- **What the screen promises**: it shows the engine's pending choices, it has ended exactly
when no run is active, no key press fails, a choice is selected exactly while choices are shown,
and a confirmation while nothing is typed and the run goes on sends a command the engine acts
on. -/
structure InSync (s : Session) (d : Display) : Prop where
  choices : d.choices = s.engine.pendingItems
  ended : d.ended = !s.engine.isActive
  keys : ∀ k, ∃ r, handleKey k s d = .ok r
  shown : d.choices ≠ [] ↔ d.selectedChoice?.isSome
  consumed : d.streaming = false → d.ended = false →
    (s.dispatch (match d.selectedChoice? with
      | some i => .choose i
      | none => .advance)).1 = true

/-- While choices are shown a choice is selected, and one of those pending; with none shown,
nothing is pending. -/
theorem InStep.selection {s₀ s : Session} {d : Display} (h : InStep s₀ s d) :
    (d.choices ≠ [] ↔ d.selectedChoice?.isSome) ∧
      (∀ i, d.selectedChoice? = some i → i < s.engine.run.pending.length) ∧
      (d.selectedChoice? = none → s.engine.run.pending = []) := by
  have hitems : d.choices = Engine.itemsOf s.engine.run.pending := h.agrees.1
  have hlen : d.choices.length = s.engine.run.pending.length := by
    simp [hitems, Engine.itemsOf]
  rw [Display.selectedChoice?_itemsOf hitems]
  refine ⟨?_, fun i hi => ?_, fun hi => ?_⟩
  · constructor
    · intro hne
      simp [← hlen, h.selects hne]
    · intro hsome hnil
      simp [← hlen, hnil] at hsome
  · split at hi
    · cases hi
      assumption
    · cases hi
  · split at hi
    · cases hi
    · -- nothing is selected, so no choice is shown
      rename_i hout
      have hnil : d.choices = [] := by
        by_contra hne
        exact hout (hlen ▸ h.selects hne)
      simpa [hnil] using hlen.symm

theorem InStep.inSync {dialogue : Loaded} {entry : Option String} {s₀ s : Session} {d : Display}
    (hopen : Session.create dialogue entry = .ok s₀) (h : InStep s₀ s d) : InSync s d := by
  obtain ⟨hshown, hsome, hnone⟩ := h.selection
  refine ⟨h.agrees.1, h.agrees.2, fun k => ?_, hshown, fun _ hended => ?_⟩
  · obtain ⟨r, hr, -⟩ := h.press_step hopen k
    exact ⟨r, hr⟩
  · -- the display has not ended, so a run is active
    have hact : s.engine.run.active = true := by
      have := h.agrees.2
      simp [Engine.presented, Engine.isActive, hended] at this
      exact this
    cases hsel : d.selectedChoice? with
    | some i =>
      have hi := hsome i hsel
      simp [Session.dispatch, Engine.dispatch, Nat.not_le.mpr hi]
    | none =>
      have hp := hnone hsel
      simp [Session.dispatch, Engine.dispatch, Engine.phase, hact, hp]
      rfl

/-! ### Whole runs of the screen -/

/-- What the full screen takes between two frames: a key press, or a tick of the typewriter. -/
inductive Input where
  | press (k : KeyPress)
  | tick

/-- Takes one input; only a key press can fail. -/
def Input.apply : Input → Session × Display → Except Fault (Session × Display)
  | .press k, (s, d) => (handleKey k s d).map fun r => r.2
  | .tick, (s, d) => .ok (s, d.tick.2)

/-- Takes inputs in order, up to the first that fails. -/
def takeInputs (inputs : List Input) (sd : Session × Display) : Except Fault (Session × Display) :=
  inputs.foldlM (fun sd i => i.apply sd) sd

theorem Display.tick_frame (d : Display) :
    d.tick.2.choices = d.choices ∧ d.tick.2.selected = d.selected ∧ d.tick.2.ended = d.ended := by
  unfold Display.tick
  split
  · split
    · exact ⟨rfl, rfl, rfl⟩
    · split <;> exact ⟨rfl, rfl, rfl⟩
  · split <;> exact ⟨rfl, rfl, rfl⟩

theorem InStep.input_step {dialogue : Loaded} {entry : Option String} {s₀ s : Session} {d : Display}
    (hopen : Session.create dialogue entry = .ok s₀) (h : InStep s₀ s d) :
    ∀ i : Input, ∃ s' d', i.apply (s, d) = .ok (s', d') ∧ InStep s₀ s' d'
  | .press k => by
    obtain ⟨r, hr, hstep⟩ := h.press_step hopen k
    exact ⟨r.2.1, r.2.2, by simp [Input.apply, hr, Except.map], hstep⟩
  | .tick => by
    obtain ⟨hc, hsel, he⟩ := d.tick_frame
    exact ⟨s, d.tick.2, rfl, h.display hc hsel he⟩

theorem InStep.inputs_step {dialogue : Loaded} {entry : Option String} {s₀ s : Session}
    {d : Display} (hopen : Session.create dialogue entry = .ok s₀) (h : InStep s₀ s d)
    (inputs : List Input) :
    ∃ s' d', takeInputs inputs (s, d) = .ok (s', d') ∧ InStep s₀ s' d' := by
  induction inputs generalizing s d with
  | nil => exact ⟨s, d, rfl, h⟩
  | cons i inputs ih =>
    obtain ⟨s₁, d₁, h₁, hstep⟩ := h.input_step hopen i
    obtain ⟨s', d', h', hend⟩ := ih hstep
    refine ⟨s', d', ?_, hend⟩
    simp only [takeInputs, List.foldlM_cons, h₁]
    exact h'

/-- **The full screen stays in step with the engine.** For every dialogue and entry that open a
session, after the session's first events are taken in on a fresh display, and after every run
of key presses and typewriter ticks: the displayed choices are the engine's pending choices, the
display has ended exactly when no run is active, no key press fails, a choice is selected
exactly while choices are shown, and confirming while nothing is typed and the run goes on
sends a command the engine acts on (the selected choice while choices are shown, an advance
otherwise). -/
theorem screen_stays_in_sync {dialogue : Loaded} {entry : Option String} {s₀ : Session}
    (hopen : Session.create dialogue entry = .ok s₀) (inputs : List Input) :
    ∃ s d, takeInputs inputs (sync s₀ {}) = .ok (s, d) ∧ InSync s d := by
  obtain ⟨s, d, hrun, hstep⟩ := (inStep_open hopen {} rfl).inputs_step hopen inputs
  exact ⟨s, d, hrun, hstep.inSync hopen⟩

/-- A dialogue of one conversation, "main", of one line. -/
def hello : Loaded where
  path := "hello/dialogue.json"
  title := "hello"
  source := "\x7b\"conversations\":\x7b\"main\":[\x7b\"speaker\":\"Ann\",\"text\":\"Hi.\"\x7d]\x7d\x7d"

/-- The session that opening "hello" gives: its line is being shown. -/
def helloSession : Session :=
  ⟨hello, none, (((Engine.new {} { attached := true }).loadParsed
    { conversations := [⟨"main", [.line "Ann" "Hi."]⟩] }).start "main").2⟩

set_option maxRecDepth 20000 in
/-- Opening "hello" and then confirming, letting the typewriter tick, restarting and moving
down. -/
theorem hello_screen_stays_in_sync :
    Session.create hello none = .ok helloSession ∧
      ∃ s d, takeInputs [.press ⟨.enter, false, false, false⟩, .tick,
          .press ⟨.char 'r', false, false, false⟩, .press ⟨.down, false, false, false⟩]
          (sync helloSession {}) = .ok (s, d) ∧ InSync s d :=
  have hopen : Session.create hello none = .ok helloSession := by cbv
  ⟨hopen, screen_stays_in_sync hopen _⟩

end Colloquy.Screen
