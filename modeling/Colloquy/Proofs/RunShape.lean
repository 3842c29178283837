import Colloquy.Proofs.Operations
/-!
# Where a run can stand

In every engine a host can hold, the run is in one of two shapes (`RunShape`):

* *idle*: exactly the default run, with no conversation, no cursor and nothing pending;
* *shown*: active, in a conversation that the registry finds again by its own id, with the
  cursor on a node that does not jump, and with that node's choices pending, or none.

The pending choices are empty on a node with choices only after a choice that led nowhere
(`Run.Dropped`, `Op.run_cases`).

The invariant `Engine.WellFormed` is that shape. Each operation keeps it
(`WellFormed.apply`), so every reachable engine has it (`Reachable.wellFormed`). The transient
states inside `start` and `choose`, with no cursor and nothing pending, never escape: both
hand them to `advance`, which enters a node at once. Since every active run has a conversation,
the loop of `advance` always starts in one.

From the shape follow the answers of the queries: the phase is idle exactly when no run is
active, there is a current line and a view exactly when a run is active, and a run awaiting a
choice stands on a decision point.
-/

namespace Colloquy

/-- **Where a run can stand**: idle, or active on a node of a registered conversation that does
not jump, with that node's choices pending or none. -/
inductive RunShape (r : Registry) : Run → Prop
  | idle : RunShape r {}
  | shown {c : Conversation} {i : Nat} {node : Node} (pending : List Choice) :
      c.nodes[i]? = some node → node.jumpTarget? = none → r.lookup? c.id = some c →
      pending = node.choices ∨ pending = [] → RunShape r ⟨true, some c, some i, pending⟩

/-- The run stands on a node with choices, but none are pending. -/
def Run.Dropped (run : Run) : Prop :=
  ∃ c i node, run.conversation = some c ∧ run.cursor = some i ∧ c.nodes[i]? = some node ∧
    node.choices ≠ [] ∧ run.pending = []

namespace RunShape

variable {r : Registry} {run : Run}

theorem eq_idle_of_inactive (h : RunShape r run) (hact : run.active = false) : run = {} := by
  cases h with
  | idle => rfl
  | shown => cases hact

theorem conversation_of_active (h : RunShape r run) (hact : run.active = true) :
    ∃ c, run.conversation = some c ∧ r.lookup? c.id = some c := by
  cases h with
  | idle => cases hact
  | shown _ _ _ hreg _ => exact ⟨_, rfl, hreg⟩

/-- **A run with choices pending** stands on a node of a registered conversation, and the
choices pending are that node's. -/
theorem shown_of_pending (h : RunShape r run) (hne : run.pending ≠ []) :
    ∃ c i node, run.active = true ∧ run.conversation = some c ∧ run.cursor = some i ∧
      c.nodes[i]? = some node ∧ r.lookup? c.id = some c ∧ run.pending = node.choices := by
  cases h with
  | idle => exact absurd rfl hne
  | shown pending hn _ hreg hp => exact ⟨_, _, _, rfl, rfl, rfl, hn, hreg, hp.resolve_right hne⟩

end RunShape

namespace Engine

/-- **The engine invariant**: a run in one of its shapes. -/
structure WellFormed (e : Engine) : Prop where
  run : RunShape e.registry e.run

theorem wellFormed_new (o : EngineOptions) (p : Presentation) : (Engine.new o p).WellFormed :=
  ⟨.idle⟩

/-- The invariant reads only the registry and the run. -/
theorem WellFormed.of_frame {e e' : Engine} (h : e.WellFormed) (hreg : e'.registry = e.registry)
    (hrun : e'.run = e.run) : e'.WellFormed :=
  ⟨hreg ▸ hrun ▸ h.run⟩

/-! ### Entering keeps the shape -/

theorem advance_eq_enter {e : Engine} (hact : e.run.active = true) (hp : e.run.pending = []) :
    e.advance = enter e.options.maxHops e := by
  simp [Engine.advance, hact, hp]

/-- A run that is active, in no conversation or a registered one, enters into a shape. -/
theorem enter_wellFormed {n : Nat} {e : Engine} (hact : e.run.active = true)
    (hconv : ∀ c, e.run.conversation = some c → e.registry.lookup? c.id = some c) :
    (enter n e).WellFormed := by
  rcases enter_cases n e with ⟨s, hs⟩ | ⟨s, d, hs⟩ | ⟨s, c, i, node, hn, hj, hc, hs⟩
  · rw [hs]
    exact ⟨.idle⟩
  · rw [hs]
    exact ⟨.idle⟩
  · rw [hs]
    -- the shown conversation is the run's own, or one found after a jump
    have hreg : e.registry.lookup? c.id = some c := by
      rcases hc with hc | ⟨t, ht⟩
      · exact hconv c hc
      · exact Registry.lookup?_self ht
    constructor
    simp only [render_run, render_registry]
    rw [hact]
    exact .shown _ hn hj hreg (.inl rfl)

theorem WellFormed.advance {e : Engine} (h : e.WellFormed) : e.advance.WellFormed := by
  unfold Engine.advance
  split
  · exact h
  · rename_i hgo
    have hact : e.run.active = true := by
      simp only [Bool.or_eq_true, Bool.not_eq_eq_eq_not, Bool.not_true, not_or] at hgo
      simpa using hgo.1
    obtain ⟨c, hc, hreg⟩ := h.run.conversation_of_active hact
    refine enter_wellFormed hact fun c' hc' => ?_
    rw [hc, Option.some.injEq] at hc'
    exact hc' ▸ hreg

/-! ### Each operation keeps the shape -/

theorem WellFormed.stop (e : Engine) : e.stop.WellFormed :=
  ⟨.idle⟩

theorem WellFormed.report {e : Engine} (h : e.WellFormed) (d : Diagnostic) :
    (e.report d).WellFormed :=
  h.of_frame rfl rfl

theorem WellFormed.choose {e : Engine} (h : e.WellFormed) (i : Nat) :
    (e.choose i).WellFormed := by
  obtain ⟨reg, store, pres, ls, diags, opts, run⟩ := e
  obtain ⟨hshape⟩ := h
  unfold Engine.choose
  split
  · exact ⟨hshape⟩
  · rename_i choice hch
    -- a pending choice means the run stands on a shown node
    cases hshape with
    | idle => simp at hch
    | @shown c j node pending hn hj hreg hp =>
      simp only
      split
      · -- the target is unknown: the line stays and the choices go
        constructor
        simp only [notifyUpdated_run, emit_run, report_run, notifyUpdated_registry,
          emit_registry, report_registry]
        exact .shown [] hn hj hreg (.inr rfl)
      · rename_i next hnext
        rw [advance_eq_enter]
        · refine enter_wellFormed rfl fun c' hc' => ?_
          rw [emit_run, Option.some.injEq] at hc'
          exact hc' ▸ (by simpa using Registry.lookup?_self hnext)
        · rfl
        · rfl

theorem WellFormed.start {e : Engine} (h : e.WellFormed) (id : String) :
    (e.start id).2.WellFormed := by
  unfold Engine.start
  split
  · exact h.report _
  · rename_i conv hconv
    split
    · exact h.report _
    · rw [advance_eq_enter]
      · refine enter_wellFormed rfl fun c hc => ?_
        rw [Option.some.injEq] at hc
        exact hc ▸ Registry.lookup?_self hconv
      · rfl
      · rfl

theorem WellFormed.stopIfActive_run {e : Engine} (h : e.WellFormed) : e.stopIfActive.run = {} := by
  unfold stopIfActive
  split
  · rfl
  · rename_i hact
    exact h.run.eq_idle_of_inactive (by simpa using hact)

theorem WellFormed.loadParsed {e : Engine} (h : e.WellFormed) (d : Document) :
    (e.loadParsed d).WellFormed := by
  constructor
  have hrun : (e.loadParsed d).run = {} := h.stopIfActive_run
  rw [hrun]
  exact .idle

theorem WellFormed.load {e : Engine} (h : e.WellFormed) (source : String) :
    (e.load source).2.WellFormed := by
  have hrun := h.stopIfActive_run
  unfold Engine.load
  simp only
  split
  · exact ⟨by simp only [install, hrun]; exact .idle⟩
  · -- a text that does not read ends the run, whatever the reload policy
    split <;> exact ⟨by simp only [report_run, hrun]; exact .idle⟩

/-- **Every operation keeps the invariant.** -/
theorem WellFormed.apply {e : Engine} (h : e.WellFormed) : ∀ op : Op, (op.apply e).WellFormed
  | .load s => h.load s
  | .loadParsed d => h.loadParsed d
  | .start id => h.start id
  | .advance => h.advance
  | .choose i => h.choose i
  | .stop => WellFormed.stop e
  | .dispatch c => by
    rcases dispatch_cases e c with hc | hc <;> rw [Op.apply, hc]
    · exact h
    · cases c with
      | advance => exact h.advance
      | choose i => exact h.choose i
      | start id => exact h.start id
      | stop => exact WellFormed.stop e
  | .takeDiagnostics => h.of_frame rfl rfl
  | .subscribe _ => h.of_frame rfl rfl

theorem Reachable.wellFormed {e : Engine} (h : Reachable e) : e.WellFormed := by
  induction h with
  | new o p => exact wellFormed_new o p
  | step op _ ih => exact ih.apply op

/-! ### What the queries answer -/

theorem phase_eq_idle_iff (e : Engine) : e.phase = .idle ↔ e.run.active = false := by
  unfold phase
  by_cases ha : e.run.active
  · simp only [ha, Bool.not_true, Bool.false_eq_true, if_false]
    split <;> simp
  · simp [ha]

theorem WellFormed.currentLine?_isSome {e : Engine} (h : e.WellFormed) :
    e.currentLine?.isSome = e.run.active := by
  obtain ⟨reg, store, pres, ls, diags, opts, run⟩ := e
  obtain ⟨hshape⟩ := h
  cases hshape with
  | idle => simp [currentLine?]
  | shown pending hn hj hreg hp => simp [currentLine?, Conversation.node?, hn]

theorem WellFormed.view?_isSome {e : Engine} (h : e.WellFormed) :
    e.view?.isSome = e.run.active := by
  obtain ⟨reg, store, pres, ls, diags, opts, run⟩ := e
  obtain ⟨hshape⟩ := h
  cases hshape with
  | idle => simp [view?, currentLine?]
  | shown pending hn hj hreg hp =>
    simp [view?, currentLine?, conversationId?, Conversation.node?, hn]

/-- A run awaiting a choice stands on a decision point. -/
theorem WellFormed.decision_of_awaiting {e : Engine} (h : e.WellFormed)
    (hphase : e.phase = .awaitingChoice) :
    ∃ c i node, e.run.conversation = some c ∧ e.run.cursor = some i ∧
      c.nodes[i]? = some node ∧ node.isDecision = true := by
  have hne : e.run.pending ≠ [] := by
    intro hnil
    simp [phase, hnil] at hphase
    split at hphase <;> cases hphase
  obtain ⟨c, i, node, -, hc, hi, hn, -, hpend⟩ := h.run.shown_of_pending hne
  refine ⟨c, i, node, hc, hi, hn, ?_⟩
  simp [Node.isDecision, ← hpend, hne]

/-! ### Choices are dropped only by a choice that led nowhere -/

theorem not_dropped_of_cursor {run : Run} (h : run.cursor = none) : ¬ run.Dropped := by
  rintro ⟨c, i, node, -, hi, -⟩
  rw [h] at hi
  cases hi

theorem not_dropped_idle : ¬ ({} : Run).Dropped :=
  not_dropped_of_cursor rfl

/-- Entering never leaves dropped choices: it ends the run, or shows a node's own choices. -/
theorem enter_not_dropped (n : Nat) (e : Engine) : ¬ (enter n e).run.Dropped := by
  rintro ⟨c, i, node, hc, hi, hn, hne, hp⟩
  rcases enter_cases n e with ⟨s, hs⟩ | ⟨s, d, hs⟩ | ⟨s, c', i', node', hn', -, -, hs⟩
  · rw [hs] at hi
    cases hi
  · rw [hs] at hi
    cases hi
  · rw [hs] at hc hi hp
    simp only [render_run, Option.some.injEq] at hc hi hp
    subst hc hi
    rw [hn, Option.some.injEq] at hn'
    exact hne (hn' ▸ hp)

theorem advance_run_cases (e : Engine) : e.advance.run = e.run ∨ ¬ e.advance.run.Dropped := by
  unfold Engine.advance
  split
  · exact .inl rfl
  · exact .inr (enter_not_dropped _ _)

/-- Advancing from a run with no cursor yet never leaves dropped choices. -/
theorem advance_not_dropped {e : Engine} (h : e.run.cursor = none) : ¬ e.advance.run.Dropped := by
  rcases advance_run_cases e with hr | hr
  · rw [hr]
    exact not_dropped_of_cursor h
  · exact hr

theorem start_run_cases (e : Engine) (id : String) :
    (e.start id).2.run = e.run ∨ ¬ (e.start id).2.run.Dropped := by
  unfold Engine.start
  split
  · exact .inl rfl
  · split
    · exact .inl rfl
    · -- a fresh run has no cursor yet
      exact .inr (advance_not_dropped rfl)

theorem choose_run_cases (e : Engine) (i : Nat) :
    (e.choose i).run = e.run ∨ ¬ (e.choose i).run.Dropped ∨
      ∃ ch, e.run.pending[i]? = some ch ∧ e.registry.lookup? ch.target = none := by
  unfold Engine.choose
  split
  · exact .inl rfl
  · rename_i ch hch
    simp only
    split
    · rename_i hmiss
      exact .inr (.inr ⟨ch, hch, hmiss⟩)
    · -- a followed choice leaves no cursor before the next node is entered
      exact .inr (.inl (advance_not_dropped rfl))

theorem stopIfActive_run_cases (e : Engine) :
    e.stopIfActive.run = e.run ∨ e.stopIfActive.run = {} := by
  unfold stopIfActive
  split
  · exact .inr rfl
  · exact .inl rfl

theorem load_run_cases (e : Engine) (source : String) :
    (e.load source).2.run = e.run ∨ (e.load source).2.run = {} := by
  have hstop := stopIfActive_run_cases e
  unfold Engine.load
  simp only
  split
  · exact hstop
  · split
    · exact hstop
    · exact hstop

/-- **Choices are dropped only by a choice that led nowhere**: an operation that leaves the run
with dropped choices left the run as it was, or chose a pending choice whose target the
registry does not find. -/
theorem Op.run_cases (op : Op) (e : Engine) (h : (op.apply e).run.Dropped) :
    (op.apply e).run = e.run ∨
      ∃ i ch, op.chosen? = some i ∧ e.run.pending[i]? = some ch ∧
        e.registry.lookup? ch.target = none := by
  cases op with
  | load s =>
    rw [Op.apply] at h ⊢
    rcases load_run_cases e s with hr | hr
    · exact .inl hr
    · exact absurd (hr ▸ h) not_dropped_idle
  | loadParsed d =>
    rw [Op.apply] at h ⊢
    -- installing leaves the run as the end of any active run left it
    rcases stopIfActive_run_cases e with hr | hr
    · exact .inl hr
    · exact absurd (hr ▸ h) not_dropped_idle
  | start id =>
    rw [Op.apply] at h ⊢
    exact .inl ((start_run_cases e id).resolve_right (not_not.mpr h))
  | advance =>
    rw [Op.apply] at h ⊢
    exact .inl ((advance_run_cases e).resolve_right (not_not.mpr h))
  | choose i =>
    rw [Op.apply] at h ⊢
    rcases choose_run_cases e i with hr | hr | ⟨ch, hch, hmiss⟩
    · exact .inl hr
    · exact absurd h hr
    · exact .inr ⟨i, ch, rfl, hch, hmiss⟩
  | stop =>
    rw [Op.apply] at h
    exact absurd h not_dropped_idle
  | dispatch c =>
    rcases dispatch_cases e c with hc | hc
    · exact .inl (by rw [Op.apply, hc])
    · rw [Op.apply, hc] at h ⊢
      cases c with
      | advance =>
        rw [Op.ofCommand, Op.apply] at h ⊢
        exact .inl ((advance_run_cases e).resolve_right (not_not.mpr h))
      | choose i =>
        rw [Op.ofCommand, Op.apply] at h ⊢
        rcases choose_run_cases e i with hr | hr | ⟨ch, hch, hmiss⟩
        · exact .inl hr
        · exact absurd h hr
        · exact .inr ⟨i, ch, rfl, hch, hmiss⟩
      | start id =>
        rw [Op.ofCommand, Op.apply] at h ⊢
        exact .inl ((start_run_cases e id).resolve_right (not_not.mpr h))
      | stop =>
        rw [Op.ofCommand, Op.apply] at h
        exact absurd h not_dropped_idle
  | takeDiagnostics => exact .inl rfl
  | subscribe l => exact .inl rfl

/-! ### The run-state invariant -/

/-- What the run-state invariant promises of an engine: the run stands where runs can, choices
are dropped only by a choice that led nowhere, and the queries answer accordingly. -/
structure RunPromises (e : Engine) : Prop where
  shape : RunShape e.registry e.run
  dropped : ∀ op : Op, (op.apply e).run.Dropped → (op.apply e).run = e.run ∨
    ∃ i ch, op.chosen? = some i ∧ e.run.pending[i]? = some ch ∧
      e.registry.lookup? ch.target = none
  idle_iff : e.phase = .idle ↔ e.run.active = false
  line : e.currentLine?.isSome = e.run.active
  view : e.view?.isSome = e.run.active
  decision : e.phase = .awaitingChoice → ∃ c i node, e.run.conversation = some c ∧
    e.run.cursor = some i ∧ c.nodes[i]? = some node ∧ node.isDecision = true
  loop : e.run.active = true → e.run.conversation.isSome

/-- **The run-state invariant.** In every engine a host can hold, the run is idle or stands on
a shown node of a registered conversation that does not jump, with that node's choices pending
or none, and choices are dropped only by a choice that led nowhere. So the phase is idle
exactly when no run is active, there is a current line and a view exactly when a run is active,
a run awaiting a choice stands on a decision point, and the loop of `advance` never starts
outside a conversation. -/
theorem reachable_run_promises {e : Engine} (h : Reachable e) : e.RunPromises := by
  have hwf := h.wellFormed
  refine ⟨hwf.run, fun op hop => Op.run_cases op e hop, phase_eq_idle_iff e,
    hwf.currentLine?_isSome, hwf.view?_isSome, hwf.decision_of_awaiting, fun hact => ?_⟩
  obtain ⟨c, hc, -⟩ := hwf.run.conversation_of_active hact
  simp [hc]

/-- A dialogue of two conversations: `main` asks where to go, and `shop` greets. -/
def twoRooms : Document where
  conversations :=
    [⟨"main", [{ speaker := "Ann", text := "Where to?", choices := [⟨"Shop", "shop"⟩] }]⟩,
     ⟨"shop", [.line "Ann" "Welcome."]⟩]

theorem twoRooms_started_run_promises :
    Reachable ((Op.start "main").apply ((Op.loadParsed twoRooms).apply (Engine.new {} {}))) ∧
      RunPromises ((Op.start "main").apply ((Op.loadParsed twoRooms).apply (Engine.new {} {}))) :=
  have h := Reachable.step _ (Reachable.step _ (Reachable.new {} {}))
  ⟨h, reachable_run_promises h⟩

end Engine

end Colloquy
