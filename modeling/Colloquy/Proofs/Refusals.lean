import Colloquy.Proofs.Transcript
import Colloquy.Proofs.Variables
/-!
# Refused operations leave the engine as it was

An operation that finds nothing to act on must stop before it writes anything. The guards sit in
four places: `dispatch` reads the phase and the number of pending choices, `advance` reads the
active flag and the pending choices, `choose` looks the index up among the pending choices, and
`start` looks the id up before it reads the start policy. This module proves that they agree,
in every engine a host can hold (`refused_operations_keep_state`):

* a choice past the pending ones, and an advance while no line is displayed, change nothing at
  all;
* a start of an id the registry does not find, whatever the policy and whether a run is active,
  and a start refused by `StartPolicy.reject` while a run is active, report one diagnostic of
  their kind and change nothing else (`Refused`);
* a pending choice whose target the registry does not find is reported once, its choices are
  dropped and cleared from the screen, and the line stays with the listeners told
  (`ChoiceMissed`): the run does not end;
* dispatching a command does what calling the operation does, and answers `false` exactly
  when the command finds nothing to act on (`Command.Refused`).

Only the missed choice needs the engine to be one a host can hold: a pending choice then stands
in an active run on a shown line (`WellFormed.choice_of_pending`), so there is a view to send.
-/

namespace Colloquy

namespace Engine

/-- From `e` to `e'` one diagnostic of kind `k` was reported, and nothing else changed: the run,
the conversations, the variables, the presentation and the listeners are as they were. -/
def Refused (k : DiagnosticKind) (e e' : Engine) : Prop :=
  ∃ d, d.kind = k ∧ e' = e.report d

/-! ### Operations with nothing to act on -/

theorem phase_bne_displaying_iff (p : Phase) : (p != .displaying) = true ↔ p ≠ .displaying := by
  cases p with
  | idle => exact ⟨fun _ h => Phase.noConfusion h, fun _ => rfl⟩
  | displaying => exact ⟨fun h => absurd h (by decide), fun h => absurd rfl h⟩
  | awaitingChoice => exact ⟨fun _ h => Phase.noConfusion h, fun _ => rfl⟩

@[simp] theorem replace_beq_reject : (StartPolicy.replace == .reject) = false := rfl

@[simp] theorem reject_beq_reject : (StartPolicy.reject == .reject) = true := rfl

/-- **A choice past the pending ones changes nothing.** -/
theorem choose_out_of_range {e : Engine} {i : Nat} (h : e.run.pending.length ≤ i) :
    e.choose i = e := by
  rw [Engine.choose, List.getElem?_eq_none h]

/-- **An advance while no line is displayed changes nothing.** -/
theorem advance_of_not_displaying {e : Engine} (h : e.phase ≠ .displaying) : e.advance = e := by
  have hgo : (!e.run.active || !e.run.pending.isEmpty) = true := by
    rw [← phase_ne_displaying]
    exact (phase_bne_displaying_iff _).mpr h
  rw [Engine.advance, if_pos hgo]

/-- **A start of an unknown id is refused**, whatever the policy and the run. -/
theorem start_unknown {e : Engine} {q : String} (h : e.registry.lookup? q = none) :
    (e.start q).1 = false ∧ Refused .conversationNotFound e (e.start q).2 := by
  refine ⟨by simp [Engine.start, h], e.notFound "ENGINE_CONVERSATION_NOT_FOUND" "Dialogue"
    (Text.trim q), rfl, ?_⟩
  simp [Engine.start, h]

/-- **A start while a run is active is refused** under `StartPolicy.reject`, once the id is
found. -/
theorem start_rejected {e : Engine} {q : String} {c : Conversation}
    (hq : e.registry.lookup? q = some c) (hact : e.run.active = true)
    (hpol : e.options.startPolicy = .reject) :
    (e.start q).1 = false ∧ Refused .alreadyActive e (e.start q).2 := by
  have hrej : (e.run.active && e.options.startPolicy == .reject) = true := by
    rw [hact, hpol]
    rfl
  refine ⟨by simp [Engine.start, hq, hrej],
    Diagnostic.alreadyActive ((e.conversationId?).getD "") c.id, rfl, ?_⟩
  simp [Engine.start, hq, hrej]

/-! ### A choice that leads nowhere -/

/-- From `e` to `e'` the pending choice `ch` was found to lead nowhere: that is reported once,
the pending choices are dropped and cleared from the screen, the run stays active on its line
with the variables and conversations as they were, and every listener hears the line again. -/
structure ChoiceMissed (e e' : Engine) (ch : Choice) : Prop where
  diagnostics : e'.diagnostics =
    e.diagnostics.report (e.notFound "ENGINE_CHOICE_TARGET_NOT_FOUND" "choice goto" ch.target)
  run : e'.run = { e.run with pending := [] }
  active : e'.run.active = true
  store : e'.store = e.store
  registry : e'.registry = e.registry
  presentation : e'.presentation = e.presentation.emitAll [.choicesCleared]
  listeners : ∃ v, e'.view? = some v ∧ e'.listeners = e.listeners.map (·.hearAll [.updated v])

/-- **A pending choice whose target is unknown** is reported and dropped, and the run goes on. -/
theorem WellFormed.choose_missed {e : Engine} (h : e.WellFormed) {i : Nat} {ch : Choice}
    (hch : e.run.pending[i]? = some ch) (hmiss : e.registry.lookup? ch.target = none) :
    ChoiceMissed e (e.choose i) ch := by
  obtain ⟨v, hs⟩ := shows_choose_unknown h hch hmiss
  -- a pending choice stands in an active run
  have hact : e.run.active = true := (h.choice_of_pending hch).1
  have hrun : (e.choose i).run = { e.run with pending := [] } := by
    simp [Engine.choose, hch, hmiss]
  have hview : ∃ v', (e.choose i).view? = some v' ∧ v' = v := by
    rcases hs.heard with ⟨hnil, -⟩ | ⟨-, hlast⟩
    · cases hnil
    · simpa [LastNotice, hrun, hact] using hlast
  obtain ⟨v', hv', rfl⟩ := hview
  refine ⟨by simp [Engine.choose, hch, hmiss], hrun, by rw [hrun]; exact hact,
    by simp [Engine.choose, hch, hmiss], by simp [Engine.choose, hch, hmiss], hs.presentation,
    ⟨v', hv', hs.listeners⟩⟩

/-! ### Dispatching -/

/-- **Dispatching does what the operation does**: the guards of `dispatch` refuse only what the
operation itself would leave alone. -/
theorem dispatch_apply (e : Engine) (c : Command) : (e.dispatch c).2 = (Op.ofCommand c).apply e := by
  cases c with
  | advance =>
    -- the phase `dispatch` reads is the guard of `advance`
    rw [dispatch, phase_ne_displaying, Op.ofCommand, Op.apply]
    by_cases hgo : (!e.run.active || !e.run.pending.isEmpty) = true
    · rw [if_pos hgo, Engine.advance, if_pos hgo]
    · rw [if_neg hgo]
  | choose i =>
    by_cases hi : i ≥ e.run.pending.length
    · rw [dispatch, if_pos hi, Op.ofCommand, Op.apply, choose_out_of_range hi]
    · rw [dispatch, if_neg hi]
      rfl
  | start q => rfl
  | stop => rfl

end Engine

/-- A command that finds nothing to act on: an advance while no line is displayed, a choice past
the pending ones, a start of an unknown id or one refused while a run is active, and an end
while no run is active. -/
def Command.Refused : Command → Engine → Prop
  | .advance, e => e.phase ≠ .displaying
  | .choose i, e => e.run.pending.length ≤ i
  | .start q, e =>
    e.registry.lookup? q = none ∨ (e.run.active = true ∧ e.options.startPolicy = .reject)
  | .stop, e => e.run.active = false

namespace Engine

/-- **Dispatching answers `false` exactly when the command finds nothing to act on.** -/
theorem dispatch_eq_false_iff (e : Engine) (c : Command) :
    (e.dispatch c).1 = false ↔ c.Refused e := by
  cases c with
  | advance =>
    rw [Command.Refused, ← phase_bne_displaying_iff]
    by_cases hd : (e.phase != .displaying) = true <;> simp [dispatch, hd]
  | choose i => by_cases hi : e.run.pending.length ≤ i <;> simp [dispatch, Command.Refused, hi]
  | start q =>
    cases hq : e.registry.lookup? q with
    | none => simp [dispatch, Engine.start, Command.Refused, hq]
    | some c =>
      -- a found id is refused only by a policy that rejects while a run is active
      cases hact : e.run.active <;> cases hpol : e.options.startPolicy <;>
        simp [dispatch, Engine.start, Command.Refused, hq, hact, hpol]
  | stop => simp [dispatch, Command.Refused]

/-! ### Refusals in every reachable engine -/

/-- What the engine promises of the operations that find nothing to act on. -/
structure RefusalLaws (e : Engine) : Prop where
  /-- A choice past the pending ones, none pending included, changes nothing. -/
  choose_out_of_range : ∀ i, e.run.pending.length ≤ i → e.choose i = e
  /-- An advance while idle or awaiting a choice changes nothing. -/
  advance_idle : e.phase ≠ .displaying → e.advance = e
  /-- A start of an unknown id reports that alone. -/
  start_unknown : ∀ q, e.registry.lookup? q = none →
    (e.start q).1 = false ∧ Refused .conversationNotFound e (e.start q).2
  /-- A start while a run is active under `StartPolicy.reject` reports that alone. -/
  start_rejected : ∀ q c, e.registry.lookup? q = some c → e.run.active = true →
    e.options.startPolicy = .reject →
    (e.start q).1 = false ∧ Refused .alreadyActive e (e.start q).2
  /-- A pending choice whose target is unknown is reported and dropped; the run goes on. -/
  choice_missed : ∀ i ch, e.run.pending[i]? = some ch → e.registry.lookup? ch.target = none →
    ChoiceMissed e (e.choose i) ch
  /-- Dispatching does what the operation does. -/
  dispatch_apply : ∀ c, (e.dispatch c).2 = (Op.ofCommand c).apply e
  /-- Dispatching answers `false` exactly when the command finds nothing to act on. -/
  dispatch_false : ∀ c, (e.dispatch c).1 = false ↔ c.Refused e

/-- **Refused operations leave the engine as it was.** In every engine a host can hold, a choice
past the pending ones and an advance while no line is displayed change nothing; a start of an
unknown id, and a start refused while a run is active, report one diagnostic of their kind and
change nothing else; a pending choice leading nowhere is reported once, drops the choices, clears
them from the screen and tells the listeners, without ending the run; and dispatching does what
the operation does, answering `false` exactly when the command finds nothing to act on. -/
theorem refused_operations_keep_state {e : Engine} (h : Reachable e) : RefusalLaws e :=
  ⟨fun _ hi => choose_out_of_range hi, advance_of_not_displaying, fun _ hq => start_unknown hq,
    fun _ _ hq hact hpol => start_rejected hq hact hpol,
    fun _ _ hch hmiss => h.wellFormed.choose_missed hch hmiss, dispatch_apply e,
    dispatch_eq_false_iff e⟩

theorem twoRooms_started_refusal_laws :
    Reachable ((Op.start "main").apply ((Op.loadParsed twoRooms).apply (Engine.new {} {}))) ∧
      RefusalLaws ((Op.start "main").apply ((Op.loadParsed twoRooms).apply (Engine.new {} {}))) :=
  have h := Reachable.step _ (Reachable.step _ (Reachable.new {} {}))
  ⟨h, refused_operations_keep_state h⟩

end Engine

end Colloquy
