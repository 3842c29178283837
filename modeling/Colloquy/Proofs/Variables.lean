import Colloquy.Proofs.CheckedPlay
/-!
# The variables change only by the assignments of the nodes entered

A node's assignments are applied when it is entered, and nothing else in play touches the
variables. Which nodes one advance enters is a walk in the registry (`Registry.jumpChain`): the
node after the cursor, then, for as long as the node entered jumps to a known conversation and a
hop is left, the first node of that conversation. The node that reaches the hop limit is
entered, and so is a node whose jump leads nowhere. `Command.entered` says which nodes each
command enters: an advance enters from the node after the cursor while a line is displayed, a
start that goes ahead and a choice that leads to a known conversation enter from the first node
of the conversation, and nothing else enters a node.

Loading is the one other thing that sets the variables: a document that loads puts its own in
place of all of them, and a document that fails to load leaves none under
`ReloadPolicy.clear`, and changes nothing under `ReloadPolicy.keep`.

So the variables of an engine are at all times the store of one list of bindings
(`variables_follow_entered_nodes`): those of the last document loaded, followed by the
assignments of every node entered since, in order (`Engine.bindingsAlong`). In particular
ending a run, starting another, a choice that leads nowhere and every refused operation leave
the variables as they are, and they outlast the runs.

The proof takes one pass of the loop of `advance` at a time (`enterNext_store`), then the whole
loop (`enter_store`), then each operation (`WellFormed.store_apply`).
-/

namespace Colloquy

@[simp] theorem Store.setAll_nil (s : Store) : s.setAll [] = s := rfl

theorem Store.setAll_append (s : Store) (xs ys : List (String × Scalar)) :
    s.setAll (xs ++ ys) = (s.setAll xs).setAll ys := by
  simp [Store.setAll, List.foldl_append]

theorem Store.ofBindings_append (xs ys : List (String × Scalar)) :
    Store.ofBindings (xs ++ ys) = (Store.ofBindings xs).setAll ys :=
  Store.setAll_append _ xs ys

/-! ### The nodes one advance enters -/

/-- **The nodes entered from `node`** with `hops` jumps still allowed: the node itself, then,
when it jumps to a conversation the registry finds and a hop is left, those entered from the
first node of that conversation. -/
def Registry.jumpChain (r : Registry) : Nat → Node → List Node
  | 0, node => [node]
  | hops + 1, node =>
    node :: match node.jumpTarget?.bind r.lookup? with
      | some next => (next.node? 0).elim [] (r.jumpChain hops)
      | none => []

/-- The nodes entered from the first node of a conversation. -/
def Registry.entryChain (r : Registry) (hops : Nat) (c : Conversation) : List Node :=
  (c.node? 0).elim [] (r.jumpChain hops)

/-- A node that does not jump to a known conversation is the only one entered from it. -/
theorem Registry.jumpChain_of_settled (r : Registry) (hops : Nat) {node : Node}
    (h : node.jumpTarget?.bind r.lookup? = none) : r.jumpChain hops node = [node] := by
  cases hops with
  | zero => rfl
  | succ hops => simp [jumpChain, h]

/-- The node after the cursor of a run. -/
def Run.next? (r : Run) : Option Node :=
  r.conversation.bind (·.node? r.nextCursor)

namespace Engine

/-- The nodes the loop `enter n e` enters: those entered from the node after the cursor. -/
def enteredBy (n : Nat) (e : Engine) : List Node :=
  e.run.next?.elim [] (e.registry.jumpChain n)

/-- From a node after the cursor that does not jump to a known conversation, that node is the
only one entered. -/
theorem enteredBy_of_settled {e : Engine} {node : Node} (hnext : e.run.next? = some node)
    (h : node.jumpTarget?.bind e.registry.lookup? = none) (n : Nat) : e.enteredBy n = [node] := by
  rw [enteredBy, hnext, Option.elim_some, Registry.jumpChain_of_settled _ n h]

/-! ### Frame lemmas -/

@[simp] theorem emit_store (e : Engine) (ev : Event) : (e.emit ev).store = e.store := rfl
@[simp] theorem notify_store (e : Engine) (n : Notice) : (e.notify n).store = e.store := rfl
@[simp] theorem report_store (e : Engine) (d : Diagnostic) : (e.report d).store = e.store := rfl
@[simp] theorem stop_store (e : Engine) : e.stop.store = e.store := rfl

@[simp] theorem notifyUpdated_store (e : Engine) : e.notifyUpdated.store = e.store := by
  unfold notifyUpdated
  split <;> rfl

@[simp] theorem render_store (e : Engine) (node : Node) : (e.render node).store = e.store := by
  unfold render
  split <;> simp

/-! ### Entering -/

/-- **One pass of the loop**: a pass that settles has entered every node the chain from the
node after the cursor holds, and a jump has entered the first of them, the rest being the
chain from the first node of the conversation jumped to. -/
theorem enterNext_store (e : Engine) :
    (∃ e', enterNext e = .settled e' ∧
      ∀ n, e'.store = e.store.setAll ((e.enteredBy n).flatMap (·.assignments))) ∨
    ∃ e' next node, enterNext e = .jump e' next ∧ e.run.next? = some node ∧
      node.jumpTarget?.bind e.registry.lookup? = some next ∧
      e'.store = e.store.setAll node.assignments ∧ e'.registry = e.registry ∧
      e'.options = e.options := by
  have hE := enters_enterNext e
  generalize hx : enterNext e = x at hE
  cases hE with
  | noConversation hc =>
    refine .inl ⟨_, rfl, fun n => ?_⟩
    simp [enteredBy, Run.next?, hc]
  | pastEnd hc hn =>
    refine .inl ⟨_, rfl, fun n => ?_⟩
    simp [enteredBy, Run.next?, hc, hn]
  | @shown c node hc hn hj =>
    have hnext : e.run.next? = some node := by simp [Run.next?, hc, hn]
    refine .inl ⟨_, rfl, fun n => ?_⟩
    rw [enteredBy_of_settled hnext (by simp [hj]) n]
    simp [entered]
  | @dangling c node t hc hn hj hl =>
    -- the jump leads nowhere, so the node is entered as if it did not jump
    have hnext : e.run.next? = some node := by simp [Run.next?, hc, hn]
    refine .inl ⟨_, rfl, fun n => ?_⟩
    rw [enteredBy_of_settled hnext (by simp [hj, hl]) n]
    simp [entered]
  | @jump c node t next hc hn hj hl =>
    exact .inr ⟨_, next, node, rfl, by simp [Run.next?, hc, hn], by simp [hj, hl], rfl, rfl, rfl⟩

/-- **The loop applies the assignments of the nodes it enters**, in order. -/
theorem enter_store (n : Nat) (e : Engine) :
    (enter n e).store = e.store.setAll ((e.enteredBy n).flatMap (·.assignments)) := by
  induction n generalizing e with
  | zero =>
    rcases enterNext_store e with ⟨e', hx, hs⟩ | ⟨e', next, node, hx, hnext, -, hs, -, -⟩
    · rw [enter_of_settled hx, hs 0]
    · -- no hop is left: the node that jumps is the last one entered
      rw [enter_zero_of_jump hx, stop_store, report_store, hs]
      simp [enteredBy, hnext, Registry.jumpChain]
  | succ h ih =>
    rcases enterNext_store e with ⟨e', hx, hs⟩ | ⟨e', next, node, hx, hnext, hjump, hs, hr, -⟩
    · rw [enter_of_settled hx, hs (h + 1)]
    · -- the hop is taken: the rest of the loop enters from the first node of `next`
      rw [enter_succ_of_jump hx, ih]
      have hrest : enteredBy h
          { e' with run := { e'.run with conversation := some next, cursor := none } } =
          e.registry.entryChain h next := by
        simp [enteredBy, Run.next?, Run.nextCursor, Registry.entryChain, hr]
      rw [hrest, hs, ← Store.setAll_append]
      simp [enteredBy, hnext, Registry.jumpChain, hjump, Registry.entryChain]

/-- Entering from the first node of a conversation applies the assignments of its chain. -/
theorem enter_fresh_store (n : Nat) {e : Engine} {c : Conversation}
    (hc : e.run.conversation = some c) (hcur : e.run.cursor = none) :
    (enter n e).store = e.store.setAll ((e.registry.entryChain n c).flatMap (·.assignments)) := by
  rw [enter_store]
  simp [enteredBy, Run.next?, Run.nextCursor, hc, hcur, Registry.entryChain]

/-- Advancing is refused exactly while no line is displayed. -/
theorem phase_ne_displaying (e : Engine) :
    (e.phase != .displaying) = (!e.run.active || !e.run.pending.isEmpty) := by
  unfold phase
  cases e.run.active <;> cases e.run.pending.isEmpty <;> rfl

end Engine

/-! ### The nodes each operation enters -/

/-- **The nodes a command enters**, in order: an advance enters from the node after the cursor
while a line is displayed; a start that goes ahead, and a choice that leads to a known
conversation, enter from the first node of that conversation; ending enters nothing. -/
def Command.entered : Command → Engine → List Node
  | .advance, e =>
    if !e.run.active || !e.run.pending.isEmpty then [] else e.enteredBy e.options.maxHops
  | .choose i, e =>
    match e.run.pending[i]? with
    | none => []
    | some ch =>
      match e.registry.lookup? ch.target with
      | none => []
      | some next => e.registry.entryChain e.options.maxHops next
  | .start id, e =>
    match e.registry.lookup? id with
    | none => []
    | some c =>
      if e.run.active && e.options.startPolicy == .reject then []
      else e.registry.entryChain e.options.maxHops c
  | .stop, _ => []

namespace Engine

/-- The nodes an operation enters: those of the command it is, or dispatches; loading, taking
the diagnostics and subscribing enter none. -/
def Op.entered : Op → Engine → List Node
  | .advance, e => Command.advance.entered e
  | .choose i, e => (Command.choose i).entered e
  | .start id, e => (Command.start id).entered e
  | .stop, e => Command.stop.entered e
  | .dispatch c, e => c.entered e
  | _, _ => []

theorem store_advance (e : Engine) :
    e.advance.store = e.store.setAll ((Command.advance.entered e).flatMap (·.assignments)) := by
  unfold Engine.advance
  rw [Command.entered]
  by_cases hg : (!e.run.active || !e.run.pending.isEmpty) = true
  · rw [if_pos hg, if_pos hg]
    rfl
  · rw [if_neg hg, if_neg hg]
    exact enter_store _ e

theorem store_start (e : Engine) (id : String) :
    (e.start id).2.store =
      e.store.setAll (((Command.start id).entered e).flatMap (·.assignments)) := by
  unfold Engine.start
  rw [Command.entered]
  cases hc : e.registry.lookup? id with
  | none => rfl
  | some c =>
    dsimp only
    by_cases hrej : (e.run.active && e.options.startPolicy == .reject) = true
    · rw [if_pos hrej, if_pos hrej]
      rfl
    · -- the new run stands before the first node of `c`
      rw [if_neg hrej, if_neg hrej, advance_eq_enter rfl rfl]
      exact enter_fresh_store _ rfl rfl

theorem WellFormed.store_choose {e : Engine} (h : e.WellFormed) (i : Nat) :
    (e.choose i).store =
      e.store.setAll (((Command.choose i).entered e).flatMap (·.assignments)) := by
  unfold Engine.choose
  rw [Command.entered]
  cases hch : e.run.pending[i]? with
  | none => rfl
  | some ch =>
    cases hnext : e.registry.lookup? ch.target with
    | none => simp [hnext]
    | some next =>
      simp only [hnext]
      -- a pending choice stands in an active run, so the advance goes ahead
      have hact := (h.choice_of_pending hch).1
      rw [advance_eq_enter (by simpa using hact) rfl]
      exact enter_fresh_store _ rfl rfl

theorem WellFormed.store_dispatch {e : Engine} (h : e.WellFormed) (c : Command) :
    (e.dispatch c).2.store = e.store.setAll ((c.entered e).flatMap (·.assignments)) := by
  cases c with
  | advance =>
    simp only [dispatch, phase_ne_displaying]
    by_cases hg : (!e.run.active || !e.run.pending.isEmpty) = true
    · -- an advance refused while no line is displayed enters nothing
      rw [if_pos hg, Command.entered, if_pos hg]
      rfl
    · rw [if_neg hg]
      exact store_advance e
  | choose i =>
    by_cases hi : i ≥ e.run.pending.length
    · -- a choice out of range enters nothing
      have hnone : e.run.pending[i]? = none := List.getElem?_eq_none hi
      simp only [dispatch, hi, if_true, Command.entered, hnone]
      rfl
    · simp only [dispatch, hi, if_false]
      exact h.store_choose i
  | start id =>
    rw [dispatch]
    exact store_start e id
  | stop => simp [dispatch, Command.entered]

/-- Whether an operation loads a document. -/
def Op.loads : Op → Bool
  | .load _ | .loadParsed _ => true
  | _ => false

/-- **Every operation but a load applies the assignments of the nodes it enters**, and nothing
else. -/
theorem WellFormed.store_apply {e : Engine} (h : e.WellFormed) :
    ∀ op : Op, op.loads = false →
      (op.apply e).store = e.store.setAll ((op.entered e).flatMap (·.assignments))
  | .advance, _ => by
    rw [Op.apply, Op.entered]
    exact store_advance e
  | .choose i, _ => by
    rw [Op.apply, Op.entered]
    exact h.store_choose i
  | .start id, _ => by
    rw [Op.apply, Op.entered]
    exact store_start e id
  | .stop, _ => by simp [Op.apply, Op.entered, Command.entered]
  | .dispatch c, _ => by
    rw [Op.apply, Op.entered]
    exact h.store_dispatch c
  | .takeDiagnostics, _ => by simp [Op.apply, Op.entered, takeDiagnostics]
  | .subscribe l, _ => by simp [Op.apply, Op.entered, subscribe]
  | .load _, hl => by cases hl
  | .loadParsed _, hl => by cases hl

theorem stopIfActive_store (e : Engine) : e.stopIfActive.store = e.store := by
  unfold stopIfActive
  split <;> rfl

theorem stopIfActive_options (e : Engine) : e.stopIfActive.options = e.options := by
  unfold stopIfActive
  split <;> rfl

/-! ### Whole runs -/

/-- **The bindings behind the variables after `op`**, from those behind them before (`acc`): a
document that loads puts its variables in place of all of them, one that fails to load leaves
none under `ReloadPolicy.clear` and changes nothing under `ReloadPolicy.keep`, and any other
operation adds the assignments of the nodes it enters, in order. -/
def Op.bindings (op : Op) (e : Engine) (acc : List (String × Scalar)) : List (String × Scalar) :=
  match op with
  | .load s =>
    match Document.parse s with
    | .ok d => d.bindings
    | .error _ => if e.options.reloadPolicy == .clear then [] else acc
  | .loadParsed d => d.bindings
  | _ => acc ++ (op.entered e).flatMap (·.assignments)

theorem Op.bindings_of_loads {op : Op} (hl : op.loads = false) (e : Engine)
    (acc : List (String × Scalar)) :
    op.bindings e acc = acc ++ (op.entered e).flatMap (·.assignments) := by
  cases op <;> first | rfl | cases hl

/-- The bindings behind the variables after a run of operations, from `acc` before it. -/
def bindingsAlong (e : Engine) : List Op → List (String × Scalar) → List (String × Scalar)
  | [], acc => acc
  | op :: ops, acc => bindingsAlong (op.apply e) ops (op.bindings e acc)

/-- One operation keeps the variables the store of the bindings behind them. -/
theorem WellFormed.store_bindings {e : Engine} (h : e.WellFormed) {acc : List (String × Scalar)}
    (hacc : e.store = Store.ofBindings acc) (op : Op) :
    (op.apply e).store = Store.ofBindings (op.bindings e acc) := by
  cases op with
  | load s =>
    cases hp : Document.parse s with
    | ok d => simp [Op.apply, Engine.load, Op.bindings, hp, install]
    | error f =>
      -- a failed load is reported after the end of the run, then clears or keeps
      by_cases hclear : (e.options.reloadPolicy == .clear) = true
      · simp [Op.apply, Engine.load, Op.bindings, hp, stopIfActive_options, hclear]
        rfl
      · simp [Op.apply, Engine.load, Op.bindings, hp, stopIfActive_options, hclear,
          stopIfActive_store, hacc]
  | loadParsed d => rfl
  | _ => rw [h.store_apply _ rfl, hacc, Op.bindings_of_loads rfl, Store.ofBindings_append]

theorem WellFormed.store_runOps {e : Engine} (h : e.WellFormed) {acc : List (String × Scalar)}
    (hacc : e.store = Store.ofBindings acc) (ops : List Op) :
    (e.runOps ops).store = Store.ofBindings (e.bindingsAlong ops acc) := by
  induction ops generalizing e acc with
  | nil => exact hacc
  | cons op ops ih => exact ih (h.apply op) (h.store_bindings hacc op)

/-- **The variables change only by the assignments of the nodes entered.** After every run of
operations on a new engine, its variables are the store of one list of bindings: the variables
of the last document loaded (none when the last load failed under `ReloadPolicy.clear`, while a
load that failed under `ReloadPolicy.keep` counts for nothing), followed by the assignments of
every node that advancing, starting, choosing and dispatching entered since, in the order
entered. -/
theorem variables_follow_entered_nodes (o : EngineOptions) (p : Presentation) (ops : List Op) :
    ((Engine.new o p).runOps ops).store = Store.ofBindings ((Engine.new o p).bindingsAlong ops []) :=
  (wellFormed_new o p).store_runOps rfl ops

end Engine

end Colloquy
