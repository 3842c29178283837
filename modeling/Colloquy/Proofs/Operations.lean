import Colloquy.Engine.Step
import Colloquy.Proofs.Registry
/-!
# The operations of an engine, one step at a time

A host holds an engine made by `Engine.new` and changes it by its public operations
(`Engine.Op`): loading, starting, advancing, choosing, ending, dispatching a command, taking
the diagnostics and subscribing a listener. `Engine.Reachable` is the set of engines a host can
hold that way. Every invariant of the engine is proved along it.

All the operations that move a run go through `enter`, the loop of `advance`. One pass of the
loop is `enterNext`, and `Enters` says once what a pass can lead to: the run ends (no
conversation, or past the last node), a node that does not jump is shown, a jump to an unknown
conversation is reported, or the node jumps to a known conversation. `enter_cases` lifts that
to the whole loop: entering ends the run, after at most one report, or shows a node that does
not jump. On the way only the variables and the run's position change.

The frame lemmas say which parts of an engine each small update leaves alone.
-/

namespace Colloquy

namespace Run

/-- The position of the node entered next: after the cursor, or the first. -/
def nextCursor (r : Run) : Nat :=
  match r.cursor with
  | some c => c + 1
  | none => 0

end Run

namespace Engine

/-! ### Frame lemmas -/

@[simp] theorem emit_run (e : Engine) (ev : Event) : (e.emit ev).run = e.run := rfl
@[simp] theorem emit_registry (e : Engine) (ev : Event) : (e.emit ev).registry = e.registry := rfl
@[simp] theorem notify_run (e : Engine) (n : Notice) : (e.notify n).run = e.run := rfl
@[simp] theorem notify_registry (e : Engine) (n : Notice) :
    (e.notify n).registry = e.registry := rfl
@[simp] theorem report_run (e : Engine) (d : Diagnostic) : (e.report d).run = e.run := rfl
@[simp] theorem report_registry (e : Engine) (d : Diagnostic) :
    (e.report d).registry = e.registry := rfl
@[simp] theorem stop_run (e : Engine) : e.stop.run = {} := rfl
@[simp] theorem stop_registry (e : Engine) : e.stop.registry = e.registry := rfl

@[simp] theorem notifyUpdated_run (e : Engine) : e.notifyUpdated.run = e.run := by
  unfold notifyUpdated
  split <;> rfl

@[simp] theorem notifyUpdated_registry (e : Engine) :
    e.notifyUpdated.registry = e.registry := by
  unfold notifyUpdated
  split <;> rfl

@[simp] theorem render_run (e : Engine) (node : Node) :
    (e.render node).run = { e.run with pending := node.choices } := by
  unfold render
  split <;> simp

@[simp] theorem render_registry (e : Engine) (node : Node) :
    (e.render node).registry = e.registry := by
  unfold render
  split <;> simp

/-! ### One pass of the loop -/

/-- The engine with the node after the cursor entered: the cursor on it and its assignments
applied. -/
def entered (e : Engine) (node : Node) : Engine :=
  { e with run := { e.run with cursor := some e.run.nextCursor },
           store := e.store.setAll node.assignments }

/-- **One pass of the loop**: what entering the node after the cursor can lead to. -/
inductive Enters (e : Engine) : Entry → Prop
  | noConversation : e.run.conversation = none → Enters e (.settled e.stop)
  | pastEnd {c : Conversation} : e.run.conversation = some c →
      c.node? e.run.nextCursor = none → Enters e (.settled e.stop)
  | shown {c : Conversation} {node : Node} : e.run.conversation = some c →
      c.node? e.run.nextCursor = some node → node.jumpTarget? = none →
      Enters e (.settled ((e.entered node).render node))
  | dangling {c : Conversation} {node : Node} {t : String} : e.run.conversation = some c →
      c.node? e.run.nextCursor = some node → node.jumpTarget? = some t →
      e.registry.lookup? t = none →
      Enters e (.settled (((e.entered node).report
        (e.notFound "ENGINE_JUMP_TARGET_NOT_FOUND" "goto" t)).stop))
  | jump {c : Conversation} {node : Node} {t : String} {next : Conversation} :
      e.run.conversation = some c → c.node? e.run.nextCursor = some node →
      node.jumpTarget? = some t → e.registry.lookup? t = some next →
      Enters e (.jump (e.entered node) next)

theorem enters_enterNext (e : Engine) : Enters e (enterNext e) := by
  unfold enterNext
  split
  · rename_i hc
    exact .noConversation hc
  · rename_i c hc
    simp only
    split
    · rename_i hn
      exact .pastEnd hc hn
    · rename_i node hn
      split
      · rename_i hj
        exact .shown hc hn hj
      · rename_i t hj
        split
        · rename_i hl
          exact .dangling hc hn hj hl
        · rename_i next hl
          exact .jump hc hn hj hl

/-! ### The loop -/

theorem enter_of_settled {n : Nat} {e e' : Engine} (h : enterNext e = .settled e') :
    enter n e = e' := by
  cases n <;> rw [enter, h]

theorem enter_zero_of_jump {e e' : Engine} {next : Conversation}
    (h : enterNext e = .jump e' next) :
    enter 0 e = (e'.report (Diagnostic.jumpLimit next.id e'.options.maxHops)).stop := by
  rw [enter, h]

theorem enter_succ_of_jump {n : Nat} {e e' : Engine} {next : Conversation}
    (h : enterNext e = .jump e' next) :
    enter (n + 1) e =
      enter n { e' with run := { e'.run with conversation := some next, cursor := none } } := by
  rw [enter, h]

/-- The node that is shown in the run's own conversation is shown at the next cursor. -/
theorem render_entered {e : Engine} {c : Conversation} (hc : e.run.conversation = some c)
    (node : Node) :
    (e.entered node).render node =
      ({ e with store := e.store.setAll node.assignments,
                run := { e.run with conversation := some c,
                                    cursor := some e.run.nextCursor } } : Engine).render node := by
  have hrun : ({ e.run with cursor := some e.run.nextCursor } : Run) =
      { e.run with conversation := some c, cursor := some e.run.nextCursor } := by
    rw [← hc]
  rw [entered, hrun]

/-- **What entering can end in**: the run ends, after at most one report, or a node that does
not jump is shown. On the way only the variables and the run's position change, and a
conversation entered after a jump is one the registry finds. -/
theorem enter_cases (n : Nat) (e : Engine) :
    (∃ s, enter n e = ({ e with store := s } : Engine).stop) ∨
    (∃ s d, enter n e = (({ e with store := s } : Engine).report d).stop) ∨
    (∃ s c i node, c.nodes[i]? = some node ∧ node.jumpTarget? = none ∧
      (e.run.conversation = some c ∨ ∃ t, e.registry.lookup? t = some c) ∧
      enter n e = ({ e with
        store := s, run := { e.run with conversation := some c, cursor := some i } } : Engine).render
          node) := by
  induction n generalizing e with
  | zero =>
    have hE := enters_enterNext e
    generalize hx : enterNext e = x at hE
    cases hE with
    | noConversation hc => exact .inl ⟨e.store, enter_of_settled hx⟩
    | pastEnd hc hn => exact .inl ⟨e.store, enter_of_settled hx⟩
    | @shown c node hc hn hj =>
      refine .inr (.inr ⟨e.store.setAll node.assignments, c, e.run.nextCursor, node, hn, hj,
        .inl hc, ?_⟩)
      rw [enter_of_settled hx, render_entered hc]
    | dangling hc hn hj hl => exact .inr (.inl ⟨_, _, enter_of_settled hx⟩)
    | @jump c node t next hc hn hj hl =>
      -- no hop is left: the jump is refused
      exact .inr (.inl ⟨e.store.setAll node.assignments,
        Diagnostic.jumpLimit next.id e.options.maxHops, (enter_zero_of_jump hx).trans rfl⟩)
  | succ h ih =>
    have hE := enters_enterNext e
    generalize hx : enterNext e = x at hE
    cases hE with
    | noConversation hc => exact .inl ⟨e.store, enter_of_settled hx⟩
    | pastEnd hc hn => exact .inl ⟨e.store, enter_of_settled hx⟩
    | @shown c node hc hn hj =>
      refine .inr (.inr ⟨e.store.setAll node.assignments, c, e.run.nextCursor, node, hn, hj,
        .inl hc, ?_⟩)
      rw [enter_of_settled hx, render_entered hc]
    | dangling hc hn hj hl => exact .inr (.inl ⟨_, _, enter_of_settled hx⟩)
    | @jump c node t next hc hn hj hl =>
      -- the hop is taken: the rest of the loop starts at the first node of `next`
      rw [enter_succ_of_jump hx]
      rcases ih { e.entered node with
          run := { (e.entered node).run with conversation := some next, cursor := none } } with
        ⟨s, hs⟩ | ⟨s, d, hs⟩ | ⟨s, c', i, node', hn', hj', hc', hs⟩
      · exact .inl ⟨s, hs⟩
      · exact .inr (.inl ⟨s, d, hs⟩)
      · refine .inr (.inr ⟨s, c', i, node', hn', hj', ?_, hs⟩)
        rcases hc' with hc' | ⟨t', ht'⟩
        · exact .inr ⟨t, by simpa [← hc'] using hl⟩
        · exact .inr ⟨t', ht'⟩

/-! ### Operations -/

/-- A public operation of an engine. -/
inductive Op where
  | load (source : String)
  | loadParsed (d : Document)
  | start (id : String)
  | advance
  | choose (index : Nat)
  | stop
  | dispatch (c : Command)
  | takeDiagnostics
  | subscribe (l : Listener)

/-- The operation a command names. -/
def Op.ofCommand : Command → Op
  | .advance => .advance
  | .choose i => .choose i
  | .start id => .start id
  | .stop => .stop

/-- Applies an operation, forgetting what it answers. -/
def Op.apply : Op → Engine → Engine
  | .load s, e => (e.load s).2
  | .loadParsed d, e => e.loadParsed d
  | .start id, e => (e.start id).2
  | .advance, e => e.advance
  | .choose i, e => e.choose i
  | .stop, e => e.stop
  | .dispatch c, e => (e.dispatch c).2
  | .takeDiagnostics, e => e.takeDiagnostics.2
  | .subscribe l, e => e.subscribe l

/-- The index an operation chooses, if it chooses. -/
def Op.chosen? : Op → Option Nat
  | .choose i | .dispatch (.choose i) => some i
  | _ => none

/-- Whether an operation adds a listener. -/
def Op.addsListener : Op → Bool
  | .subscribe _ => true
  | _ => false

/-- Applies operations in order. -/
def runOps (e : Engine) (ops : List Op) : Engine :=
  ops.foldl (fun e op => op.apply e) e

@[simp] theorem runOps_nil (e : Engine) : e.runOps [] = e := rfl

@[simp] theorem runOps_cons (e : Engine) (op : Op) (ops : List Op) :
    e.runOps (op :: ops) = (op.apply e).runOps ops := rfl

/-- Subscribes listeners in order. -/
def subscribeAll (e : Engine) (ls : List Listener) : Engine :=
  ls.foldl subscribe e

/-- The engines a host can hold: made by `Engine.new`, then changed by public operations. -/
inductive Reachable : Engine → Prop
  | new (o : EngineOptions) (p : Presentation) : Reachable (Engine.new o p)
  | step {e : Engine} (op : Op) : Reachable e → Reachable (op.apply e)

/-- **Dispatching** a command does nothing, or what the command names. -/
theorem dispatch_cases (e : Engine) (c : Command) :
    (e.dispatch c).2 = e ∨ (e.dispatch c).2 = (Op.ofCommand c).apply e := by
  cases c with
  | advance =>
    by_cases h : (e.phase != .displaying) = true
    · exact .inl (by simp [dispatch, h])
    · exact .inr (by simp [dispatch, h, Op.ofCommand, Op.apply])
  | choose i =>
    by_cases h : i ≥ e.run.pending.length
    · exact .inl (by simp [dispatch, h])
    · exact .inr (by simp [dispatch, h, Op.ofCommand, Op.apply])
  | start id => exact .inr rfl
  | stop => exact .inr rfl

end Engine

end Colloquy
