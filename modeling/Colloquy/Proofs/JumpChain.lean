import Colloquy.Proofs.Transcript
import Colloquy.Proofs.Variables
/-!
# One advance follows the chain of jumps

An advance enters the node after the cursor. While the node entered jumps to a conversation the
registry finds, the first node of that conversation is entered next. Told without the loop, this
is a chain of nodes (`Registry.chainAt`): `e₀` is the node after the cursor, and `eⱼ₊₁` is the first
node of the conversation `Cⱼ₊₁` that `eⱼ` jumps to (`Registry.hopAt?`), as long as it jumps to a
known one. Let `k` be the number of such jumps, possibly without end.

The loop takes at most the hop limit `H` of them, counting a jump before it is taken, and resets
the cursor at each. The theorem here (`advance_follows_jump_chain`) says what one advance from a
displayed line does, told by the chain alone:

* it applies the assignments of the nodes `e₀ … e_min(k, H)` that exist, in that order
  (`Registry.chainUpTo`), each node's in its own order, so a later assignment wins
  (`Store.get?_setAll`);
* if `k > H`, it reports the jump limit once, naming `C_H+1`, and ends the run;
* otherwise `e_k` alone decides: no node ends the run; a jump to an unknown conversation is
  reported once and ends the run; a node that does not jump is shown, with its line, the old
  choices cleared and its own choices if it has any, and every listener hears the new view.

No node that jumps is shown. The loop is proved by induction on the hops left
(`enter_chainEnding`); a taken jump shifts the chain by one (`Registry.chainAt_succ`).
-/

namespace Colloquy

/-! ### The store keeps the last assignment -/

/-- **A later assignment wins**: after setting bindings in order, a name has the value of its
last binding, or the value it had when none binds it. -/
theorem Store.get?_setAll (s : Store) (bs : List (String × Scalar)) (name : String) :
    (s.setAll bs).get? name = ((bs.reverse.find? (·.1 == name)).map (·.2)).or (s.get? name) := by
  induction bs generalizing s with
  | nil => simp
  | cons b bs ih =>
    obtain ⟨k, v⟩ := b
    have hset : (s.set k v).get? name = if k = name then some v else s.get? name :=
      KeyMap.find?_insert s.map k name v
    rw [setAll, List.foldl_cons, ← setAll, ih, hset]
    by_cases hk : k = name
    · subst hk
      cases h : bs.reverse.find? (·.1 == k) <;> simp [h]
    · simp [hk]

namespace Registry

/-! ### The chain of jumps -/

/-- The conversation a node leaves for: its jump target, when the registry finds it. -/
def jumpOf? (r : Registry) (node : Node) : Option Conversation :=
  node.jumpTarget?.bind r.lookup?

/-- **The chain of entered nodes** from `first`: the node entered after `j` jumps. A node that
jumps to a conversation the registry finds is followed by the first node of that conversation.
Nothing follows a node that does not, nor a jump into an empty conversation. -/
def chainAt (r : Registry) (first : Option Node) : Nat → Option Node
  | 0 => first
  | j + 1 => ((r.chainAt first j).bind r.jumpOf?).bind (·.node? 0)

/-- The conversation that the jump after the `j`-th node of the chain enters. -/
def hopAt? (r : Registry) (first : Option Node) (j : Nat) : Option Conversation :=
  (r.chainAt first j).bind r.jumpOf?

/-- The chain takes at least `k` jumps. -/
def Jumps (r : Registry) (first : Option Node) (k : Nat) : Prop :=
  ∀ j < k, (r.hopAt? first j).isSome

/-- The nodes the chain enters within `n` jumps, in order. -/
def chainUpTo (r : Registry) (first : Option Node) (n : Nat) : List Node :=
  (List.range (n + 1)).filterMap (r.chainAt first)

variable {r : Registry}

@[simp] theorem chainAt_zero (first : Option Node) : r.chainAt first 0 = first := rfl

/-- After the first jump, the chain goes on as the chain from the node it enters. -/
theorem chainAt_succ (first : Option Node) (j : Nat) :
    r.chainAt first (j + 1) = r.chainAt (r.chainAt first 1) j := by
  induction j with
  | zero => rfl
  | succ j ih =>
    rw [chainAt, ih]
    rfl

theorem hopAt?_succ (first : Option Node) (j : Nat) :
    r.hopAt? first (j + 1) = r.hopAt? (r.chainAt first 1) j := by
  rw [hopAt?, hopAt?, chainAt_succ]

@[simp] theorem chainAt_none (j : Nat) : r.chainAt none j = none := by
  induction j with
  | zero => rfl
  | succ j ih => simp [chainAt, ih]

/-- A jump from the first node, then `k` more, are `k + 1` jumps. -/
theorem Jumps.cons {first : Option Node} {k : Nat} (h0 : (r.hopAt? first 0).isSome)
    (h : r.Jumps (r.chainAt first 1) k) : r.Jumps first (k + 1) := by
  intro j hj
  cases j with
  | zero => exact h0
  | succ j =>
    rw [hopAt?_succ]
    exact h j (by omega)

theorem chainUpTo_none (n : Nat) : r.chainUpTo none n = [] := by
  simp [chainUpTo]

theorem chainUpTo_succ (node : Node) (n : Nat) :
    r.chainUpTo (some node) (n + 1) = node :: r.chainUpTo (r.chainAt (some node) 1) n := by
  rw [chainUpTo, List.range_succ_eq_map, List.filterMap_cons_some (chainAt_zero (some node)),
    List.filterMap_map, chainUpTo]
  congr 1
  apply List.filterMap_congr
  intro j _
  exact chainAt_succ (some node) j

/-- The nodes the loop of `advance` is known to enter (`Registry.jumpChain`) are those of the
chain. -/
theorem jumpChain_eq_chainUpTo (n : Nat) (first : Option Node) :
    first.elim [] (r.jumpChain n) = r.chainUpTo first n := by
  induction n generalizing first with
  | zero =>
    cases first with
    | none => rfl
    | some node => rfl
  | succ n ih =>
    cases first with
    | none => rw [chainUpTo_none]; rfl
    | some node =>
      rw [chainUpTo_succ, ← ih]
      -- the rest starts at the first node of the conversation jumped to, if any
      have hnext : r.chainAt (some node) 1 = (node.jumpTarget?.bind r.lookup?).bind (·.node? 0) :=
        rfl
      rw [hnext]
      simp only [Option.elim, jumpChain]
      cases node.jumpTarget?.bind r.lookup? with
      | none => rfl
      | some next => rfl

end Registry

namespace Engine

/-! ### How a run can end an advance -/

/-- From `e` to `e'` the run ended, after the diagnostics `ds` were reported: no run remains,
everything is hidden and every listener is told. -/
structure Halts (e e' : Engine) (ds : List Diagnostic) : Prop where
  run : e'.run = {}
  presentation : e'.presentation = e.presentation.emitAll [.hidden]
  listeners : e'.listeners = e.listeners.map (·.hearAll [.ended])
  diagnostics : e'.diagnostics = ds.foldl DiagnosticLog.report e.diagnostics

/-- From `e` to `e'` the node `node` was shown: its line, the old choices cleared, and its own
choices if it has any. The cursor stands on it in an active run with its choices pending, every
listener hears the new view, and nothing is reported. -/
structure Displays (e e' : Engine) (node : Node) : Prop where
  active : e'.run.active = true
  cursor : ∃ c i, e'.run.conversation = some c ∧ e'.run.cursor = some i ∧ c.nodes[i]? = some node
  pending : e'.run.pending = node.choices
  presentation : e'.presentation = e.presentation.emitAll (shownEvents node)
  listeners : ∃ v, e'.view? = some v ∧ e'.listeners = e.listeners.map (·.hearAll [.updated v])
  diagnostics : e'.diagnostics = e.diagnostics

/-- **How the chain from the node after the cursor ends**, with `n` jumps allowed: past `n` jumps
the limit is reported; otherwise the node after the last jump decides. -/
inductive ChainEnding (e : Engine) (n : Nat) (e' : Engine) : Prop
  /-- The chain takes more than `n` jumps: the jump past them is reported, naming the
  conversation it enters, and the run ends. -/
  | limit {C : Conversation} : e.registry.hopAt? e.run.next? n = some C →
      Halts e e' [Diagnostic.jumpLimit C.id e.options.maxHops] → ChainEnding e n e'
  /-- After `k` jumps there is no node: the run ends. -/
  | missing {k : Nat} : k ≤ n → e.registry.Jumps e.run.next? k →
      e.registry.chainAt e.run.next? k = none → Halts e e' [] → ChainEnding e n e'
  /-- After `k` jumps the node jumps to an unknown conversation: that is reported, and the run
  ends. -/
  | dangling {k : Nat} {node : Node} {t : String} : k ≤ n → e.registry.Jumps e.run.next? k →
      e.registry.chainAt e.run.next? k = some node → node.jumpTarget? = some t →
      e.registry.lookup? t = none →
      Halts e e' [e.notFound "ENGINE_JUMP_TARGET_NOT_FOUND" "goto" t] → ChainEnding e n e'
  /-- After `k` jumps the node does not jump, and it is shown. -/
  | shown {k : Nat} {node : Node} : k ≤ n → e.registry.Jumps e.run.next? k →
      e.registry.chainAt e.run.next? k = some node → node.jumpTarget? = none →
      Displays e e' node → ChainEnding e n e'

theorem halts_stop (e : Engine) (s : Store) : Halts e { e with store := s }.stop [] :=
  ⟨rfl, rfl, rfl, rfl⟩

theorem halts_report_stop (e : Engine) (s : Store) (d : Diagnostic) :
    Halts e ({ e with store := s }.report d).stop [d] :=
  ⟨rfl, rfl, rfl, rfl⟩

/-- Showing a node under the cursor of an active run displays it. -/
theorem displays_render {e : Engine} {c : Conversation} {i : Nat} {node : Node}
    (hact : e.run.active = true) (hc : e.run.conversation = some c) (hi : e.run.cursor = some i)
    (hn : c.nodes[i]? = some node) : Displays e (e.render node) node := by
  obtain ⟨v, hs⟩ := settles_render hact hc hi hn
  -- the notice every listener hears last is the view after the node is shown
  have hview := hs.heard.2
  simp only [LastNotice, render_run, hact, if_true, List.getLast?_singleton, Option.some.injEq,
    Notice.updated.injEq] at hview
  obtain ⟨_, hv, rfl⟩ := hview
  exact ⟨by simpa using hact, ⟨c, i, by simpa using hc, by simpa using hi, hn⟩, by simp,
    hs.presentation, ⟨_, hv, hs.listeners⟩, by simp⟩

/-- An ending seen from an engine that shares the presentation, listeners and diagnostics. -/
theorem Halts.of_host {e e₁ e' : Engine} {ds : List Diagnostic} (h : Halts e₁ e' ds)
    (hp : e₁.presentation = e.presentation) (hl : e₁.listeners = e.listeners)
    (hd : e₁.diagnostics = e.diagnostics) : Halts e e' ds :=
  ⟨h.run, by rw [h.presentation, hp], by rw [h.listeners, hl], by rw [h.diagnostics, hd]⟩

theorem Displays.of_host {e e₁ e' : Engine} {node : Node} (h : Displays e₁ e' node)
    (hp : e₁.presentation = e.presentation) (hl : e₁.listeners = e.listeners)
    (hd : e₁.diagnostics = e.diagnostics) : Displays e e' node := by
  obtain ⟨v, hv, hls⟩ := h.listeners
  exact ⟨h.active, h.cursor, h.pending, by rw [h.presentation, hp], ⟨v, hv, by rw [hls, hl]⟩,
    by rw [h.diagnostics, hd]⟩

/-! ### The loop -/

/-- A pass that settles ends the chain at its first node. -/
theorem chainEnding_of_settled {n : Nat} {e e' : Engine} (hact : e.run.active = true)
    (hx : enterNext e = .settled e') : ChainEnding e n e' := by
  have hE := enters_enterNext e
  rw [hx] at hE
  have hnone : e.registry.Jumps e.run.next? 0 := fun j hj => absurd hj (Nat.not_lt_zero j)
  cases hE with
  | noConversation hc =>
    exact .missing (Nat.zero_le n) hnone (by simp [Run.next?, hc]) (halts_stop e e.store)
  | pastEnd hc hn =>
    exact .missing (Nat.zero_le n) hnone (by simp [Run.next?, hc, hn]) (halts_stop e e.store)
  | @shown c node hc hn hj =>
    rw [render_entered hc]
    refine .shown (Nat.zero_le n) hnone (by simp [Run.next?, hc, hn]) hj ?_
    -- the node is shown at the next cursor of the run's own conversation
    exact (displays_render (by exact hact) (by rfl) (by rfl) hn).of_host rfl rfl rfl
  | @dangling c node t hc hn hj hl =>
    exact .dangling (Nat.zero_le n) hnone (by simp [Run.next?, hc, hn]) hj hl
      (halts_report_stop e _ _)

/-- A pass that jumps has entered the node after the cursor, and jumps where that node does. -/
theorem jump_of_enterNext {e e' : Engine} {next : Conversation}
    (hx : enterNext e = .jump e' next) :
    ∃ node, e.run.next? = some node ∧ e.registry.jumpOf? node = some next ∧
      e' = e.entered node := by
  have hE := enters_enterNext e
  rw [hx] at hE
  cases hE with
  | @jump c node t _ hc hn hjt hl =>
    exact ⟨node, by simp [Run.next?, hc, hn], by simp [Registry.jumpOf?, hjt, hl], rfl⟩

/-- The engine in which the loop goes on after a jump to `next`. -/
def hopped (e : Engine) (node : Node) (next : Conversation) : Engine :=
  { e.entered node with
    run := { (e.entered node).run with conversation := some next, cursor := none } }

/-- **A taken jump shifts the chain by one**: how the loop ends after a jump from the node after
the cursor, with `n` jumps left, is how it ends from the start with `n + 1`. -/
theorem ChainEnding.hop {n : Nat} {e e' : Engine} {node : Node} {next : Conversation}
    (hnext : e.run.next? = some node) (hj : e.registry.jumpOf? node = some next)
    (h : ChainEnding (e.hopped node next) n e') : ChainEnding e (n + 1) e' := by
  -- the chain after the jump is the chain from the first node of `next`
  have hfirst : (e.hopped node next).run.next? = e.registry.chainAt e.run.next? 1 := by
    rw [Registry.chainAt, Registry.chainAt_zero, hnext, Option.bind_some, hj, Option.bind_some]
    rfl
  have hfree : (e.registry.hopAt? e.run.next? 0).isSome := by
    simp [Registry.hopAt?, hnext, hj]
  have hp : (e.hopped node next).presentation = e.presentation := rfl
  have hl : (e.hopped node next).listeners = e.listeners := rfl
  have hd : (e.hopped node next).diagnostics = e.diagnostics := rfl
  have hreg : (e.hopped node next).registry = e.registry := rfl
  cases h with
  | limit hC hh =>
    rw [hreg, hfirst, ← Registry.hopAt?_succ] at hC
    exact .limit hC (hh.of_host hp hl hd)
  | missing hk hjs hmiss hh =>
    rw [hreg, hfirst, ← Registry.chainAt_succ] at hmiss
    rw [hreg, hfirst] at hjs
    exact .missing (by omega) (Registry.Jumps.cons hfree hjs) hmiss (hh.of_host hp hl hd)
  | dangling hk hjs hat hjt hl' hh =>
    rw [hreg, hfirst, ← Registry.chainAt_succ] at hat
    rw [hreg, hfirst] at hjs
    rw [hreg] at hl'
    exact .dangling (by omega) (Registry.Jumps.cons hfree hjs) hat hjt hl' (hh.of_host hp hl hd)
  | shown hk hjs hat hjt hd' =>
    rw [hreg, hfirst, ← Registry.chainAt_succ] at hat
    rw [hreg, hfirst] at hjs
    exact .shown (by omega) (Registry.Jumps.cons hfree hjs) hat hjt (hd'.of_host hp hl hd)

/-- **The loop follows the chain**: entering with `n` hops left ends as the chain from the node
after the cursor does with `n` jumps allowed. -/
theorem enter_chainEnding (n : Nat) {e : Engine} (hact : e.run.active = true) :
    ChainEnding e n (enter n e) := by
  induction n generalizing e with
  | zero =>
    cases hx : enterNext e with
    | settled e' =>
      rw [enter_of_settled hx]
      exact chainEnding_of_settled hact hx
    | jump e' next =>
      -- no hop is left: the first jump is the one past the limit
      obtain ⟨node, hnext, hj, rfl⟩ := jump_of_enterNext hx
      rw [enter_zero_of_jump hx]
      exact .limit (by simp [Registry.hopAt?, hnext, hj]) (halts_report_stop e _ _)
  | succ m ih =>
    cases hx : enterNext e with
    | settled e' =>
      rw [enter_of_settled hx]
      exact chainEnding_of_settled hact hx
    | jump e' next =>
      -- the hop is taken: the rest of the loop starts at the first node of `next`
      obtain ⟨node, hnext, hj, rfl⟩ := jump_of_enterNext hx
      rw [enter_succ_of_jump hx]
      exact ChainEnding.hop hnext hj (@ih (e.hopped node next) hact)

/-! ### One advance -/

/-- What one advance did from `e` to `e'`, told by the chain from the node after the cursor with
the hop limit: the assignments of the nodes the chain enters within the limit are applied in
order, the conversations and options stay, and the chain's end decides the rest. -/
structure Advanced (e e' : Engine) : Prop where
  store : e'.store = e.store.setAll
    ((e.registry.chainUpTo e.run.next? e.options.maxHops).flatMap (·.assignments))
  registry : e'.registry = e.registry
  options : e'.options = e.options
  ending : ChainEnding e e.options.maxHops e'

/-- **One advance follows the chain of jumps.** From a displayed line, an advance applies the
assignments of the nodes `e₀ … e_min(k, H)` in order, where `k` counts the jumps of the chain from
the node after the cursor and `H` is the hop limit. Past `H` jumps it reports the jump limit once,
naming the conversation the next jump enters, and ends the run. Otherwise the node after the
last jump decides: none ends the run; a jump to an unknown conversation is reported once and
ends the run; a node that does not jump is shown with its line, the old choices cleared and its
own choices if any, and every listener hears the new view. -/
theorem advance_follows_jump_chain {e : Engine} (hd : e.phase = .displaying) :
    Advanced e e.advance := by
  have hact : e.run.active = true := by
    cases h : e.run.active
    · simp [phase, h] at hd
    · rfl
  have hpend : e.run.pending = [] := by
    cases h : e.run.pending with
    | nil => rfl
    | cons ch chs => simp [phase, hact, h] at hd
  rw [advance_eq_enter hact hpend]
  obtain ⟨hreg, hopts⟩ := enter_frame e.options.maxHops e
  refine ⟨?_, hreg, hopts, enter_chainEnding _ hact⟩
  rw [enter_store, enteredBy, Registry.jumpChain_eq_chainUpTo]

/-- A hall with a line, then a jump into a conversation that jumps to itself. -/
def hallRoom : Conversation :=
  ⟨"hall", [.line "Ann" "Hello.", { goto := some "loop", assignments := [("seen", .bool true)] }]⟩

/-- A dialogue whose hall leads into an endless chain of jumps. -/
def hall : Document where
  conversations := [hallRoom, ⟨"loop", [{ goto := some "loop" }]⟩]

/-- The hall, displaying its first line. -/
def hallShown : Engine :=
  { registry := Registry.ofDocument hall,
    run := { active := true, conversation := some hallRoom, cursor := some 0 } }

theorem hallShown_advance_follows_jump_chain :
    hallShown.phase = .displaying ∧ Advanced hallShown hallShown.advance :=
  ⟨rfl, advance_follows_jump_chain rfl⟩

end Engine

end Colloquy
