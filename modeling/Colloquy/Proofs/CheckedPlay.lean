import Colloquy.Proofs.RunShape
import Colloquy.Proofs.EntryJumps
/-!
# The check foresees what playing reports

`Document.check` reads a document without playing it. This module proves that, for an engine
whose conversations are those of the document and whose hop limit is at least their number,
the check foresees every problem that playing can report:

* without a dangling jump in the check, no jump to an unknown conversation is reported;
* without a dangling choice in the check, no choice leading to an unknown conversation is;
* without a cycle in the check, the jump limit is never reached;
* and a start from an idle engine reaches the jump limit exactly when the entry jumps from the
  started id run into a cycle that the check reports.

What a step reports is read off the diagnostic log. A report always changes the log and ends
it with the diagnostic reported (`DiagnosticLog.getLast?_report`), so a step that leaves the log
as it was, or as one report of `d` would, reported nothing, or `d` alone (`ReportsOnly`).

`PlayReport` lists, once, everything a play can report: an unknown start, a start refused
while running, a dangling jump or choice of a registered node, and the jump limit after a chain
of entry jumps as long as the limit. Every play reports at most one of them
(`WellFormed.reportsOnly_play`); each result about the check is then a fact about that list.
-/

namespace Colloquy

/-! ### Reports change the log -/

namespace DiagnosticLog

/-- The last entry of a log is the diagnostic reported last. -/
@[simp] theorem getLast?_report (l : DiagnosticLog) (d : Diagnostic) :
    (l.report d).entries.getLast? = some d := by
  unfold report
  split <;> simp

theorem report_ne_self (l : DiagnosticLog) (d : Diagnostic) : l.report d ≠ l := by
  unfold report
  split
  · -- a full log counts one more drop
    intro h
    have := congrArg DiagnosticLog.dropped h
    simp at this
  · intro h
    have := congrArg (fun l => l.entries.length) h
    simp at this

theorem report_injective (l : DiagnosticLog) {d d' : Diagnostic} (h : l.report d = l.report d') :
    d = d' := by
  have := congrArg (fun l => l.entries.getLast?) h
  simpa using this

end DiagnosticLog

namespace Engine

/-- A step from `e` to `e'` reported nothing, or one diagnostic, which satisfies `P`. -/
def ReportsOnly (P : Diagnostic → Prop) (e e' : Engine) : Prop :=
  e'.diagnostics = e.diagnostics ∨ ∃ d, P d ∧ e'.diagnostics = e.diagnostics.report d

variable {P Q : Diagnostic → Prop}

/-- A step that reported `d` and only reports what satisfies `P` reported a `d` satisfying `P`. -/
theorem ReportsOnly.of_report {e e' : Engine} {d : Diagnostic} (h : ReportsOnly P e e')
    (hd : e'.diagnostics = e.diagnostics.report d) : P d := by
  rcases h with h | ⟨d', hP, h'⟩
  · exact absurd (hd.symm.trans h) (DiagnosticLog.report_ne_self _ _)
  · rwa [DiagnosticLog.report_injective _ (hd.symm.trans h')]

theorem ReportsOnly.mono {e e' : Engine} (h : ReportsOnly P e e') (hPQ : ∀ d, P d → Q d) :
    ReportsOnly Q e e' := by
  rcases h with h | ⟨d, hP, h⟩
  · exact .inl h
  · exact .inr ⟨d, hPQ d hP, h⟩

/-- Only the log counts: steps that end and start with the same logs report the same. -/
theorem ReportsOnly.congr {e₁ e₁' e e' : Engine} (h : ReportsOnly P e₁ e₁')
    (hd : e₁.diagnostics = e.diagnostics) (hd' : e₁'.diagnostics = e'.diagnostics) :
    ReportsOnly P e e' := by
  rw [ReportsOnly, ← hd, ← hd']
  exact h

/-! ### Frame lemmas -/

@[simp] theorem emit_diagnostics (e : Engine) (ev : Event) :
    (e.emit ev).diagnostics = e.diagnostics := rfl
@[simp] theorem notify_diagnostics (e : Engine) (n : Notice) :
    (e.notify n).diagnostics = e.diagnostics := rfl
@[simp] theorem report_diagnostics (e : Engine) (d : Diagnostic) :
    (e.report d).diagnostics = e.diagnostics.report d := rfl
@[simp] theorem stop_diagnostics (e : Engine) : e.stop.diagnostics = e.diagnostics := rfl
@[simp] theorem emit_options (e : Engine) (ev : Event) : (e.emit ev).options = e.options := rfl
@[simp] theorem notify_options (e : Engine) (n : Notice) : (e.notify n).options = e.options := rfl
@[simp] theorem report_options (e : Engine) (d : Diagnostic) :
    (e.report d).options = e.options := rfl
@[simp] theorem stop_options (e : Engine) : e.stop.options = e.options := rfl

@[simp] theorem notifyUpdated_diagnostics (e : Engine) :
    e.notifyUpdated.diagnostics = e.diagnostics := by
  unfold notifyUpdated
  split <;> rfl

@[simp] theorem notifyUpdated_options (e : Engine) : e.notifyUpdated.options = e.options := by
  unfold notifyUpdated
  split <;> rfl

@[simp] theorem render_diagnostics (e : Engine) (node : Node) :
    (e.render node).diagnostics = e.diagnostics := by
  unfold render
  split <;> simp

@[simp] theorem render_options (e : Engine) (node : Node) :
    (e.render node).options = e.options := by
  unfold render
  split <;> simp

/-- Entering changes neither the registry nor the options. -/
theorem enter_frame (n : Nat) (e : Engine) :
    (enter n e).registry = e.registry ∧ (enter n e).options = e.options := by
  rcases enter_cases n e with ⟨s, hs⟩ | ⟨s, d, hs⟩ | ⟨s, c, i, node, -, -, -, hs⟩ <;>
    rw [hs] <;> exact ⟨by simp, by simp⟩

/-! ### What playing can report -/

/-- A jump of a registered node to an unknown conversation, as the engine reports it. -/
inductive DanglingJump (r : Registry) : Diagnostic → Prop
  | mk {c : Conversation} {node : Node} {t : String} : c ∈ r.conversations → node ∈ c.nodes →
      node.jumpTarget? = some t → r.lookup? t = none →
      DanglingJump r (Diagnostic.notFound "ENGINE_JUMP_TARGET_NOT_FOUND" "goto" t r.knownIds)

/-- **What playing can report**, with the registry `r` and the hop limit `hops`: an unknown
start, a start refused while running, a dangling jump or choice of a registered node, or the
jump limit after `hops` entry jumps followed from a registered key. -/
inductive PlayReport (r : Registry) (hops : Nat) : Diagnostic → Prop
  | unknownStart (id : String) :
      PlayReport r hops (Diagnostic.notFound "ENGINE_CONVERSATION_NOT_FOUND" "Dialogue" id r.knownIds)
  | alreadyActive (active requested : String) :
      PlayReport r hops (Diagnostic.alreadyActive active requested)
  | danglingJump {d : Diagnostic} : DanglingJump r d → PlayReport r hops d
  | danglingChoice {c : Conversation} {node : Node} {ch : Choice} : c ∈ r.conversations →
      node ∈ c.nodes → ch ∈ node.choices → r.lookup? ch.target = none →
      PlayReport r hops
        (Diagnostic.notFound "ENGINE_CHOICE_TARGET_NOT_FOUND" "choice goto" ch.target r.knownIds)
  | jumpLimit {k : String} (id : String) : k ∈ r.keys →
      (Check.follow r.entryJump? hops k).isSome → PlayReport r hops (Diagnostic.jumpLimit id hops)

/-! ### Entering -/

/-- The entry jump from the key of a registered conversation is its first node's jump. -/
theorem entryJump?_key {r : Registry} {c : Conversation} (hc : r.lookup? c.id = some c) :
    r.entryJump? (Ident.key c.id) =
      (((c.node? 0).bind Node.jumpTarget?).bind r.lookup?).map (Ident.key ·.id) := by
  have hfind : r.map.find? (Ident.key c.id) = some c := by
    unfold Registry.lookup? at hc
    simp only at hc
    split_ifs at hc
    exact hc
  simp [Registry.entryJump?, hfind]

/-- One pass from the first node of a registered conversation `c`: either `c` has no entry
jump, and entering reports at most a dangling jump, or the pass jumps to a registered
conversation along the entry jump of `c`, leaving the log, registry and options alone. -/
theorem enterNext_from_first {e : Engine} {c : Conversation} (hc : e.run.conversation = some c) (hcur : e.run.cursor = none)
    (hreg : e.registry.lookup? c.id = some c) :
    (e.registry.entryJump? (Ident.key c.id) = none ∧
      ∀ n, ReportsOnly (DanglingJump e.registry) e (enter n e)) ∨
    ∃ e' next, enterNext e = .jump e' next ∧
      e.registry.entryJump? (Ident.key c.id) = some (Ident.key next.id) ∧
      e.registry.lookup? next.id = some next ∧ e'.registry = e.registry ∧
      e'.diagnostics = e.diagnostics ∧ e'.options = e.options := by
  have hfirst : e.run.nextCursor = 0 := by simp [Run.nextCursor, hcur]
  have hjump := entryJump?_key hreg
  have hE := enters_enterNext e
  generalize hx : enterNext e = x at hE
  cases hE with
  | noConversation hc' => simp [hc] at hc'
  | @pastEnd c' hc' hn =>
    rw [hc, Option.some.injEq] at hc'
    subst hc'
    rw [hfirst] at hn
    refine .inl ⟨by simp [hjump, hn], fun n => .inl ?_⟩
    rw [enter_of_settled hx, stop_diagnostics]
  | @shown c' node hc' hn hj =>
    rw [hc, Option.some.injEq] at hc'
    subst hc'
    rw [hfirst] at hn
    refine .inl ⟨by simp [hjump, hn, hj], fun n => .inl ?_⟩
    rw [enter_of_settled hx, render_diagnostics]
    rfl
  | @dangling c' node t hc' hn hj hl =>
    rw [hc, Option.some.injEq] at hc'
    subst hc'
    rw [hfirst] at hn
    refine .inl ⟨by simp [hjump, hn, hj, hl],
      fun n => .inr ⟨e.notFound "ENGINE_JUMP_TARGET_NOT_FOUND" "goto" t, ?_, ?_⟩⟩
    · exact .mk (Registry.mem_conversations_of_lookup? hreg) (List.mem_of_getElem? hn) hj hl
    · rw [enter_of_settled hx]
      rfl
  | @jump c' node t next hc' hn hj hl =>
    rw [hc, Option.some.injEq] at hc'
    subst hc'
    rw [hfirst] at hn
    exact .inr ⟨_, next, rfl, by simp [hjump, hn, hj, hl], Registry.lookup?_self hl, rfl, rfl, rfl⟩

/-- **Entering from the first node** of a registered conversation `c` follows its entry jumps:
the jump limit is reported when `m + 1` of them can be followed, and otherwise at most a
dangling jump is. -/
theorem enter_from_first (m : Nat) {e : Engine} {c : Conversation}
    (hc : e.run.conversation = some c) (hcur : e.run.cursor = none)
    (hreg : e.registry.lookup? c.id = some c) :
    ((Check.follow e.registry.entryJump? (m + 1) (Ident.key c.id)).isSome ∧
      ∃ id, (enter m e).diagnostics =
        e.diagnostics.report (Diagnostic.jumpLimit id e.options.maxHops)) ∨
    (Check.follow e.registry.entryJump? (m + 1) (Ident.key c.id) = none ∧
      ReportsOnly (DanglingJump e.registry) e (enter m e)) := by
  induction m generalizing e c with
  | zero =>
    rcases enterNext_from_first hc hcur hreg with
      ⟨hnone, hrep⟩ | ⟨e', next, hx, hj, -, -, hd, ho⟩
    · exact .inr ⟨by simp [Check.follow, hnone], hrep 0⟩
    · -- no hop is left for the jump
      refine .inl ⟨by simp [Check.follow, hj], next.id, ?_⟩
      rw [enter_zero_of_jump hx, stop_diagnostics, report_diagnostics, hd, ho]
  | succ m ih =>
    rcases enterNext_from_first hc hcur hreg with
      ⟨hnone, hrep⟩ | ⟨e', next, hx, hj, hnext, hr, hd, ho⟩
    · exact .inr ⟨by simp [Check.follow, hnone], hrep (m + 1)⟩
    · -- the hop is taken: the rest is entering `next` from its first node
      have hfollow : Check.follow e.registry.entryJump? (m + 1 + 1) (Ident.key c.id) =
          Check.follow e.registry.entryJump? (m + 1) (Ident.key next.id) := by
        rw [Check.follow, hj, Option.bind_some]
      rw [enter_succ_of_jump hx, hfollow]
      obtain ⟨reg, store, pres, ls, diags, opts, run⟩ := e'
      simp only at hr hd ho
      subst hr hd ho
      exact @ih { (⟨e.registry, store, pres, ls, e.diagnostics, e.options, run⟩ : Engine) with
        run := { run with conversation := some next, cursor := none } } next rfl rfl hnext

/-- **What entering reports**: nothing, a dangling jump of a registered node, or the jump limit
after as many entry jumps as the hops left, followed from a registered key. -/
theorem enter_reportsOnly {n : Nat} {e : Engine} (hn : e.options.maxHops = n)
    (hreg : ∀ c, e.run.conversation = some c → e.registry.lookup? c.id = some c) :
    ReportsOnly (PlayReport e.registry n) e (enter n e) := by
  have hE := enters_enterNext e
  generalize hx : enterNext e = x at hE
  cases hE with
  | noConversation hc =>
    rw [enter_of_settled hx]
    exact .inl rfl
  | pastEnd hc hnode =>
    rw [enter_of_settled hx]
    exact .inl rfl
  | shown hc hnode hj =>
    rw [enter_of_settled hx]
    exact .inl (render_diagnostics _ _)
  | @dangling c node t hc hnode hj hl =>
    rw [enter_of_settled hx]
    exact .inr ⟨_, .danglingJump (.mk (Registry.mem_conversations_of_lookup? (hreg c hc))
      (List.mem_of_getElem? hnode) hj hl), rfl⟩
  | @jump c node t next hc hnode hj hl =>
    have hkey := Registry.key_mem_keys_of_lookup? hl
    cases n with
    | zero =>
      -- no hop is left for the jump
      refine .inr ⟨Diagnostic.jumpLimit next.id 0, .jumpLimit next.id hkey rfl, ?_⟩
      rw [enter_zero_of_jump hx]
      simp [entered, hn]
    | succ m =>
      -- the hop is taken: the rest is entering `next` from its first node
      rw [enter_succ_of_jump hx]
      rcases @enter_from_first m { e.entered node with
          run := { (e.entered node).run with conversation := some next, cursor := none } } next
          rfl rfl (Registry.lookup?_self hl) with ⟨hsome, id, hlim⟩ | ⟨-, hrep⟩
      · refine .inr ⟨Diagnostic.jumpLimit id (m + 1), .jumpLimit id hkey hsome, ?_⟩
        rw [hlim]
        simp [entered, hn]
      · exact (hrep.mono fun d hd => .danglingJump hd).congr rfl rfl

/-! ### Each play reports at most what `PlayReport` lists -/

/-- In a well-formed engine, the run's conversation is registered. -/
theorem WellFormed.registered {e : Engine} (h : e.WellFormed) :
    ∀ c, e.run.conversation = some c → e.registry.lookup? c.id = some c := by
  obtain ⟨reg, store, pres, ls, diags, opts, run⟩ := e
  obtain ⟨hshape⟩ := h
  intro c hc
  cases hshape with
  | idle => cases hc
  | shown pending hn hj hreg hp =>
    cases hc
    exact hreg

/-- In a well-formed engine, a pending choice is one of the choices of a registered node, and
the run is active. -/
theorem WellFormed.choice_of_pending {e : Engine} (h : e.WellFormed) {i : Nat} {ch : Choice}
    (hch : e.run.pending[i]? = some ch) :
    e.run.active = true ∧
      ∃ c node, c ∈ e.registry.conversations ∧ node ∈ c.nodes ∧ ch ∈ node.choices := by
  have hmem : ch ∈ e.run.pending := List.mem_of_getElem? hch
  obtain ⟨c, j, node, hact, -, -, hn, hreg, hpend⟩ :=
    h.run.shown_of_pending (List.ne_nil_of_mem hmem)
  exact ⟨hact, c, node, Registry.mem_conversations_of_lookup? hreg, List.mem_of_getElem? hn,
    hpend ▸ hmem⟩

theorem reportsOnly_advance {e : Engine} (h : e.WellFormed) :
    ReportsOnly (PlayReport e.registry e.options.maxHops) e e.advance := by
  unfold Engine.advance
  split
  · exact .inl rfl
  · exact enter_reportsOnly rfl h.registered

theorem reportsOnly_start (e : Engine) (q : String) :
    ReportsOnly (PlayReport e.registry e.options.maxHops) e (e.start q).2 := by
  unfold Engine.start
  split
  · exact .inr ⟨_, .unknownStart _, rfl⟩
  · rename_i c hc
    split
    · exact .inr ⟨_, .alreadyActive _ _, rfl⟩
    · rw [advance_eq_enter rfl rfl]
      refine enter_reportsOnly rfl fun c' hc' => ?_
      cases hc'
      exact Registry.lookup?_self hc

theorem reportsOnly_choose {e : Engine} (h : e.WellFormed) (i : Nat) :
    ReportsOnly (PlayReport e.registry e.options.maxHops) e (e.choose i) := by
  cases hch : e.run.pending[i]? with
  | none => exact .inl (by simp [Engine.choose, hch])
  | some ch =>
    obtain ⟨hact, c, node, hc, hnode, hchoice⟩ := h.choice_of_pending hch
    cases hmiss : e.registry.lookup? ch.target with
    | none =>
      -- the choice leads nowhere: that is reported, and nothing else
      refine .inr ⟨_, .danglingChoice hc hnode hchoice hmiss, ?_⟩
      simp [Engine.choose, hch, hmiss, Engine.notFound]
    | some next =>
      simp only [Engine.choose, hch, hmiss]
      rw [advance_eq_enter (by simpa using hact) rfl]
      refine enter_reportsOnly rfl fun c' hc' => ?_
      cases hc'
      exact Registry.lookup?_self hmiss

/-- The operations of play: starting, advancing, choosing, ending and dispatching. -/
def Op.plays : Op → Bool
  | .start _ | .advance | .choose _ | .stop | .dispatch _ => true
  | _ => false

/-- **Every play reports at most one diagnostic, and one that `PlayReport` lists.** -/
theorem WellFormed.reportsOnly_play {e : Engine} (h : e.WellFormed) :
    ∀ op : Op, op.plays = true → ReportsOnly (PlayReport e.registry e.options.maxHops) e (op.apply e)
  | .start q, _ => reportsOnly_start e q
  | .advance, _ => reportsOnly_advance h
  | .choose i, _ => reportsOnly_choose h i
  | .stop, _ => .inl rfl
  | .dispatch c, _ => by
    rcases dispatch_cases e c with hc | hc <;> rw [Op.apply, hc]
    · exact .inl rfl
    · cases c with
      | advance => exact reportsOnly_advance h
      | choose i => exact reportsOnly_choose h i
      | start q => exact reportsOnly_start e q
      | stop => exact .inl rfl

theorem advance_frame (e : Engine) :
    e.advance.registry = e.registry ∧ e.advance.options = e.options := by
  unfold Engine.advance
  split
  · exact ⟨rfl, rfl⟩
  · exact enter_frame _ e

theorem start_frame (e : Engine) (q : String) :
    (e.start q).2.registry = e.registry ∧ (e.start q).2.options = e.options := by
  unfold Engine.start
  split
  · exact ⟨rfl, rfl⟩
  · split
    · exact ⟨rfl, rfl⟩
    · exact advance_frame _

theorem choose_frame (e : Engine) (i : Nat) :
    (e.choose i).registry = e.registry ∧ (e.choose i).options = e.options := by
  unfold Engine.choose
  split
  · exact ⟨rfl, rfl⟩
  · split
    · exact ⟨by simp, by simp⟩
    · exact advance_frame _

/-- Playing changes neither the registry nor the options. -/
theorem Op.play_frame (e : Engine) (op : Op) (hop : op.plays = true) :
    (op.apply e).registry = e.registry ∧ (op.apply e).options = e.options := by
  cases op with
  | start q =>
    rw [Op.apply]
    exact start_frame e q
  | advance =>
    rw [Op.apply]
    exact advance_frame e
  | choose i =>
    rw [Op.apply]
    exact choose_frame e i
  | stop => exact ⟨rfl, rfl⟩
  | dispatch c =>
    rcases dispatch_cases e c with hc | hc <;> rw [Op.apply, hc]
    · exact ⟨rfl, rfl⟩
    · cases c <;> simp only [Op.ofCommand, Op.apply]
      · exact advance_frame e
      · exact choose_frame e _
      · exact start_frame e _
      · exact ⟨rfl, rfl⟩
  | load | loadParsed | takeDiagnostics | subscribe => cases hop

/-! ### Whole runs of plays -/

/-- Every step of a run of operations reports nothing, or one diagnostic satisfying `P`. -/
def ReportsAlong (P : Diagnostic → Prop) : Engine → List Op → Prop
  | _, [] => True
  | e, op :: ops => ReportsOnly P e (op.apply e) ∧ ReportsAlong P (op.apply e) ops

theorem ReportsAlong.mono {e : Engine} {ops : List Op} (h : ReportsAlong P e ops)
    (hPQ : ∀ d, P d → Q d) : ReportsAlong Q e ops := by
  induction ops generalizing e with
  | nil => trivial
  | cons op ops ih => exact ⟨h.1.mono hPQ, ih h.2⟩

/-- **Playing reports only what `PlayReport` lists**, at every step of every run of plays. -/
theorem WellFormed.reportsAlong_plays {e : Engine} (h : e.WellFormed) (ops : List Op)
    (hops : ∀ op ∈ ops, op.plays = true) :
    ReportsAlong (PlayReport e.registry e.options.maxHops) e ops := by
  induction ops generalizing e with
  | nil => trivial
  | cons op ops ih =>
    have hop := hops op List.mem_cons_self
    obtain ⟨hr, ho⟩ := Op.play_frame e op hop
    have hrest := ih (h.apply op) fun op' h' => hops op' (List.mem_cons_of_mem _ h')
    rw [hr, ho] at hrest
    exact ⟨h.reportsOnly_play op hop, hrest⟩

/-- A run of plays keeps the invariant, the registry and the options. -/
theorem WellFormed.runOps_plays {e : Engine} (h : e.WellFormed) (ops : List Op)
    (hops : ∀ op ∈ ops, op.plays = true) :
    (e.runOps ops).WellFormed ∧ (e.runOps ops).registry = e.registry ∧
      (e.runOps ops).options = e.options := by
  induction ops generalizing e with
  | nil => exact ⟨h, rfl, rfl⟩
  | cons op ops ih =>
    obtain ⟨hr, ho⟩ := Op.play_frame e op (hops op List.mem_cons_self)
    obtain ⟨hwf', hr', ho'⟩ := ih (h.apply op) fun op' h' => hops op' (List.mem_cons_of_mem _ h')
    exact ⟨hwf', hr'.trans hr, ho'.trans ho⟩

end Engine

/-! ### What the check reports -/

namespace Document

variable {d : Document}

theorem mem_check_of_danglingAt {c : Conversation}
    (hc : c ∈ (Registry.ofDocument d).conversations) {i : Nat} {node : Node}
    (hn : c.nodes[i]? = some node) {x : Diagnostic}
    (hx : x ∈ Check.danglingAt (Registry.ofDocument d) (Registry.ofDocument d).knownIds c.id
      node i) : x ∈ d.check := by
  unfold Document.check Check.dangling
  exact List.mem_append_left _ (List.mem_flatMap.mpr ⟨c, hc,
    List.mem_flatMap.mpr ⟨(node, i), List.mem_zipIdx_iff_getElem?.mpr hn, hx⟩⟩)

/-- **The check reports every dangling jump** of a registered node, at its place. -/
theorem check_reports_jump {c : Conversation} {node : Node} {t : String}
    (hc : c ∈ (Registry.ofDocument d).conversations) (hnode : node ∈ c.nodes)
    (hj : node.jumpTarget? = some t) (hl : (Registry.ofDocument d).lookup? t = none) :
    ∃ i : Nat, c.nodes[i]? = some node ∧
      Diagnostic.notFound "CHECK_JUMP_TARGET_NOT_FOUND" (c.id ++ "[" ++ toString i ++ "]" ++ " goto") t
        (Registry.ofDocument d).knownIds ∈ d.check := by
  obtain ⟨i, hi⟩ := List.mem_iff_getElem?.mp hnode
  refine ⟨i, hi, mem_check_of_danglingAt hc hi ?_⟩
  simp [Check.danglingAt, hj, Registry.contains, hl]

/-- **The check reports every dangling choice** of a registered node, at its place. -/
theorem check_reports_choice {c : Conversation} {node : Node} {ch : Choice}
    (hc : c ∈ (Registry.ofDocument d).conversations) (hnode : node ∈ c.nodes)
    (hch : ch ∈ node.choices) (hl : (Registry.ofDocument d).lookup? ch.target = none) :
    ∃ i : Nat, c.nodes[i]? = some node ∧
      Diagnostic.notFound "CHECK_CHOICE_TARGET_NOT_FOUND" (c.id ++ "[" ++ toString i ++ "]" ++ " choice goto")
        ch.target (Registry.ofDocument d).knownIds ∈ d.check := by
  obtain ⟨i, hi⟩ := List.mem_iff_getElem?.mp hnode
  refine ⟨i, hi, mem_check_of_danglingAt hc hi ?_⟩
  unfold Check.danglingAt
  exact List.mem_append_right _ (List.mem_filterMap.mpr ⟨ch, hch, by simp [Registry.contains, hl]⟩)

/-- **The check reports every cycle it finds.** -/
theorem check_reports_cycle {C : List String × String}
    (hC : C ∈ Check.foundCycles (Registry.ofDocument d)) :
    Check.cycleDiagnostic C.1 C.2 ∈ d.check := by
  unfold Document.check Check.cycles
  exact List.mem_append_right _ (List.mem_map.mpr ⟨C, hC, rfl⟩)

end Document

namespace Engine

/-! ### What the check foresees -/

section Foresees

variable {d : Document} {hops : Nat} {x : Diagnostic}

/-- Without a dangling jump in the check, play reports none. -/
theorem PlayReport.code_ne_jumpTarget
    (hd : ∀ y ∈ d.check, y.code ≠ "CHECK_JUMP_TARGET_NOT_FOUND")
    (hx : PlayReport (Registry.ofDocument d) hops x) : x.code ≠ "ENGINE_JUMP_TARGET_NOT_FOUND" := by
  cases hx with
  | danglingJump hj =>
    obtain ⟨hc, hnode, hj, hl⟩ := hj
    obtain ⟨i, -, hmem⟩ := Document.check_reports_jump hc hnode hj hl
    exact absurd rfl (hd _ hmem)
  | unknownStart => simp [Diagnostic.notFound]
  | alreadyActive => simp [Diagnostic.alreadyActive]
  | danglingChoice => simp [Diagnostic.notFound]
  | jumpLimit => simp [Diagnostic.jumpLimit]

/-- Without a dangling choice in the check, play reports none. -/
theorem PlayReport.code_ne_choiceTarget
    (hd : ∀ y ∈ d.check, y.code ≠ "CHECK_CHOICE_TARGET_NOT_FOUND")
    (hx : PlayReport (Registry.ofDocument d) hops x) :
    x.code ≠ "ENGINE_CHOICE_TARGET_NOT_FOUND" := by
  cases hx with
  | danglingChoice hc hnode hch hl =>
    obtain ⟨i, -, hmem⟩ := Document.check_reports_choice hc hnode hch hl
    exact absurd rfl (hd _ hmem)
  | unknownStart => simp [Diagnostic.notFound]
  | alreadyActive => simp [Diagnostic.alreadyActive]
  | danglingJump hj =>
    obtain ⟨-, -, -, -⟩ := hj
    simp [Diagnostic.notFound]
  | jumpLimit => simp [Diagnostic.jumpLimit]

/-- Without a cycle in the check, and with at least as many hops as conversations, play never
reaches the jump limit: a chain of that many entry jumps would pass an endless key, and from
there run into a cycle the check keeps. -/
theorem PlayReport.kind_ne_jumpLimit (hd : ∀ y ∈ d.check, y.code ≠ "CHECK_JUMP_CYCLE")
    (hhops : (Registry.ofDocument d).size ≤ hops)
    (hx : PlayReport (Registry.ofDocument d) hops x) : x.kind ≠ .jumpLimitExceeded := by
  cases hx with
  | jumpLimit id hk hsome =>
    obtain ⟨i, m, -, hm⟩ := Registry.endless_of_follow hk hhops hsome
    obtain ⟨C, hC, -⟩ := Check.reaches_foundCycles_of_endless hm
    exact absurd rfl (hd _ (Document.check_reports_cycle hC))
  | unknownStart => simp [Diagnostic.notFound]
  | alreadyActive => simp [Diagnostic.alreadyActive]
  | danglingChoice => simp [Diagnostic.notFound]
  | danglingJump hj =>
    obtain ⟨-, -, -, -⟩ := hj
    simp [Diagnostic.notFound]

end Foresees

/-! ### Starting into a cycle -/

/-- A start from an idle engine enters the started conversation from its first node. -/
theorem start_of_idle {e : Engine} (hidle : e.run.active = false) {q : String} {c : Conversation}
    (hq : e.registry.lookup? q = some c) :
    (e.start q).2 = enter e.options.maxHops { e with run := { active := true, conversation := some c } } := by
  simp only [Engine.start, hq, hidle, Bool.false_and, Bool.false_eq_true, if_false]
  exact advance_eq_enter rfl rfl

/-- **A start from an idle engine reaches the jump limit exactly when the entry jumps from the
started id run into a cycle the check keeps**, given at least as many hops as conversations. -/
theorem start_reaches_limit_iff {e : Engine}
    (hhops : e.registry.size ≤ e.options.maxHops) (hidle : e.run.active = false) {q : String}
    {c : Conversation} (hq : e.registry.lookup? q = some c) :
    (∃ x, x.kind = .jumpLimitExceeded ∧ (e.start q).2.diagnostics = e.diagnostics.report x) ↔
      ∃ m, Relation.ReflTransGen (fun a b => e.registry.entryJump? a = some b) (Ident.key q) m ∧
        ∃ C ∈ Check.foundCycles e.registry, m ∈ C.1 := by
  have hkey : Ident.key c.id = Ident.key q := Registry.key_id_of_lookup? hq
  rw [start_of_idle hidle hq]
  simp only [Check.reflTransGen_iff_follow]
  rcases @enter_from_first e.options.maxHops { e with run := { active := true, conversation := some c } }
      c rfl rfl (Registry.lookup?_self hq) with ⟨hsome, id, hlim⟩ | ⟨hnone, hrep⟩
  · -- the limit is reported, and so many entry jumps pass an endless key, which runs into a cycle
    rw [hkey] at hsome
    refine ⟨fun _ => ?_, fun _ => ⟨_, rfl, hlim⟩⟩
    have hk : Ident.key q ∈ e.registry.keys := hkey ▸ Registry.key_mem_keys_of_lookup? hq
    obtain ⟨i, m₁, hi, hm₁⟩ := Registry.endless_of_follow hk (by omega) hsome
    obtain ⟨C, hC, m, hm, j, hj⟩ := Check.reaches_foundCycles_of_endless hm₁
    exact ⟨m, ⟨i + j, by rw [Check.follow_add, hi, Option.bind_some, hj]⟩, C, hC, hm⟩
  · rw [hkey] at hnone
    constructor
    · -- only a dangling jump could have been reported
      rintro ⟨x, hx, hlim⟩
      obtain ⟨-, -, -, -⟩ := hrep.of_report hlim
      simp [Diagnostic.notFound] at hx
    · -- a key of a kept cycle is endless, and so is every key that reaches it
      rintro ⟨m, ⟨i, hi⟩, C, hC, hm⟩
      have hend := (Check.endless_of_mem_foundCycles hC hm).of_reaches hi
      have hfar := hend (e.options.maxHops + 1)
      rw [hnone] at hfar
      cases hfar

/-! ### The check foresees play -/

/-- What the check of `d` foresees of the plays of `e`. -/
structure CheckForesees (d : Document) (e : Engine) : Prop where
  /-- Without a dangling jump in the check, no play reports one. -/
  jumps : (∀ x ∈ d.check, x.code ≠ "CHECK_JUMP_TARGET_NOT_FOUND") → ∀ ops : List Op,
    (∀ op ∈ ops, op.plays = true) → e.ReportsAlong (·.code ≠ "ENGINE_JUMP_TARGET_NOT_FOUND") ops
  /-- Without a dangling choice in the check, no play reports one. -/
  choices : (∀ x ∈ d.check, x.code ≠ "CHECK_CHOICE_TARGET_NOT_FOUND") → ∀ ops : List Op,
    (∀ op ∈ ops, op.plays = true) →
      e.ReportsAlong (·.code ≠ "ENGINE_CHOICE_TARGET_NOT_FOUND") ops
  /-- Without a cycle in the check, no play reaches the jump limit. -/
  cycles : (∀ x ∈ d.check, x.code ≠ "CHECK_JUMP_CYCLE") → ∀ ops : List Op,
    (∀ op ∈ ops, op.plays = true) → e.ReportsAlong (·.kind ≠ .jumpLimitExceeded) ops
  /-- After any plays, a start from an idle engine reaches the jump limit exactly when the
  entry jumps from the started id run into a cycle the check reports. -/
  start : ∀ ops : List Op, (∀ op ∈ ops, op.plays = true) → (e.runOps ops).run.active = false →
    ∀ q c, (Registry.ofDocument d).lookup? q = some c →
      ((∃ x, x.kind = .jumpLimitExceeded ∧
          ((e.runOps ops).start q).2.diagnostics = (e.runOps ops).diagnostics.report x) ↔
        ∃ m, Relation.ReflTransGen (fun a b => (Registry.ofDocument d).entryJump? a = some b)
            (Ident.key q) m ∧ ∃ C ∈ Check.foundCycles (Registry.ofDocument d), m ∈ C.1)

/-- **The check foresees play.** For an engine holding the conversations of `d` (as after
loading `d`), with at least as many hops as conversations: what the check does not report,
no run of plays reports, and a start from an idle engine reaches the jump limit exactly when the
entry jumps from the started id run into a cycle the check reports. -/
theorem check_foresees_play {d : Document} {e : Engine} (hreg : e.registry = Registry.ofDocument d)
    (hwf : e.WellFormed) (hhops : (Registry.ofDocument d).size ≤ e.options.maxHops) :
    CheckForesees d e := by
  have hplays := hwf.reportsAlong_plays
  rw [hreg] at hplays
  refine ⟨fun hd ops hops => ?_, fun hd ops hops => ?_, fun hd ops hops => ?_, ?_⟩
  · exact (hplays ops hops).mono fun x hx => hx.code_ne_jumpTarget hd
  · exact (hplays ops hops).mono fun x hx => hx.code_ne_choiceTarget hd
  · exact (hplays ops hops).mono fun x hx => hx.kind_ne_jumpLimit hd hhops
  · intro ops hops hidle q c hq
    obtain ⟨-, hreg', hopts'⟩ := hwf.runOps_plays ops hops
    rw [← hreg, ← hreg']
    rw [← hreg, ← hreg'] at hq
    exact start_reaches_limit_iff (by rw [hreg', hopts', hreg]; exact hhops) hidle hq

/-- Loading two rooms into a new engine: the check foresees every run of plays. -/
theorem twoRooms_check_foresees_play :
    ((Op.loadParsed twoRooms).apply (Engine.new {} {})).registry = Registry.ofDocument twoRooms ∧
    ((Op.loadParsed twoRooms).apply (Engine.new {} {})).WellFormed ∧
    (Registry.ofDocument twoRooms).size ≤
      ((Op.loadParsed twoRooms).apply (Engine.new {} {})).options.maxHops ∧
    CheckForesees twoRooms ((Op.loadParsed twoRooms).apply (Engine.new {} {})) :=
  have hreg : ((Op.loadParsed twoRooms).apply (Engine.new {} {})).registry =
      Registry.ofDocument twoRooms := rfl
  have hwf := (wellFormed_new {} {}).apply (.loadParsed twoRooms)
  have hhops : (Registry.ofDocument twoRooms).size ≤
      ((Op.loadParsed twoRooms).apply (Engine.new {} {})).options.maxHops :=
    (Registry.size_ofDocument_le twoRooms).trans (by decide)
  ⟨hreg, hwf, hhops, check_foresees_play hreg hwf hhops⟩

end Engine

end Colloquy
