import Mathlib.Data.List.DropRight
import Colloquy.Proofs.CheckedPlay
/-!
# The diagnostic log keeps a window of the newest reports

A log made by `DiagnosticLog.withLimit L` holds at most `max L 1` diagnostics. A host drives it
by two calls (`DiagnosticLog.Call`): a report, and a take that hands over the entries and
empties the log. Of the diagnostics reported since the last take, the log keeps the newest
`max L 1` in the order reported, and counts the others as dropped (`DiagnosticLog.Keeps`).

The proof follows one report at a time. While fewer than the limit were reported, the entries
are all of them, so a report appends. From then on the entries are exactly as many as the
limit, which is the one case where a report drops the oldest: the window slides by one and the
count of drops grows by one (`Keeps.report`). A take starts the window afresh (`Keeps.take`).

An engine drives its own log with the same two calls: `takeDiagnostics` takes, and every other
operation reports one diagnostic or none, and never touches the log otherwise
(`Engine.LogCalls`). The calls are fixed by the run (`LogCalls.unique`), and every run of an
engine from `Engine.new` has them (`WellFormed.logCalls`). Since a new engine's log is
`withLimit defaultDiagnosticLimit`, the engine's log keeps the window of what its operations
reported (`log_keeps_window`).
-/

namespace Colloquy

namespace DiagnosticLog

/-- A call made on a log: a report, or a take. -/
inductive Call where
  | report (d : Diagnostic)
  | take

/-- Makes one call, forgetting what a take hands over. -/
def call (l : DiagnosticLog) : Call → DiagnosticLog
  | .report d => l.report d
  | .take => l.take.2

/-- Makes calls in order. -/
def runCalls (l : DiagnosticLog) (cs : List Call) : DiagnosticLog :=
  cs.foldl call l

/-- The reports standing after a call, given those `ds` standing before: a report adds its
diagnostic, and a take leaves none. -/
def Call.standing (ds : List Diagnostic) : Call → List Diagnostic
  | .report d => ds ++ [d]
  | .take => []

/-- The diagnostics reported after the last take, in order. -/
def Call.sinceTake (cs : List Call) : List Diagnostic :=
  cs.foldl Call.standing []

@[simp] theorem runCalls_nil (l : DiagnosticLog) : l.runCalls [] = l := rfl

@[simp] theorem runCalls_cons (l : DiagnosticLog) (c : Call) (cs : List Call) :
    l.runCalls (c :: cs) = (l.call c).runCalls cs := rfl

/-- **What a log of limit `L` keeps of the reports `ds`**: the last `max L 1` of them, in
order, with the others counted as dropped. -/
structure Keeps (L : Nat) (ds : List Diagnostic) (l : DiagnosticLog) : Prop where
  limit : l.limit = max L 1
  entries : l.entries = ds.rtake (max L 1)
  dropped : l.dropped = ds.length - min ds.length (max L 1)

theorem keeps_withLimit (L : Nat) : Keeps L [] (withLimit L) :=
  ⟨rfl, by simp [withLimit], by simp [withLimit]⟩

theorem length_rtake (ds : List Diagnostic) (n : Nat) :
    (ds.rtake n).length = min ds.length n := by
  simp only [List.rtake, List.length_drop]
  omega

/-- Sliding a full window: the newest `k` of a list longer than `k` are the newest `k + 1`
without the oldest. -/
theorem tail_rtake {ds : List Diagnostic} {k : Nat} (h : k < ds.length) :
    (ds.rtake (k + 1)).tail = ds.rtake k := by
  simp only [List.rtake, List.tail_drop]
  congr 1
  omega

/-- While the reports fit, the log keeps them all. -/
theorem rtake_of_length_le {ds : List Diagnostic} {m : Nat} (h : ds.length ≤ m) :
    ds.rtake m = ds := by
  simp [List.rtake, Nat.sub_eq_zero_of_le h]

/-- **A report** slides the window by one once it is full, and otherwise widens it. -/
theorem Keeps.report {L : Nat} {ds : List Diagnostic} {l : DiagnosticLog} (h : Keeps L ds l)
    (d : Diagnostic) : Keeps L (ds ++ [d]) (l.report d) := by
  obtain ⟨hlim, hent, hdrop⟩ := h
  have hlen : l.entries.length = min ds.length (max L 1) := by rw [hent, length_rtake]
  unfold DiagnosticLog.report
  split
  · -- the log is full: at least `max L 1` were reported, and the oldest kept one goes
    rename_i hfull
    have hmore : max L 1 ≤ ds.length := by omega
    obtain ⟨k, hk⟩ : ∃ k, max L 1 = k + 1 := ⟨max L 1 - 1, by omega⟩
    refine ⟨hlim, ?_, ?_⟩
    · simp only [hent, hk, List.rtake_concat_succ]
      rw [tail_rtake (by omega)]
    · simp only [hdrop, List.length_append, List.length_singleton]
      omega
  · -- fewer than the limit were reported: the new one is appended
    rename_i hroom
    have hless : ds.length < max L 1 := by omega
    have hfit : (ds ++ [d]).length ≤ max L 1 := by
      rw [List.length_append, List.length_singleton]
      omega
    refine ⟨hlim, ?_, ?_⟩
    · simp only [hent, rtake_of_length_le hless.le, rtake_of_length_le hfit]
    · simp only [hdrop, List.length_append, List.length_singleton]
      omega

/-- **A take** hands over the window and starts a fresh log of the same limit. -/
theorem Keeps.take {L : Nat} {ds : List Diagnostic} {l : DiagnosticLog} (h : Keeps L ds l) :
    l.take = (ds.rtake (max L 1), withLimit L) := by
  obtain ⟨hlim, hent, -⟩ := h
  simp [DiagnosticLog.take, withLimit, hent, ← hlim]

theorem Keeps.call {L : Nat} {ds : List Diagnostic} {l : DiagnosticLog} (h : Keeps L ds l) :
    ∀ c : Call, Keeps L (Call.standing ds c) (l.call c)
  | .report d => h.report d
  | .take => by
    rw [DiagnosticLog.call, h.take]
    exact keeps_withLimit L

theorem Keeps.runCalls {L : Nat} {ds : List Diagnostic} {l : DiagnosticLog} (h : Keeps L ds l)
    (cs : List Call) : Keeps L (cs.foldl Call.standing ds) (l.runCalls cs) := by
  induction cs generalizing ds l with
  | nil => exact h
  | cons c cs ih => exact ih (h.call c)

/-- **The log is a bounded first-in first-out window.** After any calls on a log made with the
limit `L`, it keeps the last `max L 1` of the diagnostics reported since the last take, in
order, and counts the others as dropped; a take hands over exactly those it keeps and leaves a
fresh log. -/
theorem withLimit_keeps (L : Nat) (cs : List Call) :
    Keeps L (Call.sinceTake cs) ((withLimit L).runCalls cs) ∧
      ((withLimit L).runCalls cs).take = ((Call.sinceTake cs).rtake (max L 1), withLimit L) :=
  have h := (keeps_withLimit L).runCalls cs
  ⟨h, h.take⟩

end DiagnosticLog

namespace Engine

open DiagnosticLog (Call)

/-- **The calls a run makes on the engine's log**: a take for `takeDiagnostics`, and for every
other operation one report, or none when it leaves the log as it was. -/
inductive LogCalls : Engine → List Op → List Call → Prop
  | nil (e : Engine) : LogCalls e [] []
  | take {e : Engine} {ops : List Op} {cs : List Call} :
      LogCalls (Op.takeDiagnostics.apply e) ops cs →
      LogCalls e (.takeDiagnostics :: ops) (.take :: cs)
  | quiet {e : Engine} {op : Op} {ops : List Op} {cs : List Call} : op ≠ .takeDiagnostics →
      (op.apply e).diagnostics = e.diagnostics → LogCalls (op.apply e) ops cs →
      LogCalls e (op :: ops) cs
  | report {e : Engine} {op : Op} {ops : List Op} {cs : List Call} (d : Diagnostic) :
      op ≠ .takeDiagnostics → (op.apply e).diagnostics = e.diagnostics.report d →
      LogCalls (op.apply e) ops cs → LogCalls e (op :: ops) (.report d :: cs)

/-- The log after a run is the log before it, with the run's calls made. -/
theorem LogCalls.diagnostics {e : Engine} {ops : List Op} {cs : List Call}
    (h : LogCalls e ops cs) : (e.runOps ops).diagnostics = e.diagnostics.runCalls cs := by
  induction h with
  | nil => rfl
  | take _ ih => exact ih
  | quiet _ hq _ ih => rw [runOps_cons, ih, hq]
  | report d _ hr _ ih => rw [runOps_cons, ih, hr]; rfl

/-- **The calls are fixed by the run**: a report changes the log, and changes it differently
for different diagnostics. -/
theorem LogCalls.unique {e : Engine} {ops : List Op} {cs cs' : List Call}
    (h : LogCalls e ops cs) (h' : LogCalls e ops cs') : cs = cs' := by
  induction h generalizing cs' with
  | nil => cases h'; rfl
  | take _ ih =>
    cases h' with
    | take h' => rw [ih h']
    | quiet hne => exact absurd rfl hne
    | report _ hne => exact absurd rfl hne
  | quiet hne hq _ ih =>
    cases h' with
    | take => exact absurd rfl hne
    | quiet _ _ h' => exact ih h'
    | report d _ hr => exact absurd (hr.symm.trans hq) (DiagnosticLog.report_ne_self _ d)
  | report d hne hr _ ih =>
    cases h' with
    | take => exact absurd rfl hne
    | quiet _ hq => exact absurd (hr.symm.trans hq) (DiagnosticLog.report_ne_self _ d)
    | report d' _ hr' h' =>
      rw [DiagnosticLog.report_injective _ (hr.symm.trans hr'), ih h']

theorem stopIfActive_diagnostics (e : Engine) : e.stopIfActive.diagnostics = e.diagnostics := by
  unfold stopIfActive
  split <;> rfl

theorem reportsOnly_loadParsed (e : Engine) (d : Document) :
    ReportsOnly (fun _ => True) e (e.loadParsed d) :=
  .inl (stopIfActive_diagnostics e)

/-- Ending the run first leaves the log alone, and a document that fails to read is
reported. -/
theorem reportsOnly_load (e : Engine) (source : String) :
    ReportsOnly (fun _ => True) e (e.load source).2 := by
  unfold Engine.load
  simp only
  split
  · exact .inl (stopIfActive_diagnostics e)
  · rename_i f _
    split <;> exact .inr ⟨Diagnostic.document f, trivial, by simp [stopIfActive_diagnostics]⟩

/-- **Every operation but a take reports at most one diagnostic** and leaves the log alone
otherwise. -/
theorem WellFormed.reportsOnly_apply {e : Engine} (h : e.WellFormed) :
    ∀ op : Op, op ≠ .takeDiagnostics → ReportsOnly (fun _ => True) e (op.apply e)
  | .load s, _ => reportsOnly_load e s
  | .loadParsed d, _ => reportsOnly_loadParsed e d
  | .subscribe _, _ => .inl rfl
  | .takeDiagnostics, hne => absurd rfl hne
  | .start q, _ => (h.reportsOnly_play (.start q) rfl).mono fun _ _ => trivial
  | .advance, _ => (h.reportsOnly_play .advance rfl).mono fun _ _ => trivial
  | .choose i, _ => (h.reportsOnly_play (.choose i) rfl).mono fun _ _ => trivial
  | .stop, _ => (h.reportsOnly_play .stop rfl).mono fun _ _ => trivial
  | .dispatch c, _ => (h.reportsOnly_play (.dispatch c) rfl).mono fun _ _ => trivial

/-- Every run from a well-formed engine makes calls on its log. -/
theorem WellFormed.logCalls {e : Engine} (h : e.WellFormed) (ops : List Op) :
    ∃ cs, LogCalls e ops cs := by
  induction ops generalizing e with
  | nil => exact ⟨[], .nil e⟩
  | cons op ops ih =>
    obtain ⟨cs, hcs⟩ := ih (h.apply op)
    by_cases hop : op = .takeDiagnostics
    · subst hop
      exact ⟨.take :: cs, .take hcs⟩
    · rcases h.reportsOnly_apply op hop with hq | ⟨d, -, hr⟩
      · exact ⟨cs, .quiet hop hq hcs⟩
      · exact ⟨.report d :: cs, .report d hop hr hcs⟩

theorem new_diagnostics (o : EngineOptions) (p : Presentation) :
    (Engine.new o p).diagnostics = DiagnosticLog.withLimit defaultDiagnosticLimit := rfl

/-- **The log of a bounded first-in first-out window, and the engine's log is one.** After any
calls on a log made with the limit `L`, it keeps the last `max L 1` of the diagnostics reported
since the last take, in order, counts the others as dropped, and a take hands over exactly
those and leaves a fresh log. An engine from `Engine.new` drives its log with the calls its
operations make, which the run fixes; so after every run the engine's log keeps, with the limit
`defaultDiagnosticLimit`, the window of what its operations reported since the last take, and
taking the diagnostics hands over that window. -/
theorem log_keeps_window :
    (∀ (L : Nat) (cs : List Call),
      DiagnosticLog.Keeps L (Call.sinceTake cs) ((DiagnosticLog.withLimit L).runCalls cs) ∧
      ((DiagnosticLog.withLimit L).runCalls cs).take =
        ((Call.sinceTake cs).rtake (max L 1), DiagnosticLog.withLimit L)) ∧
    ∀ (o : EngineOptions) (p : Presentation) (ops : List Op), ∃ cs,
      LogCalls (Engine.new o p) ops cs ∧ (∀ cs', LogCalls (Engine.new o p) ops cs' → cs' = cs) ∧
      DiagnosticLog.Keeps defaultDiagnosticLimit (Call.sinceTake cs)
        ((Engine.new o p).runOps ops).diagnostics ∧
      ((Engine.new o p).runOps ops).takeDiagnostics.1 =
        (Call.sinceTake cs).rtake (max defaultDiagnosticLimit 1) := by
  refine ⟨DiagnosticLog.withLimit_keeps, fun o p ops => ?_⟩
  obtain ⟨cs, hcs⟩ := (wellFormed_new o p).logCalls ops
  -- the log after the run is a fresh log of the engine's limit with the run's calls made
  have hlog : ((Engine.new o p).runOps ops).diagnostics =
      (DiagnosticLog.withLimit defaultDiagnosticLimit).runCalls cs := by
    rw [hcs.diagnostics, new_diagnostics]
  obtain ⟨hkeeps, htake⟩ := DiagnosticLog.withLimit_keeps defaultDiagnosticLimit cs
  refine ⟨cs, hcs, fun cs' h' => (hcs.unique h').symm, hlog ▸ hkeeps, ?_⟩
  simp only [takeDiagnostics, hlog, htake]

end Engine

end Colloquy
