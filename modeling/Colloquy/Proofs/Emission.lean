import Colloquy.Proofs.DiagnosticWindow
import Colloquy.Proofs.Transcript
import Colloquy.Proofs.EngineCreation
/-!
# What an engine hands to its host

A host records the events of an engine and takes its diagnostics. Between two takes it is
handed what the engine *emitted* and *reported* meanwhile. `Engine.Emits e e' u ds` says that
from `e` to `e'` the engine emitted the events `u` and reported the diagnostics `ds`, in order,
and changed its record of them in no other way.

Every operation but a take and a subscription shows what it changed (`Engine.Shows`) and
reports at most one diagnostic (`WellFormed.reportsOnly_apply`), so it emits in this sense
(`WellFormed.emits_apply`). Emitting composes along a run (`Emits.trans`,
`WellFormed.emits_runOps`), and `Engine.create` emits what starting the entry emits
(`Engine.create_emits`).

What a host is handed then follows: a recording presentation holds the events emitted since it
was emptied (`Emits.events`), and a log that kept the window of the reports before keeps the
window of the reports after (`Emits.keeps`).
-/

namespace Colloquy

/-! ### More reports -/

namespace DiagnosticLog

open DiagnosticLog (Call)

theorem runCalls_append (l : DiagnosticLog) (cs cs' : List Call) :
    l.runCalls (cs ++ cs') = (l.runCalls cs).runCalls cs' := by
  simp [runCalls, List.foldl_append]

/-- Reports made after `ds₀` stand after them. -/
theorem foldl_standing_reports (ds₀ ds : List Diagnostic) :
    (ds.map Call.report).foldl Call.standing ds₀ = ds₀ ++ ds := by
  induction ds generalizing ds₀ with
  | nil => simp
  | cons d ds ih => simp [Call.standing, ih]

/-- A log that keeps the window of the reports `ds₀` keeps the window of `ds₀ ++ ds` once `ds`
are reported. -/
theorem Keeps.reports {L : Nat} {ds₀ : List Diagnostic} {l : DiagnosticLog} (h : Keeps L ds₀ l)
    (ds : List Diagnostic) : Keeps L (ds₀ ++ ds) (l.runCalls (ds.map Call.report)) := by
  have h' := h.runCalls (ds.map Call.report)
  rwa [foldl_standing_reports] at h'

/-- While the reports fit in the window, the log holds them all. -/
theorem Keeps.entries_eq {L : Nat} {ds : List Diagnostic} {l : DiagnosticLog} (h : Keeps L ds l)
    (hfit : ds.length ≤ max L 1) : l.entries = ds := by
  rw [h.entries, rtake_of_length_le hfit]

end DiagnosticLog

namespace Engine

open DiagnosticLog (Call)

/-! ### Emitting and reporting -/

/-- **From `e` to `e'` the engine emitted `u` and reported `ds`**, in order, and changed its
presentation and its log in no other way. -/
structure Emits (e e' : Engine) (u : List Event) (ds : List Diagnostic) : Prop where
  presentation : e'.presentation = e.presentation.emitAll u
  diagnostics : e'.diagnostics = e.diagnostics.runCalls (ds.map Call.report)

/-- A step that leaves the presentation and the log alone emits nothing. -/
theorem Emits.stay {e e' : Engine} (hp : e'.presentation = e.presentation)
    (hd : e'.diagnostics = e.diagnostics) : Emits e e' [] [] :=
  ⟨by simpa [Presentation.emitAll] using hp, hd⟩

theorem Emits.trans {e₁ e₂ e₃ : Engine} {u u' : List Event} {ds ds' : List Diagnostic}
    (h : Emits e₁ e₂ u ds) (h' : Emits e₂ e₃ u' ds') : Emits e₁ e₃ (u ++ u') (ds ++ ds') := by
  refine ⟨?_, ?_⟩
  · rw [h'.presentation, h.presentation, Presentation.emitAll_append]
  · rw [h'.diagnostics, h.diagnostics, List.map_append, DiagnosticLog.runCalls_append]

/-- A recording presentation emptied at `e` holds, at `e'`, exactly the events emitted. -/
theorem Emits.events {e e' : Engine} {u : List Event} {ds : List Diagnostic} (h : Emits e e' u ds)
    (hatt : e.presentation.attached = true) (hnone : e.presentation.events = #[]) :
    e'.presentation.events.toList = u := by
  rw [h.presentation, Presentation.events_emitAll hatt, hnone]
  rfl

theorem Emits.attached {e e' : Engine} {u : List Event} {ds : List Diagnostic}
    (h : Emits e e' u ds) : e'.presentation.attached = e.presentation.attached := by
  rw [h.presentation, Presentation.attached_emitAll]

/-- A log keeping the window of the reports `ds₀` at `e` keeps that of `ds₀ ++ ds` at `e'`. -/
theorem Emits.keeps {e e' : Engine} {u : List Event} {ds₀ ds : List Diagnostic} {L : Nat}
    (h : Emits e e' u ds) (hk : DiagnosticLog.Keeps L ds₀ e.diagnostics) :
    DiagnosticLog.Keeps L (ds₀ ++ ds) e'.diagnostics := by
  rw [h.diagnostics]
  exact hk.reports ds

/-! ### Operations emit -/

/-- A step that reported nothing or one diagnostic reported a list of at most one. -/
theorem ReportsOnly.runCalls {P : Diagnostic → Prop} {e e' : Engine} (h : ReportsOnly P e e') :
    ∃ ds : List Diagnostic, e'.diagnostics = e.diagnostics.runCalls (ds.map Call.report) ∧
      ds.length ≤ 1 := by
  rcases h with h | ⟨d, -, h⟩
  · exact ⟨[], h, by simp⟩
  · exact ⟨[d], h, by simp⟩

/-- **Every operation but a take and a subscription emits** what it shows, and reports at most
one diagnostic. -/
theorem WellFormed.emits_apply {e : Engine} (h : e.WellFormed) (op : Op)
    (htake : op ≠ .takeDiagnostics) (hsub : op.addsListener = false) :
    ∃ u ds, Emits e (op.apply e) u ds ∧ ds.length ≤ 1 := by
  obtain ⟨u, ns, hshows⟩ := shows_apply h op hsub
  obtain ⟨ds, hds, hlen⟩ := (h.reportsOnly_apply op htake).runCalls
  exact ⟨u, ds, ⟨hshows.presentation, hds⟩, hlen⟩

/-- Operations that neither take nor subscribe emit along the whole run. -/
theorem WellFormed.emits_runOps {e : Engine} (h : e.WellFormed) (ops : List Op)
    (hops : ∀ op ∈ ops, op ≠ .takeDiagnostics ∧ op.addsListener = false) :
    ∃ u ds, Emits e (e.runOps ops) u ds := by
  induction ops generalizing e with
  | nil => exact ⟨[], [], Emits.stay rfl rfl⟩
  | cons op ops ih =>
    obtain ⟨htake, hsub⟩ := hops op List.mem_cons_self
    obtain ⟨u, ds, hstep, -⟩ := h.emits_apply op htake hsub
    obtain ⟨u', ds', hrest⟩ :=
      ih (h.apply op) fun op' hop' => hops op' (List.mem_cons_of_mem _ hop')
    exact ⟨u ++ u', ds ++ ds', hstep.trans hrest⟩

/-- **Building an engine emits what starting its entry emits**: the new engine is well formed,
and was handed, from `Engine.new` on, the events of the start and at most one diagnostic. -/
theorem create_emits {source : String} {entry : Option String} {o : EngineOptions}
    {p : Presentation} {e : Engine} (h : Engine.create source entry o p = .ok e) :
    e.WellFormed ∧ ∃ u ds, Emits (Engine.new o p) e u ds ∧ ds.length ≤ 1 := by
  cases hd : Document.parse source with
  | error f => simp [Engine.create, hd, bind, Except.bind] at h
  | ok d =>
    rw [create_eq hd] at h
    cases hq : (Registry.ofDocument d).resolveEntry entry with
    | error f => simp [hq, Except.map] at h
    | ok q =>
      simp only [hq, Except.map, Except.ok.injEq] at h
      subst h
      -- loading a document into a new engine emits and reports nothing
      have hload : Emits (Engine.new o p) ((Engine.new o p).loadParsed d) [] [] :=
        Emits.stay rfl rfl
      have hreach : Reachable ((Engine.new o p).loadParsed d) :=
        Reachable.step (.loadParsed d) (Reachable.new o p)
      obtain ⟨u, ds, hstart, hlen⟩ :=
        hreach.wellFormed.emits_apply (.start q) (fun h => Op.noConfusion h) rfl
      refine ⟨hreach.wellFormed.apply (.start q), u, ds, ?_, hlen⟩
      have hall := hload.trans hstart
      rw [List.nil_append, List.nil_append] at hall
      exact hall

end Engine

end Colloquy
