import Colloquy.Proofs.Transcript
import Colloquy.Proofs.Variables
import Colloquy.Proofs.DiagnosticWindow
/-!
# Reloading is all or nothing

Loading a text into an engine does three things, in this order: it ends the run if one is
active, it reads the text, and then either installs the document read or reports the fault and
applies the reload policy. The theorem here (`reload_follows_policy`) says what each outcome
leaves, for every engine and every text:

* the run is ended first exactly when one was active, with one `hidden` event and one `ended`
  notice, and nothing is shown or told otherwise;
* a text that fails to read answers its fault, reports it once as a document error with the
  fault's code and message, and leaves the conversations and variables as they were under
  `ReloadPolicy.keep`, and none of either under `ReloadPolicy.clear`;
* a text that reads answers `ok`, reports nothing, and leaves exactly what loading the read
  document does: its registry and the store of its variables.

So a reload is never half applied: the conversations and the variables are replaced together,
kept together or cleared together.
-/

namespace Colloquy

namespace Engine

/-- Ending the run if one is active: the run is gone, everything hidden and every listener told
exactly when one was active; otherwise nothing happens. -/
theorem stopIfActive_shows (e : Engine) :
    e.stopIfActive.run = (if e.run.active then {} else e.run) ∧
    e.stopIfActive.presentation = e.presentation.emitAll (if e.run.active then [.hidden] else []) ∧
    e.stopIfActive.listeners =
      e.listeners.map (·.hearAll (if e.run.active then [.ended] else [])) := by
  unfold stopIfActive
  by_cases hact : e.run.active = true
  · simp [hact, stop_presentation, stop_listeners]
  · simp [hact, Presentation.emitAll, Listener.hearAll]

theorem stopIfActive_registry (e : Engine) : e.stopIfActive.registry = e.registry := by
  unfold stopIfActive
  split <;> rfl

/-- Loading does to the run, the screen and the listeners only what ending the run does. -/
theorem load_shows (e : Engine) (source : String) :
    (e.load source).2.run = e.stopIfActive.run ∧
    (e.load source).2.presentation = e.stopIfActive.presentation ∧
    (e.load source).2.listeners = e.stopIfActive.listeners := by
  unfold Engine.load
  simp only
  split
  · exact ⟨rfl, rfl, rfl⟩
  · split <;> exact ⟨rfl, rfl, rfl⟩

/-- What loading `source` into `e` did, answering `res` and leaving `e'`. -/
structure Reloaded (e : Engine) (source : String) (res : Except Fault Unit) (e' : Engine) :
    Prop where
  /-- The run was ended first, if one was active. -/
  run : e'.run = if e.run.active then {} else e.run
  presentation : e'.presentation = e.presentation.emitAll (if e.run.active then [.hidden] else [])
  listeners : e'.listeners = e.listeners.map (·.hearAll (if e.run.active then [.ended] else []))
  /-- A text that fails to read is answered and reported with its fault. -/
  failed : ∀ f, Document.parse source = .error f → res = .error f ∧
    e'.diagnostics = e.diagnostics.report ⟨.documentError, f.code, f.message⟩
  /-- Under the keep policy a failed read keeps the conversations and the variables. -/
  kept : ∀ f, Document.parse source = .error f → e.options.reloadPolicy = .keep →
    e'.registry = e.registry ∧ e'.store = e.store
  /-- Under the clear policy a failed read leaves no conversations and no variables. -/
  cleared : ∀ f, Document.parse source = .error f → e.options.reloadPolicy = .clear →
    e'.registry = Registry.empty ∧ e'.store = Store.empty
  /-- A text that reads is installed as the document read, with nothing reported. -/
  loaded : ∀ d, Document.parse source = .ok d → res = .ok () ∧
    e'.diagnostics = e.diagnostics ∧ e'.registry = Registry.ofDocument d ∧
    e'.store = Store.ofBindings d.bindings ∧ e' = e.loadParsed d

/-- **Reloading is all or nothing.** Loading a text ends any active run first, with one hide
and one end notice, and then either installs the document read, exactly as loading it already
read does, reporting nothing; or answers the fault, reports it once as a document error, and
keeps or clears the conversations and the variables together, as the reload policy says. -/
theorem reload_follows_policy (e : Engine) (source : String) :
    Reloaded e source (e.load source).1 (e.load source).2 := by
  obtain ⟨hrun, hpres, hlist⟩ := stopIfActive_shows e
  obtain ⟨hrun', hpres', hlist'⟩ := load_shows e source
  refine ⟨hrun'.trans hrun, hpres'.trans hpres, hlist'.trans hlist, fun f hf => ?_,
    fun f hf hkeep => ?_, fun f hf hclear => ?_, fun d hd => ?_⟩
  · -- the fault is reported after the end of the run, whatever the policy
    refine ⟨by simp [Engine.load, hf], ?_⟩
    by_cases hclear : (e.options.reloadPolicy == .clear) = true <;>
      simp [Engine.load, hf, stopIfActive_options, stopIfActive_diagnostics, hclear,
        Diagnostic.document]
  · -- the keep policy leaves both stores as the end of the run left them
    have hno : (e.options.reloadPolicy == .clear) = false := by rw [hkeep]; rfl
    simp [Engine.load, hf, stopIfActive_options, hno, stopIfActive_registry, stopIfActive_store]
  · have hyes : (e.options.reloadPolicy == .clear) = true := by rw [hclear]; rfl
    simp [Engine.load, hf, stopIfActive_options, hyes]
    rfl
  · have hload : (e.load source).2 = e.loadParsed d := by simp [Engine.load, hd, loadParsed]
    refine ⟨by simp [Engine.load, hd], ?_, ?_, ?_, hload⟩ <;> rw [hload]
    · simp [loadParsed, install, stopIfActive_diagnostics]
    · rfl
    · rfl

end Engine

end Colloquy
