import Colloquy.Proofs.Emission
import Colloquy.Proofs.Refusals
import Colloquy.Proofs.ScreenSync
/-!
# Line mode shows every output of the engines once

Line mode plays a session in passes. A pass shows the events the session's engine recorded and
the diagnostics it reported, then stops while no run is active; otherwise it prompts, and stops
at the end of the input or on `:quit`, or answers the line it read and starts the next pass.

What the engines *produced* between two passes is what they emitted and reported on the way
(`Engine.Emits`): from the session answered at the prompt to the session of the next pass, or,
when the answer opened the dialogue afresh, from a new engine to the fresh one
(`Session.Produced`). `Loop` tells a whole play in these terms, pass by pass: each pass shows
exactly what was produced since the previous prompt, and ends where the loop ends.

The main theorem (`line_mode_shows_outputs_once`) says that for every session that opens and
every input of `L` lines, the play writes the title and the commands and then the passes of such
a loop, and ends with status 0 after at most `L + 1` prompts. So every event and diagnostic the
engines produce is written once, in the order produced, events before diagnostics within a
pass, and the play stops at the first pass with no active run, at the end of the input, or on
`:quit`. An advance or a choice refused at a prompt is an advance while a choice is awaited,
with one pending, or a choice past the pending ones, and its hint is never `nothing to do`.

One invariant is carried from pass to pass (`Top`): the session is one of the same dialogue,
its engine is well formed and records, and its record holds exactly what was produced since the
last prompt, with at most one diagnostic. Taking the record at a pass empties it, and each answer
is one command, nothing, or the session opened afresh (`Session.Answers`), none of which reports
more than one diagnostic; so the log never drops one, and a restart finds nothing left unshown.
-/

namespace Colloquy

/-- While a run is active, the phase is displaying or awaiting a choice with one pending. -/
theorem Engine.phase_of_active {e : Engine} (h : e.isActive = true) :
    e.phase = .displaying ∨ (e.phase = .awaitingChoice ∧ 0 < e.run.pending.length) := by
  have hact : e.run.active = true := h
  cases hp : e.run.pending with
  | nil => exact .inl (by simp [Engine.phase, hact, hp])
  | cons c cs => exact .inr ⟨by simp [Engine.phase, hact, hp], by simp⟩

namespace Console

open Engine (Emits)

/-! ### Passes of the loop -/

/-- How a pass of the loop ends. -/
inductive Close where
  /-- No run is active at the top of the pass: no prompt. -/
  | ended
  /-- The prompt finds no line left. -/
  | noInput
  /-- The prompt reads `:quit`. -/
  | quit
  /-- The prompt reads a line whose answer writes `reply`, and the loop goes on. -/
  | answered (reply : String)

/-- Whether a pass prompts. -/
def Close.prompted : Close → Bool
  | .ended => false
  | _ => true

/-- What a pass writes after what it shows: the prompt and the answer. -/
def Close.text : Close → String
  | .ended => ""
  | .noInput => "> "
  | .quit => "> bye\n"
  | .answered reply => "> " ++ reply

/-- A pass of the loop: the session at its top, the events and the diagnostics it shows, and how
it ends. -/
structure Pass where
  top : Session
  events : List Event
  diagnostics : List Diagnostic
  close : Close

/-- What a pass writes: its events, then its diagnostics, then the prompt and the answer. -/
def Pass.text (p : Pass) : String :=
  String.join (p.events.map eventText) ++ String.join (p.diagnostics.map diagnosticText) ++
    p.close.text

/-- The session once its engine's record has been taken to be shown. -/
def Session.shown (s : Session) : Session :=
  { s with engine := s.engine.drainEvents.2.takeDiagnostics.2 }

/-- **What the engines produced** from the session `q` answered at a prompt to the session `s` of
the next pass: what `q`'s engine emitted and reported on its way to `s`'s, or, when `s` is the
dialogue opened afresh, what its new engine emitted and reported since it was built. -/
inductive Session.Produced (q : Session) : Session → List Event → List Diagnostic → Prop
  | same {s : Session} {u : List Event} {ds : List Diagnostic} :
      q.engine.Emits s.engine u ds → Session.Produced q s u ds
  | fresh {s : Session} {u : List Event} {ds : List Diagnostic} :
      Session.create q.dialogue q.entry = .ok s →
      (Engine.new {} { attached := true }).Emits s.engine u ds → Session.Produced q s u ds

/-- **A play of line mode, pass by pass.** `Loop s u ds lines ps`: at the top of a pass the
session is `s`, whose engines produced the events `u` and the diagnostics `ds` since the last
prompt; with `lines` left to read, the passes from this one on are `ps`. -/
inductive Loop : Session → List Event → List Diagnostic → List String → List Pass → Prop
  /-- No run is active: the pass shows what was produced, and the play stops. -/
  | ended {s : Session} {u : List Event} {ds : List Diagnostic} {lines : List String} :
      s.engine.isActive = false → Loop s u ds lines [⟨s, u, ds, .ended⟩]
  /-- The prompt finds the input at its end. -/
  | noInput {s : Session} {u : List Event} {ds : List Diagnostic} :
      s.engine.isActive = true → Loop s u ds [] [⟨s, u, ds, .noInput⟩]
  /-- The prompt reads `:quit`. -/
  | quit {s : Session} {u : List Event} {ds : List Diagnostic} {line : String}
      {lines : List String} :
      s.engine.isActive = true → s.shown.reply line = .quit "bye\n" →
      Loop s u ds (line :: lines) [⟨s, u, ds, .quit⟩]
  /-- The prompt reads a line, and the answer leads to the next pass, whose engines produced
  `u'` and `ds'` since the prompt. -/
  | answered {s s' : Session} {u u' : List Event} {ds ds' : List Diagnostic} {line reply : String}
      {lines : List String} {ps : List Pass} :
      s.engine.isActive = true → s.shown.reply line = .continue reply s' →
      s.shown.Produced s' u' ds' → Loop s' u' ds' lines ps →
      Loop s u ds (line :: lines) (⟨s, u, ds, .answered reply⟩ :: ps)

/-! ### Refused advances and choices -/

/-- **The hints of a session are aimed**: an advance its engine refuses comes while a choice is
awaited, with at least one pending; a choice it refuses is past the pending ones; and the hint
written for either is not `nothing to do`. -/
structure HintsAimed (q : Session) : Prop where
  advance : (q.dispatch .advance).1 = false →
    q.engine.phase = .awaitingChoice ∧ 0 < q.engine.run.pending.length
  choose : ∀ i, (q.dispatch (.choose i)).1 = false → q.engine.run.pending.length ≤ i
  hint : ∀ c, (c = .advance ∨ ∃ i, c = .choose i) → (q.dispatch c).1 = false →
    rejectedHint (q.dispatch c).2 c ≠ "nothing to do"

theorem Session.dispatch_eq (q : Session) (c : Command) :
    q.dispatch c = ((q.engine.dispatch c).1, { q with engine := (q.engine.dispatch c).2 }) :=
  rfl

/-- A refused advance or choice leaves the engine as it was. -/
theorem Session.dispatch_refused {q : Session} {c : Command}
    (hc : c = .advance ∨ ∃ i, c = .choose i) (h : (q.dispatch c).1 = false) :
    (q.dispatch c).2 = q := by
  rw [Session.dispatch_eq] at h ⊢
  rcases hc with rfl | ⟨i, rfl⟩
  · by_cases hd : (q.engine.phase != .displaying) = true
    · simp [Engine.dispatch, hd]
    · simp [Engine.dispatch, hd] at h
  · by_cases hi : i ≥ q.engine.run.pending.length
    · simp [Engine.dispatch, hi]
    · simp [Engine.dispatch, hi] at h

/-- **At a prompt the hints are aimed**: the loop prompts only while a run is active, and then an
advance is refused only while a choice is awaited. -/
theorem hintsAimed_of_active {q : Session} (h : q.engine.isActive = true) : HintsAimed q := by
  have hadvance : (q.dispatch .advance).1 = false →
      q.engine.phase = .awaitingChoice ∧ 0 < q.engine.run.pending.length := by
    intro hr
    have hne : q.engine.phase ≠ .displaying := (Engine.dispatch_eq_false_iff q.engine .advance).1 hr
    exact (Engine.phase_of_active h).resolve_left hne
  refine ⟨hadvance, fun i hr => (Engine.dispatch_eq_false_iff q.engine (.choose i)).1 hr, ?_⟩
  intro c hc hr
  rw [Session.dispatch_refused hc hr]
  rcases hc with rfl | ⟨i, rfl⟩
  · -- an advance is refused while a choice is awaited: the hint names the choices
    have hphase : q.engine.phase = .awaitingChoice := (hadvance hr).1
    have hawait : (Phase.awaitingChoice == .awaitingChoice) = true := rfl
    simp only [rejectedHint, hphase, hawait, if_true]
    intro heq
    have := congrArg String.toList heq
    simp at this
  · -- a choice past the pending ones: the hint names the choice
    simp only [rejectedHint]
    split <;>
    · intro heq
      have := congrArg String.toList heq
      simp at this

/-! ### One pass -/

/-- **The top of a pass** of a play of `s₀`: the session is one of the same dialogue and entry,
its engine is well formed and records, and its record holds exactly what was produced since the
last prompt: the events `u`, and the window of the diagnostics `ds`, at most one. -/
structure Top (s₀ s : Session) (u : List Event) (ds : List Diagnostic) : Prop where
  dialogue : s.dialogue = s₀.dialogue
  entry : s.entry = s₀.entry
  wellFormed : s.engine.WellFormed
  attached : s.engine.presentation.attached = true
  events : s.engine.presentation.events.toList = u
  keeps : DiagnosticLog.Keeps defaultDiagnosticLimit ds s.engine.diagnostics
  few : ds.length ≤ 1

theorem Top.entries {s₀ s : Session} {u : List Event} {ds : List Diagnostic} (h : Top s₀ s u ds) :
    s.engine.diagnostics.entries = ds :=
  h.keeps.entries_eq (by have := h.few; simp only [defaultDiagnosticLimit]; omega)

/-- A pass shows what its engine recorded, and prompts with what is left once that is taken. -/
theorem Session.turn_of_active {s : Session} (h : s.engine.isActive = true) :
    s.turn = (String.join (s.engine.presentation.events.toList.map eventText) ++
      String.join (s.engine.diagnostics.entries.map diagnosticText) ++ "> ", .prompt s.shown) := by
  unfold Session.turn Session.shown
  simp [Engine.drainEvents, Presentation.drain, Engine.takeDiagnostics, DiagnosticLog.take,
    Engine.isActive]
  simpa [Engine.isActive] using h

theorem Session.turn_of_inactive {s : Session} (h : s.engine.isActive = false) :
    s.turn = (String.join (s.engine.presentation.events.toList.map eventText) ++
      String.join (s.engine.diagnostics.entries.map diagnosticText), .finished 0) := by
  unfold Session.turn
  simp [Engine.drainEvents, Presentation.drain, Engine.takeDiagnostics, DiagnosticLog.take,
    Engine.isActive]
  simpa [Engine.isActive] using h

@[simp] theorem Session.shown_dialogue (s : Session) : s.shown.dialogue = s.dialogue := rfl
@[simp] theorem Session.shown_entry (s : Session) : s.shown.entry = s.entry := rfl
@[simp] theorem Session.shown_run (s : Session) : s.shown.engine.run = s.engine.run := rfl

/-- Taking the record to be shown leaves a well-formed engine that records nothing yet and
whose log is fresh. -/
theorem Top.shown {s₀ s : Session} {u : List Event} {ds : List Diagnostic} (h : Top s₀ s u ds) :
    s.shown.engine.WellFormed ∧ s.shown.engine.presentation.attached = true ∧
      s.shown.engine.presentation.events = #[] ∧
      s.shown.engine.diagnostics = DiagnosticLog.withLimit defaultDiagnosticLimit :=
  ⟨h.wellFormed.of_frame rfl rfl, h.attached, rfl, congrArg Prod.snd h.keeps.take⟩

/-- Whatever the shown session's engine then emits, the session it leads to is at the top of a
pass. -/
theorem Top.emits {s₀ s s' : Session} {u u' : List Event} {ds ds' : List Diagnostic}
    (h : Top s₀ s u ds) (hd : s'.dialogue = s₀.dialogue) (he : s'.entry = s₀.entry)
    (hwf : s'.engine.WellFormed) (hemits : s.shown.engine.Emits s'.engine u' ds')
    (hfew : ds'.length ≤ 1) : Top s₀ s' u' ds' := by
  obtain ⟨-, hatt, hnone, hlog⟩ := h.shown
  refine ⟨hd, he, hwf, hemits.attached.trans hatt, hemits.events hatt hnone, ?_, hfew⟩
  have hk := hemits.keeps (hlog ▸ DiagnosticLog.keeps_withLimit defaultDiagnosticLimit)
  rwa [List.nil_append] at hk

/-- **An opened session is at the top of its first pass**, having produced from a new engine
what starting its entry emitted. -/
theorem Top.opening {d : Loaded} {entry : Option String} {s₀ : Session}
    (hopen : Session.create d entry = .ok s₀) :
    ∃ u ds, (Engine.new {} { attached := true }).Emits s₀.engine u ds ∧ Top s₀ s₀ u ds := by
  obtain ⟨e, hc, rfl⟩ := Session.create_eq_ok hopen
  obtain ⟨hwf, u, ds, hemits, hfew⟩ := Engine.create_emits hc
  refine ⟨u, ds, hemits, rfl, rfl, hwf, hemits.attached, hemits.events rfl rfl, ?_, hfew⟩
  have hk := hemits.keeps (DiagnosticLog.keeps_withLimit defaultDiagnosticLimit)
  rwa [List.nil_append] at hk

/-! ### One answer -/

/-- **What answering a line does to the session**: it quits, or goes on with the session as it
was, after one command, or opened afresh; or it fails to open the session afresh. -/
inductive Session.Answers (q : Session) : Reply → Prop
  | quit : Session.Answers q (.quit "bye\n")
  | keep (out : String) : Session.Answers q (.continue out q)
  | command (out : String) (c : Command) : Session.Answers q (.continue out (q.dispatch c).2)
  | restart {s : Session} (out : String) : q.restart = .ok s → Session.Answers q (.continue out s)
  | fault {f : Fault} (out : String) : q.restart = .error f → Session.Answers q (.fault out f)

theorem Session.answers_reply (q : Session) (line : String) : q.Answers (q.reply line) := by
  dsimp only [Session.reply]
  generalize Text.trim (dropLineEnd line) = raw
  split
  · exact .command _ _
  · split
    · exact .keep _
    · exact .command _ _
    · exact .keep _
    · split
      · rename_i s hs
        exact .restart _ hs
      · rename_i f hf
        exact .fault _ hf
    · exact .quit
    · split
      · exact .keep _
      · rename_i c _
        split
        · exact .command _ c
        · exact .command _ c

/-- **An answer at the top of a pass** quits, or leads to the top of the next pass, having
produced what that pass shows. Restarting never fails: it opens the dialogue that opened once. -/
theorem Top.answer {s₀ s : Session} {u : List Event} {ds : List Diagnostic}
    (hopen : Session.create s₀.dialogue s₀.entry = .ok s₀) (h : Top s₀ s u ds) (line : String) :
    s.shown.reply line = .quit "bye\n" ∨
      ∃ reply s' u' ds', s.shown.reply line = .continue reply s' ∧ s.shown.Produced s' u' ds' ∧
        Top s₀ s' u' ds' := by
  have hrestart : s.shown.restart = .ok s₀ := by
    rw [Session.restart, Session.shown_dialogue, Session.shown_entry, h.dialogue, h.entry]
    exact hopen
  obtain ⟨hwf, -, -, -⟩ := h.shown
  have hans := s.shown.answers_reply line
  generalize s.shown.reply line = rep at hans ⊢
  rcases hans with _ | ⟨reply⟩ | ⟨reply, c⟩ | ⟨reply, hr⟩ | ⟨reply, hr⟩
  · exact .inl rfl
  · -- nothing is done: nothing is produced
    exact .inr ⟨reply, _, [], [], rfl, .same (Emits.stay rfl rfl),
      h.emits h.dialogue h.entry hwf (Emits.stay rfl rfl) (by simp)⟩
  · -- one command: what the engine emits and reports for it
    obtain ⟨u', ds', hemits, hfew⟩ :=
      hwf.emits_apply (.dispatch c) (fun h => Engine.Op.noConfusion h) rfl
    exact .inr ⟨reply, _, u', ds', rfl, .same hemits,
      h.emits h.dialogue h.entry (hwf.apply (.dispatch c)) hemits hfew⟩
  · -- a restart opens the dialogue afresh
    rw [hrestart] at hr
    cases hr
    obtain ⟨u', ds', hemits, htop⟩ := Top.opening hopen
    exact .inr ⟨reply, s₀, u', ds', rfl, .fresh hrestart hemits, htop⟩
  · rw [hrestart] at hr
    cases hr

/-! ### The whole play -/

/-- The play from the top of a pass at `s` on: the pass, then the rest of the input. -/
def Session.fromTop (s : Session) (input : List Input) : String × Nat :=
  match s.turn with
  | (out, .finished n) => (out, n)
  | (out, .prompt q) => (out ++ (Session.play.go q input).1, (Session.play.go q input).2)

theorem Session.play_eq (s : Session) (input : List Input) :
    s.play input = ("Dialogue: " ++ s.dialogue.title ++ "\n" ++ lineHelp ++ "\n" ++
      (s.fromTop input).1, (s.fromTop input).2) := by
  unfold Session.play Session.begin Session.fromTop
  rcases s.turn with ⟨out, _ | q⟩ <;> simp [String.append_assoc]

theorem Session.go_quit {q : Session} {text out : String} (rest : List Input)
    (h : q.reply text = .quit out) : Session.play.go q (.line text :: rest) = (out, 0) := by
  simp [Session.play.go, Session.answer, h]

theorem Session.go_continue {q s : Session} {text reply : String} (rest : List Input)
    (h : q.reply text = .continue reply s) :
    Session.play.go q (.line text :: rest) =
      (reply ++ (s.fromTop rest).1, (s.fromTop rest).2) := by
  simp only [Session.play.go, Session.answer, h, Session.fromTop]
  rcases s.turn with ⟨out, _ | q'⟩ <;> simp [String.append_assoc]

/-- What the play from the top of a pass at `s` does on the lines `lines`: it is a `Loop` of
passes, writes exactly their texts and ends with status 0, and prompts at most once more than
there are lines, each time at a session whose hints are aimed. -/
def Session.PlaysOut (s : Session) (u : List Event) (ds : List Diagnostic)
    (lines : List String) : Prop :=
  ∃ ps, Loop s u ds lines ps ∧
    s.fromTop (lines.map .line) = (String.join (ps.map Pass.text), 0) ∧
    (ps.filter (·.close.prompted)).length ≤ lines.length + 1 ∧
    ∀ p ∈ ps, p.close.prompted = true → HintsAimed p.top.shown

/-- A pass with no active run ends the play, whatever the input. -/
theorem Top.playsOut_ended {s₀ s : Session} {u : List Event} {ds : List Diagnostic}
    (h : Top s₀ s u ds) (hact : s.engine.isActive = false) (lines : List String) :
    s.PlaysOut u ds lines := by
  refine ⟨[⟨s, u, ds, .ended⟩], .ended hact, ?_, by simp [Close.prompted], by
    simp [Close.prompted]⟩
  simp [Session.fromTop, Session.turn_of_inactive hact, h.events, h.entries, Pass.text,
    Close.text]

/-- **The loop from the top of a pass**: over every input of lines, the play from `s` plays out.
By induction on the lines: each answer leads to the top of the next pass (`Top.answer`). -/
theorem Top.loop {s₀ : Session} (hopen : Session.create s₀.dialogue s₀.entry = .ok s₀) :
    ∀ (lines : List String) {s : Session} {u : List Event} {ds : List Diagnostic},
      Top s₀ s u ds → s.PlaysOut u ds lines := by
  intro lines
  induction lines with
  | nil =>
    intro s u ds h
    cases hact : s.engine.isActive with
    | false => exact h.playsOut_ended hact []
    | true =>
      refine ⟨[⟨s, u, ds, .noInput⟩], .noInput hact, ?_, by simp [Close.prompted], ?_⟩
      · simp [Session.fromTop, Session.turn_of_active hact, h.events, h.entries, Pass.text,
          Close.text, Session.play.go, Session.answer]
      · simp only [List.mem_singleton, forall_eq]
        exact fun _ => hintsAimed_of_active hact
  | cons line lines ih =>
    intro s u ds h
    cases hact : s.engine.isActive with
    | false => exact h.playsOut_ended hact _
    | true =>
      rcases h.answer hopen line with hquit | ⟨reply, s', u', ds', hcont, hprod, htop⟩
      · -- `:quit` ends the play after its answer
        refine ⟨[⟨s, u, ds, .quit⟩], .quit hact hquit, ?_, by simp [Close.prompted], ?_⟩
        · simp [Session.fromTop, Session.turn_of_active hact, h.events, h.entries, Pass.text,
            Close.text, Session.go_quit _ hquit, String.append_assoc]
        · simp only [List.mem_singleton, forall_eq]
          exact fun _ => hintsAimed_of_active hact
      · -- the answer leads to the next pass
        obtain ⟨ps, hloop, hout, hprompts, hhints⟩ := ih htop
        refine ⟨⟨s, u, ds, .answered reply⟩ :: ps, .answered hact hcont hprod hloop, ?_, ?_, ?_⟩
        · rw [List.map_cons, Session.fromTop, Session.turn_of_active hact]
          simp only [List.map_cons, Session.go_continue _ hcont, hout, h.events, h.entries,
            Pass.text, Close.text, String.join_cons, String.append_assoc]
        · simp only [List.filter_cons, Close.prompted, if_true, List.length_cons] at hprompts ⊢
          omega
        · intro p hp hprompted
          rcases List.mem_cons.1 hp with rfl | hp
          · exact hintsAimed_of_active hact
          · exact hhints p hp hprompted

/-- **Line mode shows every output of the engines once, and ends.** For every session that opens
and every input of lines, read without fault: the play writes the title and the commands, then
the passes of a `Loop` that starts from what opening the session produced, and ends with status
0. Each pass writes the events and then the diagnostics that the engines produced since the
previous prompt, the restart's fresh engine included, so each is written once and in the order
produced. The play stops at the first pass with no active run, at the end of the input, or on
`:quit`, prompting at most once more than there are lines. At every prompt, an advance the
engine refuses comes while a choice is awaited, with one pending, and a refused choice is past
the pending ones, so the hint written is never `nothing to do`. -/
theorem line_mode_shows_outputs_once {d : Loaded} {entry : Option String} {s₀ : Session}
    (hopen : Session.create d entry = .ok s₀) (lines : List String) :
    ∃ u ds ps, (Engine.new {} { attached := true }).Emits s₀.engine u ds ∧
      Loop s₀ u ds lines ps ∧
      s₀.play (lines.map .line) =
        ("Dialogue: " ++ d.title ++ "\n" ++ lineHelp ++ "\n" ++ String.join (ps.map Pass.text), 0) ∧
      (ps.filter (·.close.prompted)).length ≤ lines.length + 1 ∧
      ∀ p ∈ ps, p.close.prompted = true → HintsAimed p.top.shown := by
  obtain ⟨e, -, hs₀⟩ := Session.create_eq_ok hopen
  have hd : s₀.dialogue = d := by rw [hs₀]
  have he : s₀.entry = entry := by rw [hs₀]
  have hagain : Session.create s₀.dialogue s₀.entry = .ok s₀ := by rw [hd, he]; exact hopen
  obtain ⟨u, ds, hemits, htop⟩ := Top.opening hopen
  obtain ⟨ps, hloop, hout, hprompts, hhints⟩ := Top.loop hagain lines htop
  refine ⟨u, ds, ps, hemits, hloop, ?_, hprompts, hhints⟩
  rw [Session.play_eq, hout, hd]

set_option maxRecDepth 20000 in
/-- Opening "hello", then restarting and quitting. -/
theorem hello_line_mode_shows_outputs_once :
    Session.create Screen.hello none = .ok Screen.helloSession ∧
      ∃ u ds ps, (Engine.new {} { attached := true }).Emits Screen.helloSession.engine u ds ∧
        Loop Screen.helloSession u ds [":restart", ":quit"] ps ∧
        Screen.helloSession.play ([":restart", ":quit"].map .line) =
          ("Dialogue: " ++ Screen.hello.title ++ "\n" ++ lineHelp ++ "\n" ++
            String.join (ps.map Pass.text), 0) ∧
        (ps.filter (·.close.prompted)).length ≤ [":restart", ":quit"].length + 1 ∧
        ∀ p ∈ ps, p.close.prompted = true → HintsAimed p.top.shown :=
  have hopen : Session.create Screen.hello none = .ok Screen.helloSession := by cbv
  ⟨hopen, line_mode_shows_outputs_once hopen _⟩

end Console

end Colloquy
