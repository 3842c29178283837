import Colloquy.Proofs.ScreenSync
/-!
# Runs of display calls: the text and the typewriter

Between two frames the full screen makes calls on its display (`Display.Call`): it takes in
events and diagnostics, moves the selection, ticks the typewriter, finishes typing, or resets
the display for a new run. One tick does one of five things (`Display.Ticks`), and every law of
the typewriter below is proved once for each of them.

The *transcript* of a display is its text in reading order: the lines shown in full, the line
being typed (all of it), and the queued lines. Lines move from the queue to the typed line and on
to the lines shown, but the transcript stays as it is when they do (`Ticks.transcript`,
`finishTyping_transcript`). Only a line event adds to it: the line's shown form, set apart by one
empty line when the transcript is not empty (`transcript_applyEvent`). So after any run of calls
from a fresh display, the transcript is the shown lines of the line events taken in since the
last reset, with one empty line between each two, and the count of typed characters stays within
the line being typed (`transcript_joins_lines`).

Running the typewriter out (`typewriter_runs_to_finish`): each tick that does something takes one
off `workLeft` (`Ticks.workLeft`), so the typewriter does something exactly `workLeft` times and
then nothing, and a tick does nothing exactly when nothing is typed or queued. Every tick keeps
what finishing would leave (`Ticks.finishTyping`), so the typewriter ends where finishing puts
it, but for the count of typed characters: finishing sets it to zero, while the ticks set it to
zero only when a line is typed out. A display with no line to type keeps its count
(`ticking_idle_keeps_typed`).
-/

namespace Colloquy.Screen

open Console (dialogueLine)

/-- Putting one more item at the end of a list put together with separators adds a separator
and the item, or only the item to an empty list. -/
theorem intersperse_concat {α : Type} (sep x : α) (l : List α) :
    (l ++ [x]).intersperse sep = if l = [] then [x] else l.intersperse sep ++ [sep, x] := by
  induction l with
  | nil => rfl
  | cons a l ih =>
    cases l with
    | nil => rfl
    | cons b l => simpa using ih

theorem intersperse_eq_nil_iff {α : Type} (sep : α) (l : List α) :
    l.intersperse sep = [] ↔ l = [] := by
  cases l with
  | nil => simp
  | cons a l => cases l <;> simp

theorem length_pos_of_ne_empty {line : String} (h : line ≠ "") : 0 < line.length :=
  Nat.pos_of_ne_zero fun h0 => h (String.length_eq_zero_iff.1 h0)

/-- The line an event shows, in the form the screen shows it: one for a line event, none for the
others. -/
def shownLines : Event → List String
  | .line speaker text => [dialogueLine speaker text]
  | _ => []

namespace Display

/-! ### Calls -/

/-- A call the full screen makes on its display. -/
inductive Call where
  | applyEvents (events : List Event)
  | applyDiagnostics (diagnostics : List Diagnostic)
  | selectPrevious
  | selectNext
  | tick
  | finishTyping
  | reset

/-- Makes a call. -/
def Call.apply : Call → Display → Display
  | .applyEvents events, d => d.applyEvents events
  | .applyDiagnostics diagnostics, d => d.applyDiagnostics diagnostics
  | .selectPrevious, d => d.selectPrevious
  | .selectNext, d => d.selectNext
  | .tick, d => d.tick.2
  | .finishTyping, d => d.finishTyping
  | .reset, d => d.reset

/-- Makes calls in order. -/
def runCalls (d : Display) (cs : List Call) : Display :=
  cs.foldl (fun d c => c.apply d) d

@[simp] theorem runCalls_nil (d : Display) : d.runCalls [] = d := rfl

@[simp] theorem runCalls_cons (d : Display) (c : Call) (cs : List Call) :
    d.runCalls (c :: cs) = (c.apply d).runCalls cs := rfl

/-- The lines a call adds to those taken in so far: a batch of events adds the lines it shows,
and a reset starts afresh. -/
def Call.addLines : Call → List String → List String
  | .applyEvents events, lines => lines ++ events.flatMap shownLines
  | .reset, _ => []
  | _, lines => lines

/-- The lines shown by the line events of a run of calls, since its last reset. -/
def Call.linesSince (cs : List Call) : List String :=
  cs.foldl (fun lines c => c.addLines lines) []

/-! ### One tick -/

/-- The five things one tick of the typewriter can do, with what it answers. -/
inductive Ticks (d : Display) : Bool × Display → Prop
  /-- Nothing is typed or queued: the tick does nothing. -/
  | idle : d.typing = none → d.queued = [] → Ticks d (false, d)
  /-- An empty queued line is shown at once. -/
  | showEmpty {rest : List String} : d.typing = none → d.queued = "" :: rest →
      Ticks d (true, { d with queued := rest, shown := d.shown ++ [""] })
  /-- A queued line starts with its first character. -/
  | start {line : String} {rest : List String} : line ≠ "" → d.typing = none →
      d.queued = line :: rest →
      Ticks d (true, { d with queued := rest, typing := some line, typed := 1 })
  /-- A line that is all out is shown in full. -/
  | complete {line : String} : d.typing = some line → line.length ≤ d.typed →
      Ticks d (true, { d with shown := d.shown ++ [line], typing := none, typed := 0 })
  /-- One more character of the line is out. -/
  | type {line : String} : d.typing = some line → d.typed < line.length →
      Ticks d (true, { d with typed := d.typed + 1 })

theorem ticks_tick (d : Display) : Ticks d d.tick := by
  unfold tick
  split
  · rename_i htyping
    split
    · exact .idle htyping ‹_›
    · rename_i line rest hq
      by_cases he : line = ""
      · subst he
        exact .showEmpty htyping hq
      · have hne : line.isEmpty = false := by simpa [String.isEmpty_iff] using he
        simpa [hne] using Ticks.start he htyping hq
  · rename_i line htyping
    split
    · exact .complete htyping ‹_›
    · exact .type htyping (by omega)

theorem Ticks.eq_of_fst_eq_false {d : Display} {t : Bool × Display} (h : Ticks d t)
    (hf : t.1 = false) : t.2 = d := by
  cases h <;> simp_all

theorem Ticks.fst_eq_false_iff {d : Display} {t : Bool × Display} (h : Ticks d t) :
    t.1 = false ↔ d.streaming = false := by
  cases h <;> simp_all [streaming]

/-- **A tick does nothing exactly when nothing is typed or queued.** -/
theorem tick_fst_eq_false_iff (d : Display) : d.tick.1 = false ↔ d.streaming = false :=
  d.ticks_tick.fst_eq_false_iff

/-! ### The transcript -/

/-- The text of a display in reading order: the lines shown in full, the line being typed, and
the queued lines. -/
def transcript (d : Display) : List String :=
  d.shown ++ d.typing.toList ++ d.queued

theorem Ticks.transcript {d : Display} {t : Bool × Display} (h : Ticks d t) :
    t.2.transcript = d.transcript := by
  cases h <;> simp_all [Display.transcript]

@[simp] theorem tick_transcript (d : Display) : d.tick.2.transcript = d.transcript :=
  d.ticks_tick.transcript

@[simp] theorem finishTyping_transcript (d : Display) : d.finishTyping.transcript = d.transcript := by
  cases h : d.typing <;> simp [finishTyping, Display.transcript, h]

/-- A line event sets its line apart exactly when there is text already. -/
theorem separates_iff (d : Display) : (!d.shown.isEmpty || d.streaming) = true ↔ d.transcript ≠ [] := by
  cases h : d.typing <;> simp [streaming, Display.transcript, h]
  tauto

theorem transcript_applyEvent {d : Display} {lines : List String}
    (h : d.transcript = lines.intersperse "") (ev : Event) :
    (d.applyEvent ev).transcript = (lines ++ shownLines ev).intersperse "" := by
  cases ev with
  | line speaker text =>
    simp only [applyEvent, shownLines]
    rw [intersperse_concat]
    by_cases hl : lines = []
    · -- the first line of the text goes in alone
      have hsep : (!d.shown.isEmpty || d.streaming) = false := by
        simpa [separates_iff, h, hl] using (separates_iff d).not
      simp only [hsep, hl, if_true, Bool.false_eq_true, if_false]
      simpa [Display.transcript, hl] using congrArg (· ++ [dialogueLine speaker text]) h
    · -- a later line goes in after an empty one
      have hsep : (!d.shown.isEmpty || d.streaming) = true := by
        rw [separates_iff, h]
        exact (intersperse_eq_nil_iff "" lines).not.2 hl
      simp only [hsep, hl, if_true, if_false]
      rw [← h]
      simp [Display.transcript]
  | choices items => simpa [applyEvent, Display.transcript, shownLines] using h
  | choicesCleared => simpa [applyEvent, Display.transcript, shownLines] using h
  | hidden => simpa [applyEvent, Display.transcript, shownLines] using h

theorem transcript_applyEvents {d : Display} {lines : List String}
    (h : d.transcript = lines.intersperse "") (evs : List Event) :
    (d.applyEvents evs).transcript = (lines ++ evs.flatMap shownLines).intersperse "" := by
  induction evs generalizing d lines with
  | nil => simpa [applyEvents] using h
  | cons ev evs ih =>
    simpa [applyEvents, List.flatMap_cons] using ih (transcript_applyEvent h ev)

/-! ### How far the typewriter is -/

/-- How far the typewriter is into its line: the line being typed has between one and all of its
characters out, and with no line being typed none are counted. -/
structure TypingInRange (d : Display) : Prop where
  typing : ∀ line, d.typing = some line → 1 ≤ d.typed ∧ d.typed ≤ line.length
  idle : d.typing = none → d.typed = 0

/-- Whether the typewriter is within its line depends on the line being typed and its count
only. -/
theorem TypingInRange.of_eq {d d' : Display} (h : d.TypingInRange) (htyping : d'.typing = d.typing)
    (htyped : d'.typed = d.typed) : d'.TypingInRange :=
  ⟨fun line hl => htyped ▸ h.typing line (htyping ▸ hl), fun hn => htyped ▸ h.idle (htyping ▸ hn)⟩

theorem typingInRange_of_idle {d : Display} (htyping : d.typing = none) (htyped : d.typed = 0) :
    d.TypingInRange :=
  ⟨fun _ hl => absurd (htyping ▸ hl) (by simp), fun _ => htyped⟩

theorem Ticks.typingInRange {d : Display} {t : Bool × Display} (h : Ticks d t)
    (hd : d.TypingInRange) : t.2.TypingInRange := by
  cases h with
  | idle => exact hd
  | showEmpty _ _ => exact hd.of_eq rfl rfl
  | @start line _ hne _ _ =>
    -- a line that is started is not empty, so its first character is out
    exact ⟨fun l hl => by cases hl; exact ⟨le_rfl, length_pos_of_ne_empty hne⟩, by simp⟩
  | complete _ _ => exact typingInRange_of_idle rfl rfl
  | type htyping hlt =>
    refine ⟨fun line hl => ?_, fun hn => by simp_all⟩
    rw [htyping] at hl
    cases hl
    exact ⟨by simp, by simpa using hlt⟩

/-! ### Runs of calls keep the text -/

/-- Events leave the line being typed and its count alone. -/
theorem applyEvents_typing (d : Display) (evs : List Event) :
    (d.applyEvents evs).typing = d.typing ∧ (d.applyEvents evs).typed = d.typed := by
  induction evs generalizing d with
  | nil => exact ⟨rfl, rfl⟩
  | cons ev evs ih =>
    obtain ⟨h1, h2⟩ := ih (d.applyEvent ev)
    cases ev <;> exact ⟨h1, h2⟩

/-- A call keeps the transcript joined from the lines taken in, and the typewriter within its
line. -/
theorem Call.keeps_text {d : Display} {lines : List String} (h : d.transcript = lines.intersperse "")
    (hd : d.TypingInRange) (c : Call) :
    (c.apply d).transcript = (c.addLines lines).intersperse "" ∧ (c.apply d).TypingInRange := by
  cases c with
  | applyEvents events =>
    obtain ⟨htyping, htyped⟩ := d.applyEvents_typing events
    exact ⟨transcript_applyEvents h events, hd.of_eq htyping htyped⟩
  | applyDiagnostics diagnostics =>
    simp only [Call.apply, Call.addLines]
    unfold Display.applyDiagnostics
    split <;> exact ⟨h, hd.of_eq rfl rfl⟩
  | selectPrevious => exact ⟨h, hd.of_eq rfl rfl⟩
  | selectNext => exact ⟨h, hd.of_eq rfl rfl⟩
  | tick => exact ⟨d.ticks_tick.transcript.trans h, d.ticks_tick.typingInRange hd⟩
  | finishTyping => exact ⟨(finishTyping_transcript d).trans h, typingInRange_of_idle rfl rfl⟩
  | reset => exact ⟨rfl, typingInRange_of_idle rfl rfl⟩

theorem runCalls_keeps_text {d : Display} {lines : List String}
    (h : d.transcript = lines.intersperse "") (hd : d.TypingInRange) (cs : List Call) :
    (d.runCalls cs).transcript = (cs.foldl (fun lines c => c.addLines lines) lines).intersperse "" ∧
      (d.runCalls cs).TypingInRange := by
  induction cs generalizing d lines with
  | nil => exact ⟨h, hd⟩
  | cons c cs ih =>
    obtain ⟨h', hd'⟩ := Call.keeps_text h hd c
    exact ih h' hd'

/-- **The transcript is the lines taken in, one empty line apart.** After every run of calls
from a display just reset (the new display among them), the transcript is the shown lines of the
line events taken in since the last reset, in order, with one empty line between each two and
none before the first or after the last; the line being typed has between one and all of its
characters out, and with none being typed no character is counted. Ticking and finishing never
change the transcript. -/
theorem transcript_joins_lines :
    (∀ (d : Display) (cs : List Call),
      (d.reset.runCalls cs).transcript = (Call.linesSince cs).intersperse "" ∧
        (d.reset.runCalls cs).TypingInRange) ∧
    ∀ d : Display, d.tick.2.transcript = d.transcript ∧ d.finishTyping.transcript = d.transcript :=
  ⟨fun _ cs => runCalls_keeps_text rfl (typingInRange_of_idle rfl rfl) cs,
    fun d => ⟨d.tick_transcript, d.finishTyping_transcript⟩⟩

/-! ### Running the typewriter out -/

theorem foldl_work (lines : List String) (n : Nat) :
    lines.foldl (fun n line => n + line.length + 1) n = n + (lines.map fun line => line.length + 1).sum := by
  induction lines generalizing n with
  | nil => simp
  | cons line lines ih =>
    rw [List.foldl_cons, ih, List.map_cons, List.sum_cons]
    omega

/-- The work left, counted line by line: one tick for each queued line and one for each of its
characters, and for the line being typed one tick for each character still to come and one to
show it. -/
theorem workLeft_eq (d : Display) :
    d.workLeft = (d.queued.map fun line => line.length + 1).sum +
      d.typing.elim 0 fun line => line.length - d.typed + 1 := by
  unfold workLeft
  rw [foldl_work, Nat.zero_add]
  cases d.typing <;> rfl

/-- **A tick that does something takes one off the work left.** -/
theorem Ticks.workLeft {d : Display} {t : Bool × Display} (h : Ticks d t) (ht : t.1 = true) :
    t.2.workLeft + 1 = d.workLeft := by
  cases h with
  | idle => cases ht
  | showEmpty htyping hq => simp [workLeft_eq, htyping, hq]; omega
  | @start line _ hne htyping hq =>
    have hpos := length_pos_of_ne_empty hne
    simp [workLeft_eq, htyping, hq]
    omega
  | complete htyping hle => simp [workLeft_eq, htyping]; omega
  | type htyping hlt => simp [workLeft_eq, htyping]; omega

theorem workLeft_eq_zero_iff (d : Display) : d.workLeft = 0 ↔ d.streaming = false := by
  rw [workLeft_eq]
  cases h : d.typing <;> cases hq : d.queued <;> simp [streaming, h, hq]

/-- A tick does something exactly while there is work left. -/
theorem tick_fst_eq_false_iff_workLeft (d : Display) : d.tick.1 = false ↔ d.workLeft = 0 :=
  (tick_fst_eq_false_iff d).trans (workLeft_eq_zero_iff d).symm

/-- The count of typed characters that running the typewriter out leaves: the count as it is
when no line is left to type, and zero otherwise, since the last line typed out resets it. -/
def typedLeft (d : Display) : Nat :=
  if d.typing = none ∧ ∀ line ∈ d.queued, line = "" then d.typed else 0

theorem Ticks.typedLeft {d : Display} {t : Bool × Display} (h : Ticks d t) :
    t.2.typedLeft = d.typedLeft := by
  cases h <;> simp_all [Display.typedLeft]

/-- A tick leaves what finishing would leave. -/
theorem Ticks.finishTyping {d : Display} {t : Bool × Display} (h : Ticks d t) :
    t.2.finishTyping = d.finishTyping := by
  cases h <;> simp_all [Display.finishTyping]

/-- **Ticking `workLeft` times** does something at every tick and ends where finishing puts
the display, with the count of typed characters that ticking leaves. The induction is on the
work left, which each tick lowers by one. -/
theorem iterate_tick_workLeft (d : Display) :
    (∀ k < d.workLeft, ((fun d : Display => d.tick.2)^[k] d).tick.1 = true) ∧
      (fun d : Display => d.tick.2)^[d.workLeft] d = { d.finishTyping with typed := d.typedLeft } := by
  induction hw : d.workLeft generalizing d with
  | zero =>
    -- nothing is typed or queued: the display is already finished
    have hs := (workLeft_eq_zero_iff d).1 hw
    have htyping : d.typing = none := by simp_all [streaming]
    have hq : d.queued = [] := by simp_all [streaming]
    refine ⟨fun k hk => absurd hk (Nat.not_lt_zero k), ?_⟩
    cases d
    simp_all [Display.finishTyping, Display.typedLeft]
  | succ n ih =>
    -- there is work left, so the first tick does something
    have ht : d.tick.1 = true := by
      rw [← Bool.not_eq_false, tick_fst_eq_false_iff_workLeft, hw]
      exact Nat.succ_ne_zero n
    have hw' : d.tick.2.workLeft = n := by
      have := d.ticks_tick.workLeft ht
      omega
    obtain ⟨hon, hend⟩ := ih d.tick.2 hw'
    refine ⟨fun k hk => ?_, ?_⟩
    · cases k with
      | zero => exact ht
      | succ k => simpa [Function.iterate_succ_apply] using hon k (by omega)
    · rw [Function.iterate_succ_apply, hend, d.ticks_tick.finishTyping, d.ticks_tick.typedLeft]

theorem drainFor_eq {n : Nat} (count : Nat) {d : Display} (h : d.workLeft < n) :
    drainFor n count d = (count + d.workLeft, (fun d : Display => d.tick.2)^[d.workLeft] d) := by
  induction n generalizing count d with
  | zero => omega
  | succ n ih =>
    unfold drainFor
    rcases ht : d.tick with ⟨_ | _, d'⟩
    · -- nothing to do: the work left is none
      have hd' : d' = d := by simpa [ht] using d.ticks_tick.eq_of_fst_eq_false (by simp [ht])
      have hw : d.workLeft = 0 := (tick_fst_eq_false_iff_workLeft d).1 (by simp [ht])
      simp [hd', hw]
    · have hw : d'.workLeft + 1 = d.workLeft := by simpa [ht] using d.ticks_tick.workLeft (by simp [ht])
      simp only
      rw [ih (count + 1) (by omega), ← hw, Function.iterate_succ_apply, ht]
      simp only [Prod.mk.injEq, and_true]
      omega

/-- **Running the typewriter out is finishing.** For every display: the work left is one tick
for each character still to come of the line being typed and one to show it, and for each queued
line one tick if it is empty and one more than its length otherwise; the typewriter does something
at exactly that many ticks in a row and then nothing; a tick does nothing exactly when nothing is
typed or queued; and the display is then the one finishing gives, except that with no line to type
(none being typed, every queued line empty) it keeps its count of typed characters, which
finishing sets to zero. Draining the typewriter counts those ticks and ends there. -/
theorem typewriter_runs_to_finish (d : Display) :
    d.workLeft = (d.typing.elim 0 fun line => line.length - d.typed + 1) +
      (d.queued.map fun line => if line = "" then 1 else line.length + 1).sum ∧
    (∀ k < d.workLeft, ((fun d : Display => d.tick.2)^[k] d).tick.1 = true) ∧
    ((fun d : Display => d.tick.2)^[d.workLeft] d).tick.1 = false ∧
    (d.tick.1 = false ↔ d.streaming = false) ∧
    (fun d : Display => d.tick.2)^[d.workLeft] d =
      (if d.typing = none ∧ ∀ line ∈ d.queued, line = "" then { d.finishTyping with typed := d.typed }
        else d.finishTyping) ∧
    d.drain = (d.workLeft, (fun d : Display => d.tick.2)^[d.workLeft] d) := by
  obtain ⟨hon, hend⟩ := iterate_tick_workLeft d
  -- an empty line takes one tick: one more than its length
  have hempty : (d.queued.map fun line => if line = "" then 1 else line.length + 1) =
      d.queued.map fun line => line.length + 1 := by
    refine List.map_congr_left fun line _ => ?_
    split <;> simp_all
  refine ⟨by rw [workLeft_eq, hempty, Nat.add_comm], hon, ?_, tick_fst_eq_false_iff d, ?_, ?_⟩
  · rw [hend, tick_fst_eq_false_iff]
    rfl
  · rw [hend, Display.typedLeft]
    split <;> rfl
  · unfold drain
    simpa using drainFor_eq 0 (Nat.lt_succ_self d.workLeft)

/-- With no line to type, the typewriter has nothing to do and keeps its count of typed
characters, which finishing sets to zero. -/
theorem ticking_idle_keeps_typed :
    let d : Display := { typed := 1 }
    (∀ line, d.typing = some line → d.typed ≤ line.length) ∧ d.tick = (false, d) ∧
      d ≠ d.finishTyping := by
  intro d
  refine ⟨fun line hl => absurd hl (by simp [d]), rfl, fun h => ?_⟩
  exact absurd (congrArg Display.typed h) (by decide)

end Display

end Colloquy.Screen
