import Colloquy.Proofs.DisplayRuns
import Colloquy.Screen.Render
/-!
# The choice window

The choices are seen through a window of `windowRows` rows, from the first choice in view
(`Display.scroll`) on. While choices are shown the window fits them (`Display.WindowFits`): the
selected choice exists and is in view, and the window runs past the last choice only when all
the choices fit in it.

A new list of choices selects its first one and scrolls to the top, so it fits
(`windowFits_top`). Selecting the next choice stops at the last and scrolls just far enough to
keep the selection in view (`WindowFits.selectNext`); selecting the previous one stops at the
first and scrolls back to it when it leaves the window (`WindowFits.selectPrevious`). Every other
call leaves the choices, the selection and the window alone, or empties the choices: clearing,
hiding and resetting. Hiding keeps the old selection and window, which do not matter while no
choices are shown and are reset by the next list.

So after every run of calls from a new display, while choices are shown, the selection is a
choice in view, and the window's rows show the choices from the first in view on, as many as fit,
with exactly one row marked: the selected choice's (`choice_window_stays_valid`).
-/

namespace Colloquy.Screen

namespace Display

/-- **The window fits the choices**: the selected choice exists and is in view, and the window
runs past the last choice only when all the choices fit in it. -/
structure WindowFits (d : Display) : Prop where
  selected_lt : d.selected < d.choices.length
  scroll_le : d.scroll ≤ d.selected
  lt_scroll_add : d.selected < d.scroll + windowRows
  window_le : d.scroll + min d.choices.length windowRows ≤ d.choices.length

/-- While choices are shown, the window fits them. -/
def WindowKept (d : Display) : Prop :=
  d.choices ≠ [] → d.WindowFits

/-- Whether the window fits depends on the choices, the selection and the window only. -/
theorem WindowKept.of_eq {d d' : Display} (h : d.WindowKept) (hc : d'.choices = d.choices)
    (hs : d'.selected = d.selected) (hw : d'.scroll = d.scroll) : d'.WindowKept := by
  intro hne
  obtain ⟨h1, h2, h3, h4⟩ := h (hc ▸ hne)
  exact ⟨hc ▸ hs ▸ h1, hs ▸ hw ▸ h2, hs ▸ hw ▸ h3, hc ▸ hw ▸ h4⟩

theorem windowKept_of_choices_eq_nil {d : Display} (h : d.choices = []) : d.WindowKept :=
  fun hne => absurd h hne

/-! ### One call at a time -/

/-- A new list of choices, with the first selected and the window at the top, fits. -/
theorem windowFits_top {d : Display} (hne : d.choices ≠ []) (hsel : d.selected = 0)
    (hscroll : d.scroll = 0) : d.WindowFits := by
  have hpos := List.length_pos_of_ne_nil hne
  refine ⟨?_, ?_, ?_, ?_⟩ <;> simp only [hsel, hscroll, windowRows] <;> omega

/-- Selecting the next choice keeps the selection in view: past the window's last row, the window
scrolls so that the selection is its last row. -/
theorem WindowFits.selectNext {d : Display} (h : d.WindowFits) : d.selectNext.WindowFits := by
  obtain ⟨h1, h2, h3, h4⟩ := h
  have hrows : windowRows = 5 := rfl
  dsimp only [Display.selectNext]
  split
  · rename_i hpast
    simp only [Bool.and_eq_true, decide_eq_true_eq] at hpast
    refine ⟨?_, ?_, ?_, ?_⟩ <;> dsimp only <;> omega
  · rename_i hin
    simp only [Bool.and_eq_true, decide_eq_true_eq, not_and, Nat.not_le] at hin
    refine ⟨?_, ?_, ?_, ?_⟩ <;> dsimp only <;> omega

/-- Selecting the previous choice keeps the selection in view: before the window's first row, the
window scrolls back to it. -/
theorem WindowFits.selectPrevious {d : Display} (h : d.WindowFits) : d.selectPrevious.WindowFits := by
  obtain ⟨h1, h2, h3, h4⟩ := h
  dsimp only [Display.selectPrevious]
  split <;> refine ⟨?_, ?_, ?_, ?_⟩ <;> dsimp only <;> omega

theorem WindowKept.applyEvent {d : Display} (h : d.WindowKept) (ev : Event) :
    (d.applyEvent ev).WindowKept := by
  cases ev with
  | line speaker text => exact h.of_eq rfl rfl rfl
  | choices items => exact fun hne => windowFits_top hne rfl rfl
  | choicesCleared => exact windowKept_of_choices_eq_nil rfl
  | hidden => exact windowKept_of_choices_eq_nil rfl

theorem WindowKept.applyEvents {d : Display} (h : d.WindowKept) (evs : List Event) :
    (d.applyEvents evs).WindowKept := by
  induction evs generalizing d with
  | nil => exact h
  | cons ev evs ih => exact ih (h.applyEvent ev)

/-- A tick leaves the choices, the selection and the window alone. -/
theorem Ticks.choices_frame {d : Display} {t : Bool × Display} (h : Ticks d t) :
    t.2.choices = d.choices ∧ t.2.selected = d.selected ∧ t.2.scroll = d.scroll := by
  cases h <;> exact ⟨rfl, rfl, rfl⟩

@[simp] theorem applyDiagnostics_scroll (d : Display) (ds : List Diagnostic) :
    (d.applyDiagnostics ds).scroll = d.scroll := by
  unfold Display.applyDiagnostics
  split <;> rfl

/-- **Every call keeps the window fitting the choices shown.** -/
theorem WindowKept.apply {d : Display} (h : d.WindowKept) : ∀ c : Call, (c.apply d).WindowKept
  | .applyEvents events => h.applyEvents events
  | .applyDiagnostics diagnostics => h.of_eq (by simp [Call.apply]) (by simp [Call.apply])
      (by simp [Call.apply])
  | .selectPrevious => fun hne => (h hne).selectPrevious
  | .selectNext => fun hne => (h hne).selectNext
  | .tick =>
    have hframe := d.ticks_tick.choices_frame
    h.of_eq hframe.1 hframe.2.1 hframe.2.2
  | .finishTyping => h.of_eq rfl rfl rfl
  | .reset => windowKept_of_choices_eq_nil rfl

theorem WindowKept.runCalls {d : Display} (h : d.WindowKept) (cs : List Call) :
    (d.runCalls cs).WindowKept := by
  induction cs generalizing d with
  | nil => exact h
  | cons c cs ih => exact ih (h.apply c)

/-! ### What the window shows -/

/-- How a choice is written in the window, cut to `width`. -/
def choiceLabel (width : Nat) (c : ChoiceItem) : String :=
  truncate ("[" ++ toString c.index ++ "] " ++ c.text) width

/-- The choices in view: from the first in view on, as many as the window has rows. -/
def inView (d : Display) : List ChoiceItem :=
  (d.choices.drop d.scroll).take windowRows

theorem length_inView (d : Display) :
    d.inView.length = min windowRows (d.choices.length - d.scroll) := by
  simp [inView]

/-- **The rows of the window**, when it shows choices: the choices in view, in order, each
marked when it is the selected one, then blank rows. -/
theorem choiceRows_shown (d : Display) (width : Nat) :
    choiceRows d true width =
      (d.inView.zipIdx.map fun p => (choiceLabel width p.1, d.scroll + p.2 == d.selected)) ++
        List.replicate (windowRows - d.inView.length) (" ", false) := by
  apply List.ext_getElem?
  intro row
  have hlen := length_inView d
  simp only [choiceRows, List.getElem?_map, List.getElem?_append,
    List.length_map, List.length_zipIdx, List.getElem?_zipIdx, List.getElem?_replicate]
  by_cases hin : row < d.inView.length
  · -- a row in view shows the choice at its place
    have hat : d.inView[row]? = d.choices[d.scroll + row]? := by
      simp only [inView, List.getElem?_take, List.getElem?_drop]
      rw [if_pos (by omega)]
    have hlt : row < windowRows := by omega
    obtain ⟨c, hc⟩ : ∃ c, d.choices[d.scroll + row]? = some c :=
      Option.isSome_iff_exists.1 (by rw [← hat]; simp [hin])
    rw [hat, hc]
    simp [hin, hlt, hc, choiceLabel]
  · -- a row past the choices in view is blank
    by_cases hlt : row < windowRows
    · have hnone : d.choices[d.scroll + row]? = none := by
        rw [List.getElem?_eq_none_iff]
        omega
      simp [hin, hlt, hnone]
      omega
    · simp [hin, hlt]
      omega

theorem WindowFits.length_inView {d : Display} (h : d.WindowFits) :
    d.inView.length = min d.choices.length windowRows := by
  have := h.window_le
  rw [Display.length_inView]
  omega

/-- The selected choice is in view, at its distance from the first choice in view. -/
theorem WindowFits.selected_sub_lt {d : Display} (h : d.WindowFits) :
    d.selected - d.scroll < d.inView.length := by
  have hlen := h.length_inView
  have hrows : windowRows = 5 := rfl
  have := h.lt_scroll_add
  have := h.selected_lt
  omega

/-- Exactly one row of the window is marked. -/
theorem WindowFits.countP_marked {d : Display} (h : d.WindowFits) (width : Nat) :
    (choiceRows d true width).countP (·.2) = 1 := by
  have hle := h.scroll_le
  rw [choiceRows_shown, List.countP_append, List.countP_replicate, List.countP_map]
  -- the rows are numbered in order, and only the selected choice's number is marked
  have hrows : (d.inView.zipIdx).countP ((·.2) ∘ fun p => (choiceLabel width p.1, d.scroll + p.2 == d.selected)) =
      (List.range d.inView.length).count (d.selected - d.scroll) := by
    rw [List.count_eq_countP, List.range_eq_range', ← List.zipIdx_map_snd, List.countP_map]
    refine List.countP_congr fun p _ => ?_
    simp only [Function.comp, beq_iff_eq]
    omega
  rw [hrows, List.count_range, if_pos h.selected_sub_lt]
  rfl

/-- The selected choice's row is the marked one. -/
theorem WindowFits.selected_row {d : Display} (h : d.WindowFits) (width : Nat) :
    (choiceRows d true width)[d.selected - d.scroll]? =
      d.choices[d.selected]?.map fun c => (choiceLabel width c, true) := by
  have hin := h.selected_sub_lt
  have hle := h.scroll_le
  have hat : d.inView[d.selected - d.scroll]? = d.choices[d.selected]? := by
    simp only [inView, List.getElem?_take, List.getElem?_drop]
    rw [if_pos (by have := h.lt_scroll_add; omega), Nat.add_sub_cancel' hle]
  rw [choiceRows_shown, List.getElem?_append, if_pos (by simpa using hin), List.getElem?_map,
    List.getElem?_zipIdx, hat]
  cases d.choices[d.selected]? <;> simp [Nat.add_sub_cancel' hle]

/-- What the window promises while choices are shown. -/
structure WindowShows (d : Display) : Prop where
  /-- The window fits the choices. -/
  fits : d.WindowFits
  /-- A choice is selected. -/
  selects : d.selectedChoice?.isSome = true
  /-- The rows show the choices from the first in view on, as many as fit, then blank rows. -/
  rows : ∀ width, (choiceRows d true width).map Prod.fst =
    (d.choices.drop d.scroll |>.take windowRows).map (choiceLabel width) ++
      List.replicate (windowRows - min d.choices.length windowRows) " "
  /-- Exactly one row is marked. -/
  one_marked : ∀ width, (choiceRows d true width).countP (·.2) = 1
  /-- The marked row is the selected choice's. -/
  selected_row : ∀ width, (choiceRows d true width)[d.selected - d.scroll]? =
    d.choices[d.selected]?.map fun c => (choiceLabel width c, true)

theorem WindowFits.shows {d : Display} (h : d.WindowFits) : d.WindowShows := by
  refine ⟨h, by simp [selectedChoice?, h.selected_lt], fun width => ?_, h.countP_marked,
    h.selected_row⟩
  rw [choiceRows_shown, List.map_append, List.map_map, List.map_replicate, h.length_inView]
  congr 1
  -- the labels of the rows in view are those of the choices in view
  rw [show (Prod.fst ∘ fun p : ChoiceItem × Nat => (choiceLabel width p.1, d.scroll + p.2 == d.selected)) =
      choiceLabel width ∘ Prod.fst from rfl, ← List.map_map, List.zipIdx_map_fst]
  rfl

/-- **The choice window stays valid.** After every run of calls on a new display (events of any
kind, diagnostics, selection moves, ticks, finishing and resets), while choices are shown the
window fits them, a choice is selected, and the window's rows show the choices from the first in
view on, as many as fit, then blank rows, with exactly one row marked: the selected choice's. -/
theorem choice_window_stays_valid (cs : List Call) :
    let d := ({} : Display).runCalls cs
    d.choices ≠ [] → d.WindowShows :=
  fun hne => ((windowKept_of_choices_eq_nil rfl).runCalls cs hne).shows

/-- Seven choices, more than the window has rows. -/
def sevenChoices : List ChoiceItem :=
  (List.range 7).map fun i => ⟨i, "door " ++ toString i⟩

/-- Seven choices shown, with the selection moved down to the last: the window has scrolled by
two. -/
theorem sevenChoices_window_stays_valid :
    let d := ({} : Display).runCalls (.applyEvents [.line "Ann" "Pick a door.", .choices sevenChoices] ::
      List.replicate 6 .selectNext)
    d.choices ≠ [] ∧ d.WindowShows := by
  intro d
  have hne : d.choices ≠ [] := by
    simp [d, runCalls, Call.apply, applyEvents, applyEvent, selectNext, sevenChoices]
  exact ⟨hne, choice_window_stays_valid _ hne⟩

end Display

end Colloquy.Screen
