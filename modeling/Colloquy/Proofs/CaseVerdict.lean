import Colloquy.Proofs.Registry
import Colloquy.Proofs.Emission
import Colloquy.Script.Run
/-!
# Checking a case decides agreement

`runCase` builds an engine for a dialogue, started at the case's entry, dispatches the case's
actions to it, and reports what the engine recorded. What it reports is told by the engine
(`Report.Runs`): the events are those the engine emitted from its building on (`Engine.Emits`),
less the cleared choices; the ignored actions are those the engine did not act on; the values
are its final bindings; the codes are those of the newest diagnostics it reported.

`assertCase` reads a case, runs it, and compares. Its answer is `Verdict`, case by case in the
order of the checks: a case file that is not read, not a case or of another schema
(`CaseFails`); a dialogue that is missing, not read, or that no engine is built from
(`RunFails`); and then the first comparison that fails, or agreement (`Compares`). The
comparisons go in this order: the number of events, the event at the least index that differs,
the expected variable of least name that the run did not bind to its value, and the diagnostic
codes when the case lists them. Nothing else is compared: a run agrees with a case exactly when
it meets all four (`Report.Meets`).

The variables are compared in the order the case lists them, which is byte order because the
map that holds them keeps its keys sorted (`KeyMap.sorted`); so the first one that differs is
the one of least name (`variableDifference_least`, `variableDifference_eq_least`).
-/

namespace Colloquy.Script

open Files

/-! ### Reading a case -/

/-- A case is read when its file is read, decodes, and names the schema. -/
theorem readCase_eq_ok_iff {fs : FileSystem} {path : String} {c : Case} :
    readCase fs path = .ok c ↔
      ∃ raw, fs.readText path = .ok raw ∧ decodeCase raw = .ok c ∧ c.schemaVersion = schemaV1 := by
  cases htext : fs.readText path with
  | error reason => simp [readCase, htext, bind, Except.bind, Except.mapError]
  | ok raw =>
    cases hdec : decodeCase raw with
    | error e => simp [readCase, htext, hdec, bind, Except.bind, Except.mapError]
    | ok c' =>
      by_cases hs : c'.schemaVersion = schemaV1
      · simp [readCase, htext, hdec, bind, Except.bind, Except.mapError, hs, pure, Except.pure]
        rintro rfl
        exact hs
      · simp [readCase, htext, hdec, bind, Except.bind, Except.mapError, hs, throw, throwThe,
          MonadExceptOf.throw]
        rintro rfl
        exact hs

/-- **Why a case is not read**, in the order of the reading. -/
inductive CaseFails (fs : FileSystem) (path : String) : ToolError → Prop
  /-- The file is not read. -/
  | unread {reason : String} : fs.readText path = .error reason →
      CaseFails fs path (.readFile path reason)
  /-- Its text is not a case. -/
  | invalid {raw : String} {e : Json.Error} : fs.readText path = .ok raw →
      decodeCase raw = .error e → CaseFails fs path (.parseCase path e)
  /-- The case names another schema. -/
  | otherSchema {raw : String} {c : Case} : fs.readText path = .ok raw → decodeCase raw = .ok c →
      c.schemaVersion ≠ schemaV1 → CaseFails fs path (.invalidSchemaVersion c.schemaVersion)

theorem readCase_eq_error_iff {fs : FileSystem} {path : String} {err : ToolError} :
    readCase fs path = .error err ↔ CaseFails fs path err := by
  constructor
  · intro h
    cases htext : fs.readText path with
    | error reason =>
      simp only [readCase, htext, Except.mapError, bind, Except.bind, Except.error.injEq] at h
      exact h ▸ .unread htext
    | ok raw =>
      cases hdec : decodeCase raw with
      | error e =>
        simp only [readCase, htext, hdec, Except.mapError, bind, Except.bind,
          Except.error.injEq] at h
        exact h ▸ .invalid htext hdec
      | ok c =>
        by_cases hs : c.schemaVersion = schemaV1
        · simp [readCase, htext, hdec, bind, Except.bind, Except.mapError, hs, pure,
            Except.pure] at h
        · simp [readCase, htext, hdec, bind, Except.bind, Except.mapError, hs, throw, throwThe,
            MonadExceptOf.throw] at h
          exact h ▸ .otherSchema htext hdec hs
  · rintro (⟨htext⟩ | ⟨htext, hdec⟩ | ⟨htext, hdec, hs⟩)
    · simp [readCase, htext, bind, Except.bind, Except.mapError]
    · simp [readCase, htext, hdec, bind, Except.bind, Except.mapError]
    · simp [readCase, htext, hdec, bind, Except.bind, Except.mapError, hs, throw, throwThe,
        MonadExceptOf.throw]

/-! ### Running a case -/

/-- Whether the engine acted on each action, dispatched in turn from `e`. -/
def actedOn (e : Engine) : List Action → List Bool
  | [] => []
  | a :: as => (e.dispatch a.command).1 :: actedOn (e.dispatch a.command).2 as

/-- The actions of a case as the engine operations that dispatch them. -/
def dispatches (actions : List Action) : List Engine.Op :=
  actions.map fun a => .dispatch a.command

/-- Feeding actions one by one counts those the engine did not act on, and leaves the engine
that dispatching them all leaves. -/
theorem foldl_dispatch_count {f : Nat × Engine → Action → Nat × Engine}
    (hf : ∀ n e a, f (n, e) a =
      (if (e.dispatch a.command).1 then n else n + 1, (e.dispatch a.command).2))
    (actions : List Action) (n : Nat) (e : Engine) :
    actions.foldl f (n, e) =
      (n + (actedOn e actions).count false, e.runOps (dispatches actions)) := by
  induction actions generalizing n e with
  | nil => simp [actedOn, dispatches]
  | cons a as ih =>
    rw [List.foldl_cons, hf, ih]
    simp only [actedOn, dispatches, List.map_cons, Engine.runOps_cons, Engine.Op.apply,
      List.count_cons, Prod.mk.injEq]
    cases (e.dispatch a.command).1 with
    | false =>
      simp only [Bool.false_eq_true, if_false, BEq.rfl, if_true, and_true]
      omega
    | true => simp

theorem feed_eq (e : Engine) (actions : List Action) :
    feed e actions = ((actedOn e actions).count false, e.runOps (dispatches actions)) := by
  unfold feed
  rw [foldl_dispatch_count _ actions 0 e, Nat.zero_add]
  -- the step of the fold is, by definition, the one the count asks for
  intro n e a
  rfl

/-- Dispatches neither take diagnostics nor subscribe. -/
theorem dispatches_emit (actions : List Action) :
    ∀ op ∈ dispatches actions, op ≠ .takeDiagnostics ∧ op.addsListener = false := by
  intro op hop
  obtain ⟨a, -, rfl⟩ := List.mem_map.mp hop
  exact ⟨fun h => Engine.Op.noConfusion h, rfl⟩

/-- **Why a case does not run**, in the order of the run. -/
inductive RunFails (fs : FileSystem) (dir : String) (c : Case) : ToolError → Prop
  /-- The directory holds no dialogue. -/
  | noDialogue : fs.isFile (join dir dialogueFileName) = false →
      RunFails fs dir c (.sourceMissing dir)
  /-- The dialogue is not read. -/
  | dialogueUnread {reason : String} : fs.isFile (join dir dialogueFileName) = true →
      fs.readText (join dir dialogueFileName) = .error reason →
      RunFails fs dir c (.readFile (join dir dialogueFileName) reason)
  /-- No engine is built from the dialogue. -/
  | engine {source : String} {f : Fault} : readDialogue fs dir = .ok source →
      Engine.create source c.start {} { attached := true } = .error f →
      RunFails fs dir c (.engine f)

/-- A case whose dialogue is read and built runs; its report is read off the engine left once
its actions are dispatched. -/
theorem runCase_eq {fs : FileSystem} {dir source : String} {c : Case} {e₀ : Engine}
    (hsrc : readDialogue fs dir = .ok source)
    (hcreate : Engine.create source c.start {} { attached := true } = .ok e₀) :
    runCase fs dir c = .ok
      { observed := (e₀.runOps (dispatches c.actions)).presentation.events.toList.filterMap observe
        values := (e₀.runOps (dispatches c.actions)).store.toList
        diagnostics := (e₀.runOps (dispatches c.actions)).diagnostics.entries.map (·.code)
        ignored := (actedOn e₀ c.actions).count false } := by
  simp only [runCase, hsrc, hcreate, Except.mapError, bind, Except.bind, feed_eq]
  rfl

theorem runCase_eq_error_iff {fs : FileSystem} {dir : String} {c : Case} {err : ToolError} :
    runCase fs dir c = .error err ↔ RunFails fs dir c err := by
  constructor
  · intro h
    cases hsrc : readDialogue fs dir with
    | error e =>
      simp only [runCase, hsrc, bind, Except.bind, Except.error.injEq] at h
      subst h
      -- the dialogue is missing or not read
      cases hfile : fs.isFile (join dir dialogueFileName) with
      | false =>
        simp [readDialogue, hfile] at hsrc
        exact hsrc ▸ .noDialogue hfile
      | true =>
        cases htext : fs.readText (join dir dialogueFileName) with
        | error reason =>
          simp [readDialogue, hfile, htext, Except.mapError] at hsrc
          exact hsrc ▸ .dialogueUnread hfile htext
        | ok source => simp [readDialogue, hfile, htext, Except.mapError] at hsrc
    | ok source =>
      cases hcreate : Engine.create source c.start {} { attached := true } with
      | error f =>
        simp only [runCase, hsrc, hcreate, Except.mapError, bind, Except.bind,
          Except.error.injEq] at h
        exact h ▸ .engine hsrc hcreate
      | ok e₀ => simp [runCase_eq hsrc hcreate] at h
  · rintro (⟨hfile⟩ | ⟨hfile, htext⟩ | ⟨hsrc, hcreate⟩)
    · simp [runCase, readDialogue, hfile, bind, Except.bind]
    · simp [runCase, readDialogue, hfile, htext, bind, Except.bind, Except.mapError]
    · simp [runCase, hsrc, hcreate, bind, Except.bind, Except.mapError]

/-- A store's bindings, looked up by name, give its values. -/
theorem Store.lookup_toList (s : Store) (name : String) : s.toList.lookup name = s.get? name := by
  simp only [Store.toList, Store.get?, KeyMap.find?]
  generalize s.map.entries = l
  induction l with
  | nil => rfl
  | cons q l ih =>
    obtain ⟨k, v⟩ := q
    by_cases h : name = k
    · subst h
      simp
    · simp [List.lookup_cons, beq_false_of_ne h, Ne.symm h, ih]

/-- **What a run of the case `c` reports**, told by the engine: the dialogue is read and an
engine `e₀` built from it, recording, at the case's entry; the case's actions are then
dispatched in turn. The events observed are those the engine emitted from its building on, with
cleared choices left out, the hidden dialogue as the end and choice lists as their texts; the
actions ignored are those the engine did not act on; the values are its final bindings; and the
codes are those of the diagnostics it reported, the newest `defaultDiagnosticLimit` of them. -/
def Report.Runs (r : Report) (fs : FileSystem) (dir : String) (c : Case) : Prop :=
  ∃ source e₀ events ds, readDialogue fs dir = .ok source ∧
    Engine.create source c.start {} { attached := true } = .ok e₀ ∧
    (Engine.new {} { attached := true }).Emits (e₀.runOps (dispatches c.actions)) events ds ∧
    r.observed = events.filterMap observe ∧
    r.ignored = (actedOn e₀ c.actions).count false ∧
    (∀ name, r.values.lookup name = (e₀.runOps (dispatches c.actions)).store.get? name) ∧
    r.diagnostics = (ds.rtake defaultDiagnosticLimit).map (·.code)

theorem runCase_runs {fs : FileSystem} {dir : String} {c : Case} {r : Report}
    (h : runCase fs dir c = .ok r) : r.Runs fs dir c := by
  cases hsrc : readDialogue fs dir with
  | error err => simp [runCase, hsrc, bind, Except.bind] at h
  | ok source =>
    cases hcreate : Engine.create source c.start {} { attached := true } with
    | error f => simp [runCase, hsrc, hcreate, bind, Except.bind, Except.mapError] at h
    | ok e₀ =>
      rw [runCase_eq hsrc hcreate, Except.ok.injEq] at h
      subst h
      -- building emits, and so does every dispatch after it
      obtain ⟨hwf, u₀, ds₀, hstart, -⟩ := Engine.create_emits hcreate
      obtain ⟨u, ds, hrun⟩ := hwf.emits_runOps (dispatches c.actions) (dispatches_emit c.actions)
      have hall := hstart.trans hrun
      have hkeeps := hall.keeps (DiagnosticLog.keeps_withLimit defaultDiagnosticLimit)
      refine ⟨source, e₀, u₀ ++ u, ds₀ ++ ds, hsrc, hcreate, hall, ?_, rfl, ?_, ?_⟩
      · rw [hall.events rfl rfl]
      · exact Store.lookup_toList _
      · have hwindow : max defaultDiagnosticLimit 1 = defaultDiagnosticLimit := rfl
        rw [hkeeps.entries, List.nil_append, hwindow]

/-! ### The first event that differs -/

theorem firstDifference_self (i : Nat) (xs : List Expected) : firstDifference i xs xs = none := by
  induction xs generalizing i with
  | nil => rfl
  | cons x xs ih => simp [firstDifference, ih]

/-- Events shown as expected pass both event comparisons. -/
theorem events_pass {xs ys : List Expected} (h : ys = xs) :
    ys.length = xs.length ∧ firstDifference 0 xs ys = none := by
  subst h
  exact ⟨rfl, firstDifference_self 0 ys⟩

/-- Lists of one length in which no difference is found are equal. -/
theorem eq_of_firstDifference_eq_none {i : Nat} {xs ys : List Expected}
    (h : firstDifference i xs ys = none) (hlen : xs.length = ys.length) : xs = ys := by
  induction xs generalizing i ys with
  | nil => exact (List.length_eq_zero_iff.mp hlen.symm).symm
  | cons x xs ih =>
    cases ys with
    | nil => simp at hlen
    | cons y ys =>
      by_cases hxy : x = y
      · subst hxy
        rw [firstDifference, if_pos (beq_self_eq_true x)] at h
        rw [ih h (by simpa using hlen)]
      · rw [firstDifference, if_neg (by simpa using hxy)] at h
        cases h

/-- **The difference found is the first**: counted from `i`, it is at the least index where the
lists hold different events. -/
theorem firstDifference_eq_some_iff {x y : Expected} :
    ∀ {i k : Nat} {xs ys : List Expected}, firstDifference i xs ys = some (k, x, y) ↔
      ∃ j, k = i + j ∧ xs[j]? = some x ∧ ys[j]? = some y ∧ x ≠ y ∧
        ∀ j' < j, xs[j']? = ys[j']?
  | i, k, [], ys => by simp [firstDifference]
  | i, k, _ :: _, [] => by simp [firstDifference]
  | i, k, x' :: xs, y' :: ys => by
    by_cases hxy : x' = y'
    · -- equal heads: the difference is in the tails, one index on
      subst hxy
      rw [firstDifference, if_pos (beq_self_eq_true x'), firstDifference_eq_some_iff]
      constructor
      · rintro ⟨j, rfl, hx, hy, hne, hpre⟩
        refine ⟨j + 1, by omega, hx, hy, hne, fun j' hj' => ?_⟩
        cases j' with
        | zero => rfl
        | succ j' => exact hpre j' (by omega)
      · rintro ⟨j, rfl, hx, hy, hne, hpre⟩
        cases j with
        | zero =>
          simp only [List.getElem?_cons_zero, Option.some.injEq] at hx hy
          exact absurd (hx.symm.trans hy) hne
        | succ j => exact ⟨j, by omega, hx, hy, hne, fun j' hj' => hpre (j' + 1) (by omega)⟩
    · -- different heads: the difference is there
      rw [firstDifference, if_neg (by simpa using hxy)]
      constructor
      · intro h
        simp only [Option.some.injEq, Prod.mk.injEq] at h
        obtain ⟨rfl, rfl, rfl⟩ := h
        exact ⟨0, rfl, rfl, rfl, hxy, by simp⟩
      · rintro ⟨j, rfl, hx, hy, hne, hpre⟩
        cases j with
        | zero =>
          simp only [List.getElem?_cons_zero, Option.some.injEq] at hx hy
          subst hx hy
          rfl
        | succ j =>
          have := hpre 0 (by omega)
          simp only [List.getElem?_cons_zero, Option.some.injEq] at this
          exact absurd this hxy

/-! ### The first variable that differs -/

/-- The values `found` bind `name` to a value the same as `v`, across number kinds. A name left
unset binds nothing. -/
def Binds (found : List (String × Scalar)) (name : String) (v : Scalar) : Prop :=
  ∃ w, found.lookup name = some w ∧ w.same v = true

theorem binds_iff_any {found : List (String × Scalar)} {name : String} {v : Scalar} :
    Binds found name v ↔ (found.lookup name).any (·.same v) = true :=
  (Option.any_eq_true _ _).symm

/-- One expected binding: it is passed over when bound, and reported with the value found
otherwise. -/
theorem variableDifference_cons (name : String) (v : Scalar) (ps found : List (String × Scalar)) :
    variableDifference ((name, v) :: ps) found =
      if (found.lookup name).any (·.same v) then variableDifference ps found
      else some (name, v, found.lookup name) := by
  simp only [variableDifference, List.findSome?_cons]
  cases found.lookup name with
  | none => rfl
  | some w => cases hw : w.same v <;> simp [hw]

theorem variableDifference_eq_none_iff {expected found : List (String × Scalar)} :
    variableDifference expected found = none ↔ ∀ p ∈ expected, Binds found p.1 p.2 := by
  induction expected with
  | nil => simp [variableDifference]
  | cons p ps ih =>
    obtain ⟨name, v⟩ := p
    rw [variableDifference_cons, List.forall_mem_cons, binds_iff_any]
    cases (found.lookup name).any (·.same v) <;> simp [ih]

/-- The binding reported splits the expected ones: those before it are bound, and it is not. -/
theorem exists_of_variableDifference_eq_some {expected found : List (String × Scalar)}
    {name : String} {v : Scalar} {w : Option Scalar}
    (h : variableDifference expected found = some (name, v, w)) :
    ∃ pre post, expected = pre ++ (name, v) :: post ∧ (∀ p ∈ pre, Binds found p.1 p.2) ∧
      ¬ Binds found name v ∧ w = found.lookup name := by
  induction expected with
  | nil => simp [variableDifference] at h
  | cons p ps ih =>
    obtain ⟨n, u⟩ := p
    rw [variableDifference_cons] at h
    cases hb : (found.lookup n).any (·.same u) with
    | false =>
      simp only [hb, Bool.false_eq_true, if_false, Option.some.injEq, Prod.mk.injEq] at h
      obtain ⟨rfl, rfl, rfl⟩ := h
      exact ⟨[], ps, rfl, by simp, fun hbinds => by simp [binds_iff_any.mp hbinds] at hb, rfl⟩
    | true =>
      simp only [hb, if_true] at h
      obtain ⟨pre, post, rfl, hpre, hnb, hw⟩ := ih h
      refine ⟨(n, u) :: pre, post, rfl, ?_, hnb, hw⟩
      exact List.forall_mem_cons.mpr ⟨binds_iff_any.mpr hb, hpre⟩

/-- **In a map of expected values, the difference reported is the one of least name**: an
expected binding that is not bound, and every expected binding of a lesser name is. -/
theorem variableDifference_least {m : KeyMap Scalar}
    {found : List (String × Scalar)} {name : String} {v : Scalar} {w : Option Scalar}
    (h : variableDifference m.entries found = some (name, v, w)) :
    (name, v) ∈ m.entries ∧ ¬ Binds found name v ∧
      (∀ n u, (n, u) ∈ m.entries → n < name → Binds found n u) ∧ w = found.lookup name := by
  obtain ⟨pre, post, hsplit, hpre, hnb, hw⟩ := exists_of_variableDifference_eq_some h
  refine ⟨by simp [hsplit], hnb, fun n u hmem hlt => ?_, hw⟩
  -- the names after the reported one are greater, so a lesser name comes before it
  have hafter : ∀ q ∈ post, name < q.1 := by
    have hsorted := m.sorted
    rw [hsplit, List.pairwise_append] at hsorted
    exact (List.pairwise_cons.mp hsorted.2.1).1
  rw [hsplit] at hmem
  rcases List.mem_append.mp hmem with hin | hin
  · exact hpre _ hin
  · rcases List.mem_cons.mp hin with heq | hin
    · cases heq
      exact absurd hlt (lt_irrefl _)
    · exact absurd hlt (lt_asymm (hafter _ hin))

/-- Conversely, the expected binding of least name that is not bound is the one reported. -/
theorem variableDifference_eq_least {m : KeyMap Scalar}
    {found : List (String × Scalar)} {name : String} {v : Scalar}
    (hmem : (name, v) ∈ m.entries) (hnb : ¬ Binds found name v)
    (hleast : ∀ n u, (n, u) ∈ m.entries → n < name → Binds found n u) :
    variableDifference m.entries found = some (name, v, found.lookup name) := by
  cases hd : variableDifference m.entries found with
  | none => exact absurd (variableDifference_eq_none_iff.mp hd _ hmem) hnb
  | some d =>
    obtain ⟨n, u, w⟩ := d
    obtain ⟨hmem', hnb', hleast', rfl⟩ := variableDifference_least hd
    -- two least names that are not bound are one name, listed once in a sorted map
    have hn : n = name := by
      rcases lt_trichotomy n name with hlt | heq | hgt
      · exact absurd (hleast n u hmem' hlt) hnb'
      · exact heq
      · exact absurd (hleast' name v hmem hgt) hnb
    subst hn
    have hu : u = v :=
      Option.some.inj ((KeyMap.find?_eq_some_iff.mpr hmem').symm.trans
        (KeyMap.find?_eq_some_iff.mpr hmem))
    rw [hu]

/-! ### The comparisons -/

/-- **A run meets a case**: it showed the expected events, bound every expected variable to
its value, and reported the expected diagnostic codes when the case lists them. -/
structure Report.Meets (r : Report) (c : Case) : Prop where
  events : r.observed = c.expectedEvents
  values : ∀ name v, (name, v) ∈ c.expectedVariables.entries → Binds r.values name v
  diagnostics : ∀ ds, c.expectedDiagnostics = some ds → ds = r.diagnostics

/-- **What comparing a run with a case answers**, in the order of the comparisons: the first
that fails, or agreement. -/
inductive Compares (c : Case) (r : Report) : Except ToolError Unit → Prop
  /-- Not as many events shown as expected: the count fails, with what was shown. -/
  | count : r.observed.length ≠ c.expectedEvents.length →
      Compares c r (.error (.eventCountMismatch c.expectedEvents.length r.observed.length
        (Json.Value.array (r.observed.map Expected.toJson)).pretty))
  /-- Then the event at the least index that differs. -/
  | event {i : Nat} {x y : Expected} : r.observed.length = c.expectedEvents.length →
      c.expectedEvents[i]? = some x → r.observed[i]? = some y → x ≠ y →
      (∀ j < i, c.expectedEvents[j]? = r.observed[j]?) →
      Compares c r (.error (.eventMismatch i x.toJson.compact y.toJson.compact))
  /-- Then the expected variable of least name that the run did not bind to its value. -/
  | value {name : String} {v : Scalar} : r.observed = c.expectedEvents →
      (name, v) ∈ c.expectedVariables.entries → ¬ Binds r.values name v →
      (∀ n u, (n, u) ∈ c.expectedVariables.entries → n < name → Binds r.values n u) →
      Compares c r (.error (.variableMismatch name v.jsonText
        (((r.values.lookup name).map Scalar.jsonText).getD "<unset>")))
  /-- Then the diagnostic codes, when the case lists them. -/
  | diagnostics {ds : List String} : r.observed = c.expectedEvents →
      (∀ name v, (name, v) ∈ c.expectedVariables.entries → Binds r.values name v) →
      c.expectedDiagnostics = some ds → ds ≠ r.diagnostics →
      Compares c r (.error (.diagnosticMismatch ds r.diagnostics))
  /-- Otherwise the run meets the case. -/
  | agrees : r.Meets c → Compares c r (.ok ())

section Comparisons

variable {fs : FileSystem} {dir casePath : String} {c : Case} {r : Report}
  (hc : readCase fs casePath = .ok c) (hr : runCase fs dir c = .ok r)
include hc hr

theorem assertCase_count (hlen : r.observed.length ≠ c.expectedEvents.length) :
    assertCase fs dir casePath = .error (.eventCountMismatch c.expectedEvents.length
      r.observed.length (Json.Value.array (r.observed.map Expected.toJson)).pretty) := by
  simp [assertCase, hc, hr, bind, Except.bind, hlen]
  rfl

theorem assertCase_event (hlen : r.observed.length = c.expectedEvents.length) {i : Nat}
    {x y : Expected} (hfd : firstDifference 0 c.expectedEvents r.observed = some (i, x, y)) :
    assertCase fs dir casePath = .error (.eventMismatch i x.toJson.compact y.toJson.compact) := by
  simp [assertCase, hc, hr, bind, Except.bind, hlen, hfd]
  rfl

theorem assertCase_value (hlen : r.observed.length = c.expectedEvents.length)
    (hfd : firstDifference 0 c.expectedEvents r.observed = none) {name : String} {v : Scalar}
    {w : Option Scalar}
    (hvd : variableDifference c.expectedVariables.entries r.values = some (name, v, w)) :
    assertCase fs dir casePath =
      .error (.variableMismatch name v.jsonText ((w.map Scalar.jsonText).getD "<unset>")) := by
  simp [assertCase, hc, hr, bind, Except.bind, hlen, hfd, hvd]
  rfl

theorem assertCase_diagnostics (hlen : r.observed.length = c.expectedEvents.length)
    (hfd : firstDifference 0 c.expectedEvents r.observed = none)
    (hvd : variableDifference c.expectedVariables.entries r.values = none) {ds : List String}
    (hds : c.expectedDiagnostics = some ds) (hne : ds ≠ r.diagnostics) :
    assertCase fs dir casePath = .error (.diagnosticMismatch ds r.diagnostics) := by
  simp [assertCase, hc, hr, bind, Except.bind, hlen, hfd, hvd, hds, hne]
  rfl

theorem assertCase_agrees (hlen : r.observed.length = c.expectedEvents.length)
    (hfd : firstDifference 0 c.expectedEvents r.observed = none)
    (hvd : variableDifference c.expectedVariables.entries r.values = none)
    (hds : ∀ ds, c.expectedDiagnostics = some ds → ds = r.diagnostics) :
    assertCase fs dir casePath = .ok () := by
  simp [assertCase, hc, hr, bind, Except.bind, hlen, hfd, hvd]
  cases hlisted : c.expectedDiagnostics with
  | none => rfl
  | some ds =>
    simp [hds ds hlisted]
    rfl

/-- The comparisons of a case that ran answer as `Compares` allows. -/
theorem compares_assertCase : Compares c r (assertCase fs dir casePath) := by
  by_cases hlen : r.observed.length = c.expectedEvents.length
  swap
  · rw [assertCase_count hc hr hlen]
    exact .count hlen
  cases hfd : firstDifference 0 c.expectedEvents r.observed with
  | some d =>
    obtain ⟨i, x, y⟩ := d
    rw [assertCase_event hc hr hlen hfd]
    obtain ⟨j, rfl, hx, hy, hne, hpre⟩ := firstDifference_eq_some_iff.mp hfd
    rw [Nat.zero_add]
    exact .event hlen hx hy hne hpre
  | none =>
    have hev : r.observed = c.expectedEvents := (eq_of_firstDifference_eq_none hfd hlen.symm).symm
    cases hvd : variableDifference c.expectedVariables.entries r.values with
    | some d =>
      obtain ⟨name, v, w⟩ := d
      rw [assertCase_value hc hr hlen hfd hvd]
      obtain ⟨hmem, hnb, hleast, rfl⟩ := variableDifference_least hvd
      exact .value hev hmem hnb hleast
    | none =>
      have hall := variableDifference_eq_none_iff.mp hvd
      have hbinds : ∀ name v, (name, v) ∈ c.expectedVariables.entries → Binds r.values name v :=
        fun name v hmem => hall (name, v) hmem
      -- the diagnostics are compared only when listed
      by_cases hds : ∀ ds, c.expectedDiagnostics = some ds → ds = r.diagnostics
      · rw [assertCase_agrees hc hr hlen hfd hvd hds]
        exact .agrees ⟨hev, hbinds, hds⟩
      · simp only [not_forall] at hds
        obtain ⟨ds, hlisted, hne⟩ := hds
        rw [assertCase_diagnostics hc hr hlen hfd hvd hlisted hne]
        exact .diagnostics hev hbinds hlisted hne

/-- Each answer `Compares` allows is the one the comparisons give. -/
theorem Compares.assertCase_eq {v : Except ToolError Unit} (h : Compares c r v) :
    assertCase fs dir casePath = v := by
  cases h with
  | count hlen => exact assertCase_count hc hr hlen
  | event hlen hx hy hne hpre =>
    exact assertCase_event hc hr hlen
      (firstDifference_eq_some_iff.mpr ⟨_, (Nat.zero_add _).symm, hx, hy, hne, hpre⟩)
  | value hev hmem hnb hleast =>
    obtain ⟨hlen, hfd⟩ := events_pass hev
    exact assertCase_value hc hr hlen hfd
      (variableDifference_eq_least hmem hnb hleast)
  | diagnostics hev hbinds hlisted hne =>
    obtain ⟨hlen, hfd⟩ := events_pass hev
    exact assertCase_diagnostics hc hr hlen hfd
      (variableDifference_eq_none_iff.mpr fun p hp => hbinds p.1 p.2 hp) hlisted hne
  | agrees hm =>
    obtain ⟨hlen, hfd⟩ := events_pass hm.events
    exact assertCase_agrees hc hr hlen hfd
      (variableDifference_eq_none_iff.mpr fun p hp => hm.values p.1 p.2 hp) hm.diagnostics

end Comparisons

/-! ### The verdict -/

/-- **What checking a case answers**, case by case in the order of the checks: why the case is
not read; why, once read, it does not run; and, once run, what comparing gives. -/
inductive Verdict (fs : FileSystem) (dir casePath : String) : Except ToolError Unit → Prop
  | unread {err : ToolError} : CaseFails fs casePath err → Verdict fs dir casePath (.error err)
  | unrun {c : Case} {err : ToolError} : readCase fs casePath = .ok c → RunFails fs dir c err →
      Verdict fs dir casePath (.error err)
  | compared {c : Case} {r : Report} {v : Except ToolError Unit} : readCase fs casePath = .ok c →
      runCase fs dir c = .ok r → Compares c r v → Verdict fs dir casePath v

theorem verdict_assertCase (fs : FileSystem) (dir casePath : String) :
    Verdict fs dir casePath (assertCase fs dir casePath) := by
  cases hc : readCase fs casePath with
  | error err =>
    have hcheck : assertCase fs dir casePath = .error err := by
      simp [assertCase, hc, bind, Except.bind]
    exact hcheck ▸ .unread (readCase_eq_error_iff.mp hc)
  | ok c =>
    cases hr : runCase fs dir c with
    | error err =>
      have hcheck : assertCase fs dir casePath = .error err := by
        simp [assertCase, hc, hr, bind, Except.bind]
      exact hcheck ▸ .unrun hc (runCase_eq_error_iff.mp hr)
    | ok r => exact .compared hc hr (compares_assertCase hc hr)

theorem Verdict.assertCase_eq {fs : FileSystem} {dir casePath : String}
    {v : Except ToolError Unit} (h : Verdict fs dir casePath v) :
    assertCase fs dir casePath = v := by
  cases h with
  | unread hfails => simp [assertCase, readCase_eq_error_iff.mpr hfails, bind, Except.bind]
  | unrun hc hfails => simp [assertCase, hc, runCase_eq_error_iff.mpr hfails, bind, Except.bind]
  | compared hc hr hcmp => exact hcmp.assertCase_eq hc hr

/-- **Checking a case decides agreement.** A run of a case reports what the engine did: the
events it emitted from its building at the case's entry through every action, less cleared
choices; how many actions it did not act on; its final bindings; the codes of the newest
diagnostics it reported. Checking a case succeeds exactly when the case is read, runs, and the
run meets it: the same events, every expected variable bound to its value, and the listed
diagnostic codes. Otherwise it fails with the first check that fails, in order: reading,
decoding and the schema of the case, the dialogue and the engine, the number of events, the
event at the least index that differs, the expected variable of least name that differs, and
the diagnostic codes. -/
theorem case_check_decides_agreement (fs : FileSystem) (dir casePath : String) :
    (∀ c r, runCase fs dir c = .ok r → r.Runs fs dir c) ∧
    (assertCase fs dir casePath = .ok () ↔
      ∃ c r, readCase fs casePath = .ok c ∧ runCase fs dir c = .ok r ∧ r.Meets c) ∧
    ∀ v, assertCase fs dir casePath = v ↔ Verdict fs dir casePath v := by
  have hverdict : ∀ v, assertCase fs dir casePath = v ↔ Verdict fs dir casePath v :=
    fun v => ⟨fun h => h ▸ verdict_assertCase fs dir casePath, Verdict.assertCase_eq⟩
  refine ⟨fun c r h => runCase_runs h, ?_, hverdict⟩
  rw [hverdict]
  constructor
  · -- only agreement answers with success
    intro h
    cases h with
    | compared hc hr hcmp =>
      cases hcmp with
      | agrees hm => exact ⟨_, _, hc, hr, hm⟩
  · rintro ⟨c, r, hc, hr, hm⟩
    exact .compared hc hr (.agrees hm)

end Colloquy.Script
