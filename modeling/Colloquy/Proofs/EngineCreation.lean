import Colloquy.Engine.Create
/-!
# Building an engine starts its entry

`Engine.create` reads a text, checks the entry against a registry of its own
(`Registry.ofDocument`), installs the document in a new engine and starts the entry there. The
check and the start ask two registries, but loading a document into a new engine builds the very
registry the check asked (`loadParsed_registry`), and a new engine has no run that a start could
be refused for (`loadParsed_active`). So the start goes ahead whenever the check passed
(`start_loaded_eq_true`), and the fault `create` gives for a start that did not go ahead is never
given.

What creating comes to is `Engine.Creates`, case by case in the order of the checks: the fault of
a text that does not read; `API_ENTRY_NOT_FOUND` for a named entry that finds nothing, a blank
name among them; `API_ENTRY_MAIN_NOT_FOUND` when no entry is named and `main` finds nothing; and
otherwise the new engine loaded with the document and started at the entry. The main theorem
(`create_follows_entry`) says that `create` answers exactly what `Creates` allows, for every
text, entry and option, the hop bound `0` and the reject policy included.
-/

namespace Colloquy

/-- A blank id finds nothing: its key is empty. -/
theorem Registry.lookup?_blank (r : Registry) {id : String} (h : Text.trim id = "") :
    r.lookup? id = none := by
  have hkey : Ident.key id = "" := by
    simp [Ident.key, h, Text.lower, Text.lowerFrom]
  simp [Registry.lookup?, hkey]

/-! ### The entry check -/

namespace Registry

variable (r : Registry)

/-- The fault of a named entry that finds nothing. -/
def entryNotFound (entry : String) : Fault :=
  ⟨"API_ENTRY_NOT_FOUND", "Entry conversation \"" ++ Text.trim entry ++
    "\" is not defined. Known: " ++ ", ".intercalate r.knownIds⟩

/-- The fault of a missing `main` when no entry is named. -/
def mainNotFound : Fault :=
  ⟨"API_ENTRY_MAIN_NOT_FOUND", "Expected a conversation named \"main\" as default entry."⟩

theorem resolveEntry_of_lookup? {entry : Option String}
    (h : r.lookup? (entry.getD defaultEntry) ≠ none) :
    r.resolveEntry entry = .ok (entry.getD defaultEntry) := by
  cases entry <;> simpa [resolveEntry, contains, Option.isSome_iff_ne_none] using h

/-- An entry that passes the check finds a conversation. -/
theorem lookup?_of_resolveEntry {entry : Option String} {q : String}
    (h : r.resolveEntry entry = .ok q) : r.lookup? q ≠ none := by
  -- both entries are checked by the same test, failing with their own fault
  have hcheck : ∀ (id : String) (f : Fault),
      (if (r.lookup? id).isSome = true then Except.ok id else .error f) = .ok q →
        r.lookup? q ≠ none := by
    intro id f hid
    by_cases hc : (r.lookup? id).isSome = true
    · rw [if_pos hc] at hid
      cases hid
      simpa [Option.isSome_iff_ne_none] using hc
    · rw [if_neg hc] at hid
      cases hid
  cases entry <;> simp only [resolveEntry, contains] at h <;> exact hcheck _ _ h

theorem resolveEntry_some_of_lookup?_eq_none {q : String} (h : r.lookup? q = none) :
    r.resolveEntry (some q) = .error (r.entryNotFound q) := by
  simp [resolveEntry, contains, h, entryNotFound]

theorem resolveEntry_none_of_lookup?_eq_none (h : r.lookup? defaultEntry = none) :
    r.resolveEntry none = .error mainNotFound := by
  simp [resolveEntry, contains, h, mainNotFound]

end Registry

/-! ### A new engine with a document loaded -/

namespace Engine

section Loaded

variable (o : EngineOptions) (p : Presentation) (d : Document)

@[simp] theorem loadParsed_registry : ((Engine.new o p).loadParsed d).registry = Registry.ofDocument d :=
  rfl

@[simp] theorem loadParsed_active : ((Engine.new o p).loadParsed d).run.active = false :=
  rfl

/-- **A start on a new engine goes ahead** whenever the document's registry finds the id: the
registry is the one loaded, and no run is active that the reject policy could protect. -/
theorem start_loaded_eq_true {q : String} (h : (Registry.ofDocument d).lookup? q ≠ none) :
    (((Engine.new o p).loadParsed d).start q).1 = true := by
  obtain ⟨c, hc⟩ := Option.ne_none_iff_exists'.1 h
  simp [start, hc]

end Loaded

/-- What building an engine from `source` at `entry` comes to, one case for each check that
`create` makes, in order. -/
inductive Creates (o : EngineOptions) (p : Presentation) (source : String)
    (entry : Option String) : Except Fault Engine → Prop
  /-- A text that does not read fails with its reading fault. -/
  | unreadable {f : Fault} : Document.parse source = .error f → Creates o p source entry (.error f)
  /-- A named entry that finds nothing fails, whatever its case and padding; a blank one too. -/
  | unknownEntry {d : Document} {q : String} : Document.parse source = .ok d → entry = some q →
      (Registry.ofDocument d).lookup? q = none →
      Creates o p source entry (.error ((Registry.ofDocument d).entryNotFound q))
  /-- With no entry named, a document without `main` fails. -/
  | noMain {d : Document} : Document.parse source = .ok d → entry = none →
      (Registry.ofDocument d).lookup? defaultEntry = none →
      Creates o p source entry (.error Registry.mainNotFound)
  /-- Otherwise the entry is started on a new engine with the document loaded. -/
  | started {d : Document} {q : String} : Document.parse source = .ok d →
      entry.getD defaultEntry = q → (Registry.ofDocument d).lookup? q ≠ none →
      Creates o p source entry (.ok (((Engine.new o p).loadParsed d).start q).2)

variable {o : EngineOptions} {p : Presentation}

/-- Creating fails exactly as checking the entry does, and otherwise starts the entry. -/
theorem create_eq {source : String} {entry : Option String} {d : Document}
    (hd : Document.parse source = .ok d) :
    Engine.create source entry o p =
      ((Registry.ofDocument d).resolveEntry entry).map
        fun q => (((Engine.new o p).loadParsed d).start q).2 := by
  unfold Engine.create
  cases hentry : (Registry.ofDocument d).resolveEntry entry with
  | error f => simp [hd, hentry, bind, Except.bind, Except.map]
  | ok q =>
    -- the entry passed the check, so the start goes ahead and its engine is the answer
    have hstart := start_loaded_eq_true o p d ((Registry.ofDocument d).lookup?_of_resolveEntry hentry)
    simp [hd, hentry, bind, Except.bind, Except.map, hstart, pure, Except.pure]

theorem creates_create (source : String) (entry : Option String) :
    Creates o p source entry (Engine.create source entry o p) := by
  cases hd : Document.parse source with
  | error f =>
    have hc : Engine.create source entry o p = .error f := by
      simp [Engine.create, hd, bind, Except.bind]
    exact hc ▸ .unreadable hd
  | ok d =>
    rw [create_eq hd]
    by_cases hq : (Registry.ofDocument d).lookup? (entry.getD defaultEntry) = none
    · cases entry with
      | some q =>
        rw [Option.getD_some] at hq
        rw [(Registry.ofDocument d).resolveEntry_some_of_lookup?_eq_none hq]
        exact .unknownEntry hd rfl hq
      | none =>
        rw [Option.getD_none] at hq
        rw [(Registry.ofDocument d).resolveEntry_none_of_lookup?_eq_none hq]
        exact .noMain hd rfl hq
    · rw [(Registry.ofDocument d).resolveEntry_of_lookup? hq]
      exact .started hd rfl hq

/-- The checks decide the outcome: `Creates` allows one answer only. -/
theorem Creates.deterministic {source : String} {entry : Option String}
    {r r' : Except Fault Engine} (h : Creates o p source entry r) (h' : Creates o p source entry r') :
    r = r' := by
  cases h with
  | unreadable hd => cases h' <;> simp_all
  | unknownEntry hd he hq => cases h' <;> simp_all
  | noMain hd he hq => cases h' <;> simp_all
  | started hd he hq =>
    cases h' with
    | unreadable hd' => simp_all
    | unknownEntry hd' he' hq' => simp_all
    | noMain hd' he' hq' => simp_all
    | started hd' he' hq' =>
      rw [hd] at hd'
      cases hd'
      rw [← he, ← he']

/-- A blank entry is refused as unknown, whatever the document holds. -/
theorem create_blank_entry {source q : String} {d : Document} (hd : Document.parse source = .ok d)
    (hq : Text.trim q = "") :
    Engine.create source (some q) o p = .error ((Registry.ofDocument d).entryNotFound q) :=
  (creates_create source (some q)).deterministic
    (.unknownEntry hd rfl ((Registry.ofDocument d).lookup?_blank hq))

/-- **Building an engine follows its entry.** For every text, entry and option, `create`
answers exactly what `Creates` allows: the reading fault, a missing named entry, a missing
`main`, or the new engine loaded with the document and started at the entry. The fault for a
start that does not go ahead is never the answer: once the entry has passed the check, the start
goes ahead. -/
theorem create_follows_entry (source : String) (entry : Option String) (o : EngineOptions)
    (p : Presentation) :
    (∀ r, Engine.create source entry o p = r ↔ Creates o p source entry r) ∧
    ∀ d q, Document.parse source = .ok d → (Registry.ofDocument d).resolveEntry entry = .ok q →
      (((Engine.new o p).loadParsed d).start q).1 = true := by
  refine ⟨fun r => ⟨fun h => h ▸ creates_create source entry, fun h => ?_⟩, ?_⟩
  · exact (creates_create source entry).deterministic h
  · intro d q _ hentry
    exact start_loaded_eq_true o p d ((Registry.ofDocument d).lookup?_of_resolveEntry hentry)

end Engine

end Colloquy
