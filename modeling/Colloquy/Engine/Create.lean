import Colloquy.Engine.Step
/-!
# Building a running engine from a document

`Engine.create` reads a document, picks its entry conversation, installs the document in a new
engine and starts the entry. The entry is the one named, or `main` when none is named. A named
entry must exist (`API_ENTRY_NOT_FOUND`), and so must `main` (`API_ENTRY_MAIN_NOT_FOUND`).

Because the entry is known to exist, starting it cannot fail. Should it fail, the last
diagnostic of the start is the fault.
-/

namespace Colloquy

/-- The entry conversation when none is named. -/
def defaultEntry : String := "main"

/-- **The entry conversation**: the one named if it exists, else `main` if it exists. -/
def Registry.resolveEntry (r : Registry) : Option String → Except Fault String
  | some entry =>
    if r.contains entry then .ok entry
    else .error ⟨"API_ENTRY_NOT_FOUND",
      "Entry conversation \"" ++ Text.trim entry ++ "\" is not defined. Known: " ++
        ", ".intercalate r.knownIds⟩
  | none =>
    if r.contains defaultEntry then .ok defaultEntry
    else .error ⟨"API_ENTRY_MAIN_NOT_FOUND",
      "Expected a conversation named \"main\" as default entry."⟩

/-- **A running engine** for a document's text, started at its entry. -/
def Engine.create (source : String) (entry : Option String) (options : EngineOptions)
    (presentation : Presentation) : Except Fault Engine := do
  let d ← Document.parse source
  let entry ← (Registry.ofDocument d).resolveEntry entry
  let (started, e) := ((Engine.new options presentation).loadParsed d).start entry
  if started then pure e
  else
    match e.takeDiagnostics.1.getLast? with
    | some diag => throw diag.toFault
    | none => throw ⟨"API_START_FAILED", "Could not start '" ++ entry ++ "'."⟩

end Colloquy
