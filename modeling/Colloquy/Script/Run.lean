import Colloquy.Script.Decode
import Colloquy.Engine.Create
import Colloquy.Files.System
import Colloquy.Json.Writer
/-!
# Running and checking cases

A case lives in a directory next to the dialogue it scripts, `dialogue.json`.

`runCase` builds an engine for the dialogue, started at the case's entry, feeds it the case's
actions, and reports what was shown, the variables at the end, the codes of the diagnostics,
and how many actions the engine did not act on. Cleared choices are not reported, and the
hidden dialogue is reported as the end.

`assertCase` reads a case file, runs it, and compares, stopping at the first difference:
first the number of events, then each event, then each expected variable (by value, so `1.0`
matches `1`), then the diagnostic codes if the case lists them.

`discoverCases` finds every directory under a root holding both a case file and a dialogue.
-/

namespace Colloquy.Script

open Files

/-- The name of a dialogue file in a directory. -/
def dialogueFileName : String := "dialogue.json"

/-- The name of a case file in a directory. -/
def caseFileName : String := "testcase.json"

/-- Why reading, running or checking a case failed. -/
inductive ToolError where
  | readFile (path reason : String)
  | parseCase (path : String) (e : Json.Error)
  | invalidSchemaVersion (found : String)
  | sourceMissing (path : String)
  | engine (f : Fault)
  | eventCountMismatch (expected actual : Nat) (observed : String)
  | eventMismatch (index : Nat) (expected actual : String)
  | variableMismatch (name expected actual : String)
  | diagnosticMismatch (expected actual : List String)

namespace ToolError

/-- The name of the kind of failure. -/
def name : ToolError → String
  | readFile .. => "ReadFile"
  | parseCase .. => "ParseCase"
  | invalidSchemaVersion .. => "InvalidSchemaVersion"
  | sourceMissing .. => "SourceMissing"
  | engine .. => "Engine"
  | eventCountMismatch .. => "EventCountMismatch"
  | eventMismatch .. => "EventMismatch"
  | variableMismatch .. => "VariableMismatch"
  | diagnosticMismatch .. => "DiagnosticMismatch"

/-- The message of a failure. -/
def message : ToolError → String
  | readFile path reason => "Failed to read file " ++ path ++ ": " ++ reason
  | parseCase path e => "Failed to parse testcase " ++ path ++ ": " ++ e.message
  | invalidSchemaVersion found =>
    "Invalid testcase schema version \"" ++ found ++ "\", expected \"" ++ schemaV1 ++ "\"."
  | sourceMissing path => "No dialogue.json under " ++ path ++ "."
  | engine f => "Engine error: " ++ f.display
  | eventCountMismatch expected actual observed =>
    "Expected event count " ++ toString expected ++ ", actual " ++ toString actual ++
      ". observed=" ++ observed
  | eventMismatch index expected actual =>
    "Event mismatch at index " ++ toString index ++ ". expected=" ++ expected ++
      " actual=" ++ actual
  | variableMismatch name expected actual =>
    "Variable \"" ++ name ++ "\" mismatch. expected=" ++ expected ++ " actual=" ++ actual
  | diagnosticMismatch expected actual =>
    "Diagnostics mismatch. expected=" ++ Text.escapedList expected ++
      " actual=" ++ Text.escapedList actual

end ToolError

/-- The action as an engine command. -/
def Action.command : Action → Command
  | .advance => .advance
  | .choose i => .choose i
  | .start id => .start id
  | .stop => .stop

/-- What a case reports of a shown event. -/
def observe : Event → Option Expected
  | .line speaker text => some (.line speaker text)
  | .choices items => some (.choices (items.map (·.text)))
  | .choicesCleared => none
  | .hidden => some .stop

/-- What a run of a case showed and left behind. -/
structure Report where
  observed : List Expected
  values : List (String × Scalar)
  diagnostics : List String
  ignored : Nat

/-- The dialogue of a case directory. -/
def readDialogue (fs : FileSystem) (dir : String) : Except ToolError String :=
  let path := join dir dialogueFileName
  if !fs.isFile path then .error (.sourceMissing dir)
  else (fs.readText path).mapError (.readFile path)

/-- **Reads a case file**, which must name the schema version. -/
def readCase (fs : FileSystem) (path : String) : Except ToolError Case := do
  let raw ← (fs.readText path).mapError (.readFile path)
  let c ← (decodeCase raw).mapError (.parseCase path)
  if c.schemaVersion != schemaV1 then throw (.invalidSchemaVersion c.schemaVersion)
  pure c

/-- Feeds actions to an engine, counting those it did not act on. -/
def feed (e : Engine) (actions : List Action) : Nat × Engine :=
  actions.foldl (fun (n, e) a =>
    let (acted, e) := e.dispatch a.command
    (if acted then n else n + 1, e)) (0, e)

/-- **Runs a case** against the dialogue of a directory. -/
def runCase (fs : FileSystem) (dir : String) (c : Case) : Except ToolError Report := do
  let source ← readDialogue fs dir
  let e ← (Engine.create source c.start {} { attached := true }).mapError .engine
  let (ignored, e) := feed e c.actions
  let (events, e) := e.drainEvents
  let (diagnostics, e) := e.takeDiagnostics
  pure ⟨events.filterMap observe, e.store.toList, diagnostics.map (·.code), ignored⟩

/-- The first pair of expected and observed events that differ, with its position. -/
def firstDifference : Nat → List Expected → List Expected → Option (Nat × Expected × Expected)
  | i, x :: xs, y :: ys => if x == y then firstDifference (i + 1) xs ys else some (i, x, y)
  | _, _, _ => none

/-- The first expected variable whose value differs, with the value found if any. -/
def variableDifference (expected : List (String × Scalar)) (found : List (String × Scalar)) :
    Option (String × Scalar × Option Scalar) :=
  expected.findSome? fun (name, v) =>
    match found.lookup name with
    | some w => if w.same v then none else some (name, v, some w)
    | none => some (name, v, none)

/-- **Checks a case**: reads it, runs it, and compares what was shown and left. -/
def assertCase (fs : FileSystem) (dir casePath : String) : Except ToolError Unit := do
  let c ← readCase fs casePath
  let r ← runCase fs dir c
  if r.observed.length != c.expectedEvents.length then
    throw (.eventCountMismatch c.expectedEvents.length r.observed.length
      (Json.Value.array (r.observed.map Expected.toJson)).pretty)
  if let some (i, x, y) := firstDifference 0 c.expectedEvents r.observed then
    throw (.eventMismatch i x.toJson.compact y.toJson.compact)
  if let some (name, v, w) := variableDifference c.expectedVariables.entries r.values then
    throw (.variableMismatch name v.jsonText ((w.map Scalar.jsonText).getD "<unset>"))
  if let some ds := c.expectedDiagnostics then
    if ds != r.diagnostics then throw (.diagnosticMismatch ds r.diagnostics)

/-- **The case directories** under a root: the parents of case files that have a dialogue
file beside them, in component order. -/
def discoverCases (fs : FileSystem) (root : String) : List String :=
  let found := (fs.below (components root)).filterMap fun (cs, e) =>
    match e with
    | .file _ => if cs.getLast? == some caseFileName then some cs.dropLast else none
    | .directory => none
  let text := fun (cs : List String) => cs.foldl join root
  let complete := found.filter fun cs => fs.isFile (join (text cs) dialogueFileName)
  (complete.mergeSort componentsLE).map text

end Colloquy.Script
