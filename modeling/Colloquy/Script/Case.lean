import Colloquy.Scalar
import Colloquy.KeyMap
import Colloquy.Json.Value
/-!
# Scripted cases

A *case* scripts a run of a dialogue: the entry conversation, the actions fed to the engine
after it starts, and what the run must show. It expects

* the shown events, in order: lines, choice lists and the end;
* values of some variables at the end (others are not looked at);
* optionally, the codes of the diagnostics reported, in order.

Cases are JSON files whose `schemaVersion` must be `dlg-tool-case.v1`. Their reading is in
`Colloquy.Script.Decode`.
-/

namespace Colloquy.Script

/-- The schema version a case must name. -/
def schemaV1 : String := "dlg-tool-case.v1"

/-- An action of a case. -/
inductive Action where
  | advance
  | choose (index : Nat)
  | start (id : String)
  | stop
  deriving BEq, Inhabited, Repr

/-- A shown event, as a case expects it. -/
inductive Expected where
  | line (speaker text : String)
  | choices (texts : List String)
  | stop
  deriving BEq, ReflBEq, LawfulBEq, Inhabited, Repr

/-- A scripted case. -/
structure Case where
  schemaVersion : String
  start : Option String := none
  actions : List Action := []
  expectedEvents : List Expected := []
  expectedVariables : KeyMap Scalar := KeyMap.empty
  expectedDiagnostics : Option (List String) := none
  deriving Inhabited

/-- The JSON form of an expected event: the kind first, then the fields. -/
def Expected.toJson : Expected → Json.Value
  | .line speaker text =>
    .object [("kind", .string "line"), ("speaker", .string speaker), ("text", .string text)]
  | .choices texts => .object [("kind", .string "choices"), ("choices", .array (texts.map .string))]
  | .stop => .object [("kind", .string "end")]

end Colloquy.Script
