import Colloquy.Document.Basic
import Colloquy.Json.Reader
import Colloquy.Json.Writer
/-!
# The data form of a document

Besides its authoring form, a document has a *data form*: the JSON image of its fields.

```
{"variables":[[name,scalar],…],
 "conversations":[{"id":…,"nodes":[{"speaker":…,"text":…,
   "choices":[{"text":…,"target":…}],"assignments":[[name,scalar],…],"jump":…|null}]}]}
```

Scalars are plain JSON. `Document.ofData` reads this form back, and `Document.same` compares two
documents field by field, with `Scalar.same` for values. Reading back what `toData` wrote gives
an equal document, because every binary64 text has a point or an exponent and so reads as a
binary64 value again.
-/

namespace Colloquy

open Json (Value)

namespace Document

/-- The data form of a list of assignments. -/
def bindingsData (bs : List (String × Scalar)) : Value :=
  .array (bs.map fun (k, v) => .array [.string k, v.toJson])

/-- The data form of a node. -/
def nodeData (n : Node) : Value :=
  .object [("speaker", .string n.speaker), ("text", .string n.text),
    ("choices", .array (n.choices.map fun c =>
      .object [("text", .string c.text), ("target", .string c.target)])),
    ("assignments", bindingsData n.assignments),
    ("jump", match n.goto with | some g => .string g | none => .null)]

/-- **The data form** of a document. -/
def toData (d : Document) : Value :=
  .object [("variables", bindingsData d.bindings),
    ("conversations", .array (d.conversations.map fun c =>
      .object [("id", .string c.id), ("nodes", .array (c.nodes.map nodeData))]))]

/-- A scalar from its plain JSON form. -/
def scalarData? : Value → Option Scalar
  | .bool b => some (.bool b)
  | .number (.nat n) => some (if n < Nat.pow 2 63 then .int n else .number (Decimal.nearest false n 1))
  | .number (.neg n) => some (.int n)
  | .number (.float x) => some (.number x)
  | .string s => some (.string s)
  | _ => none

/-- A list of `[name, scalar]` pairs. -/
def bindingsOf? : Value → Option (List (String × Scalar))
  | .array items => items.mapM fun
    | .array [.string k, v] => (scalarData? v).map (k, ·)
    | _ => none
  | _ => none

/-- A text field of an object. -/
def textField? (fs : List (String × Value)) (k : String) : Option String :=
  match Value.lookup fs k with
  | some (.string s) => some s
  | _ => none

/-- A node from its data form. -/
def nodeOf? : Value → Option Node
  | .object fs => do
    let speaker ← textField? fs "speaker"
    let text ← textField? fs "text"
    let choices ← match Value.lookup fs "choices" with
      | some (.array cs) => cs.mapM fun
        | .object c => do pure (Choice.mk (← textField? c "text") (← textField? c "target"))
        | _ => none
      | _ => none
    let assignments ← bindingsOf? ((Value.lookup fs "assignments").getD .null)
    let goto ← match Value.lookup fs "jump" with
      | some .null => some none
      | some (.string s) => some (some s)
      | _ => none
    pure { speaker, text, choices, assignments, goto }
  | _ => none

/-- **Reads the data form** of a document, or `none` if the value is not one. -/
def ofData? : Value → Option Document
  | .object fs => do
    let bindings ← bindingsOf? ((Value.lookup fs "variables").getD .null)
    let conversations ← match Value.lookup fs "conversations" with
      | some (.array cs) => cs.mapM fun
        | .object c => do
          let id ← textField? c "id"
          let nodes ← match Value.lookup c "nodes" with
            | some (.array ns) => ns.mapM nodeOf?
            | _ => none
          pure (Conversation.mk id nodes)
        | _ => none
      | _ => none
    pure { bindings, conversations }
  | _ => none

/-- Pairs of bindings agree: same names in order, values equal as scalars. -/
def sameBindings (a b : List (String × Scalar)) : Bool :=
  a.length == b.length && (a.zip b).all fun ((k, v), (k', v')) => k == k' && v.same v'

/-- Two nodes agree field by field. -/
def sameNode (a b : Node) : Bool :=
  a.speaker == b.speaker && a.text == b.text &&
  a.choices.length == b.choices.length &&
  (a.choices.zip b.choices).all (fun (c, c') => c.text == c'.text && c.target == c'.target) &&
  sameBindings a.assignments b.assignments && a.goto == b.goto

/-- **Equality of documents**, with `Scalar.same` for values. -/
def same (a b : Document) : Bool :=
  sameBindings a.bindings b.bindings &&
  a.conversations.length == b.conversations.length &&
  (a.conversations.zip b.conversations).all fun (c, c') =>
    c.id == c'.id && c.nodes.length == c'.nodes.length &&
    (c.nodes.zip c'.nodes).all fun (n, n') => sameNode n n'

end Document

end Colloquy
