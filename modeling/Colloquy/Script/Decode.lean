import Colloquy.Script.Case
import Colloquy.Json.Reader
import Colloquy.Decimal.Text
import Colloquy.Text.Escaped
import Colloquy.Document.Reader
/-!
# Reading a case file

A case file is read by its schema, straight from the text, and its faults are worded and
placed the way a schema-directed JSON reader places them.

## Where a fault stands

A syntax fault has its own position. A *type* fault (a value of the wrong kind, a missing or
repeated field, an unknown variant) is found without one, and takes the position the reader
has when the innermost enclosing read of a text, list, object or record returns. When a list
or object read ends in a fault, its closing bracket is still looked for, and passed if it is
there, before the fault is placed.

So `{"actions":[{"kind":"choose"}]}` fails with `missing field` placed after the `]`: the
action's fields are checked after the action object is read, and the fault rises to the list.

## Tagged records

Actions and expected events are objects tagged by their `kind`. The tag's value is read first
as a variant name. The other entries are kept as JSON values and then read as the fields of
that variant: unknown fields are skipped, a field given twice is a fault. A tagged value may
also be a list `[kind, field, ...]` with the fields by position.

## Kinds in messages

A value found is named `null`, ``boolean `true` ``, ``integer `5` ``, ``floating point `1.5` ``,
`string "text"` (quoted and escaped), `sequence` or `map`.
-/

namespace Colloquy.Script.Decode

open Json (Value Error Cause Read)
open Json.Read

/-! ### Fault texts -/

/-- How a fault names a value found. -/
def describe : Value → String
  | .null => "null"
  | .bool b => "boolean `" ++ toString b ++ "`"
  | .number (.nat n) => "integer `" ++ toString n ++ "`"
  | .number (.neg n) => "integer `" ++ toString n ++ "`"
  | .number (.float x) => "floating point `" ++ Decimal.render x ++ "`"
  | .string s => "string " ++ Text.escaped s
  | .array _ => "sequence"
  | .object _ => "map"

/-- A value of the wrong kind. -/
def invalidType (found expected : String) : Error :=
  Error.custom ("invalid type: " ++ found ++ ", expected " ++ expected)

/-- A value of the right kind but out of range. -/
def invalidValue (found expected : String) : Error :=
  Error.custom ("invalid value: " ++ found ++ ", expected " ++ expected)

/-- A required field that is not there. -/
def missingField (name : String) : Error :=
  Error.custom ("missing field `" ++ name ++ "`")

/-- A field given twice. -/
def duplicateField (name : String) : Error :=
  Error.custom ("duplicate field `" ++ name ++ "`")

/-- A list with too few or too many items. -/
def invalidLength (n : Nat) (expected : String) : Error :=
  Error.custom ("invalid length " ++ toString n ++ ", expected " ++ expected)

/-- The names a variant may have, as a fault lists them. -/
def oneOf : List String → String
  | [] => "there are no variants"
  | [a] => "`" ++ a ++ "`"
  | [a, b] => "`" ++ a ++ "` or `" ++ b ++ "`"
  | names => "one of " ++ ", ".intercalate (names.map fun n => "`" ++ n ++ "`")

/-- A variant name that is not one of `names`. -/
def unknownVariant (found : String) (names : List String) : Error :=
  Error.custom ("unknown variant `" ++ found ++ "`, expected " ++ oneOf names)

/-- The text of a record read by position with `n` fields. -/
def withElements (what : String) (n : Nat) : String :=
  what ++ " with " ++ toString n ++ (if n == 1 then " element" else " elements")

/-- The text of a count of items read from a list. -/
def inSequence (n : Nat) : String :=
  toString n ++ (if n == 1 then " element in sequence" else " elements in sequence")

/-! ### Reading from the text -/

/-- The first byte of a value, after blanks. -/
def valueStart : Read UInt8 := do
  match ← skipBlank with
  | some b => pure b
  | none => failAhead .eofValue

/-- Fails with a type fault for the value under the position. A scalar is read first, so the
fault stands after it; a list or object is not entered. -/
def mismatch {α : Type} (expected : String) : Read α := do
  match ← peek with
  | some 0x5B => throw (← settle (invalidType "sequence" expected))
  | some 0x7B => throw (← settle (invalidType "map" expected))
  | _ =>
    let v ← any 0
    throw (← settle (invalidType (describe v) expected))

/-- Reads a text and hands it to `visit`; a fault of `visit` stands after the text. -/
def text {α : Type} (expected : String) (visit : String → Except Error α) : Read α :=
  settling do
    if (← valueStart) == 0x22 then
      eat
      let s ← string
      match visit s with
      | .ok a => pure a
      | .error e => throw e
    else mismatch expected

/-- Reads a plain text. -/
def plainText : Read String :=
  text "a string" pure

/-- Reads `null` as nothing, and anything else with `inner`. -/
def option {α : Type} (inner : Read α) : Read (Option α) := do
  match ← skipBlank with
  | some 0x6E => eat; ident [0x75, 0x6C, 0x6C]; pure none
  | _ => some <$> inner

/-- Reads a list, each item with `item` given the nesting budget left. -/
def list {α : Type} (room : Nat) (item : Nat → Read α) : Read (List α) :=
  settling do
    if (← valueStart) == 0x5B then
      match room with
      | 0 => failAhead .recursionLimit
      | r + 1 =>
        eat
        let input ← read
        let xs ← closing (items (item r) (input.size + 1) true #[]) endList
        pure xs.toList
    else mismatch "a sequence"

/-- Reads an object's entries, each value with `value` given the nesting budget left. -/
def entriesOf {α : Type} (room : Nat) (value : Nat → Read α) : Read (List (String × α)) :=
  settling do
    if (← valueStart) == 0x7B then
      match room with
      | 0 => failAhead .recursionLimit
      | r + 1 =>
        eat
        let input ← read
        let fs ← closing (entries (value r) (input.size + 1) true #[]) endObject
        pure fs.toList
    else mismatch "a map"

/-- Lifts a fault found without a position into the reader. -/
def lift {α : Type} : Except Error α → Read α
  | .ok a => pure a
  | .error e => throw e

/-! ### Reading kept values -/

/-- A whole number that fits 64 bits. -/
def sizeOf : Value → Except Error Nat
  | .number (.nat n) => pure n
  | .number (.neg n) => throw (invalidValue ("integer `" ++ toString n ++ "`") "usize")
  | v => throw (invalidType (describe v) "usize")

/-- A text. -/
def textOf : Value → Except Error String
  | .string s => pure s
  | v => throw (invalidType (describe v) "a string")

/-- A list of texts. -/
def textsOf : Value → Except Error (List String)
  | .array xs => xs.mapM textOf
  | v => throw (invalidType (describe v) "a sequence")

/-- Reads the named fields from entries, in order, each at most once; other keys are skipped. -/
def namedFields {β : Type} (field : String → Value → Except Error β) (names : List String) :
    List (String × Value) → List (String × β) → Except Error (List (String × β))
  | [], acc => pure acc
  | (k, v) :: rest, acc =>
    if names.contains k then
      if acc.any (·.1 == k) then throw (duplicateField k)
      else do
        let b ← field k v
        namedFields field names rest (acc ++ [(k, b)])
    else namedFields field names rest acc

/-- Reads fields by position: each field is the next item, or its default when the items have
run out; a field without a default is then a fault, counted by the field's position. Items
left over are a fault too. -/
def positionalFields {β : Type} (what : String) (field : String → Value → Except Error β) :
    List (String × Option β) → List Value → Nat → List (String × β) → Except Error (List (String × β))
  | [], [], _, acc => pure acc
  | [], rest, n, _ => throw (invalidLength (n + rest.length) (inSequence n))
  | (name, dflt) :: more, [], n, acc =>
    match dflt with
    | some d => positionalFields what field more [] (n + 1) (acc ++ [(name, d)])
    | none => throw (invalidLength n what)
  | (name, _) :: more, v :: rest, n, acc => do
    let b ← field name v
    positionalFields what field more rest (n + 1) (acc ++ [(name, b)])

/-- Reads a record variant from its kept value: an object by field names, or a list by
position. `fields` lists the field names with their defaults, and `field` reads the value of
a field given its name. -/
def record {β γ : Type} (what : String) (field : String → Value → Except Error β)
    (fields : List (String × Option β)) (build : List (String × β) → γ) : Value → Except Error γ
  | .object es => do
    let got ← namedFields field (fields.map (·.1)) es []
    let all ← fields.mapM fun (name, dflt) =>
      match got.lookup name, dflt with
      | some b, _ => pure (name, b)
      | none, some d => pure (name, d)
      | none, none => throw (missingField name)
    pure (build all)
  | .array xs => do
    pure (build (← positionalFields (withElements what fields.length) field fields xs 0 []))
  | v => throw (invalidType (describe v) what)

/-- Reads a variant without fields: any object will do, and only an empty list. -/
def unitVariant {γ : Type} (what : String) (a : γ) : Value → Except Error γ
  | .object _ => pure a
  | .array [] => pure a
  | .array xs => throw (invalidLength xs.length (inSequence 0))
  | v => throw (invalidType (describe v) what)

/-- The field of a record by name, with a fallback that a record built by `record` never
needs. -/
def field {β : Type} [Inhabited β] (fs : List (String × β)) (name : String) : β :=
  (fs.lookup name).getD default

/-! ### Tagged records -/

/-- Reads the entries of a tagged object after its opening brace. -/
def taggedEntries {V : Type} (tag : String) (variant : String → Except Error V) (room : Nat) :
    Nat → Bool → Option V → Array (String × Value) → Read (V × Value)
  | 0, _, _, _ => failAhead .eofObject
  | fuel + 1, first, found, acc => do
    if ← moreKeys first then
      let k ← key
      if k == tag then
        if found.isSome then throw (duplicateField tag)
        colon
        let v ← text "variant identifier" variant
        taggedEntries tag variant room fuel false (some v) acc
      else
        colon
        let v ← any room
        taggedEntries tag variant room fuel false found (acc.push (k, v))
    else
      match found with
      | some v => pure (v, .object acc.toList)
      | none => throw (missingField tag)

/-- Reads the items of a tagged list after its opening bracket: the tag, then the fields. -/
def taggedItems {V : Type} (tag : String) (variant : String → Except Error V) (room : Nat) :
    Read (V × Value) := do
  if ← moreItems true then
    let v ← text "variant identifier" variant
    let input ← read
    let rest ← items (any room) (input.size + 1) false #[]
    pure (v, .array rest.toList)
  else throw (missingField tag)

/-- Reads a value tagged by `tag`: the variant its tag names, and the rest of it. -/
def tagged {V : Type} (expected tag : String) (variant : String → Except Error V) (room : Nat) :
    Read (V × Value) :=
  settling do
    match ← valueStart with
    | 0x7B =>
      match room with
      | 0 => failAhead .recursionLimit
      | r + 1 =>
        eat
        let input ← read
        closing (taggedEntries tag variant r (input.size + 1) true none #[]) endObject
    | 0x5B =>
      match room with
      | 0 => failAhead .recursionLimit
      | r + 1 =>
        eat
        closing (taggedItems tag variant r) endList
    | _ =>
      let v ← any room
      throw (invalidType (describe v) expected)

/-! ### Actions and expected events -/

/-- The reader of an action's fields, by the action's kind. -/
def actionVariant : String → Except Error (Value → Except Error Action)
  | "advance" => pure (unitVariant "unit variant TestAction::Advance" .advance)
  | "choose" => pure (record "struct variant TestAction::Choose" (fun _ => sizeOf) [("index", none)]
      fun fs => .choose (field fs "index"))
  | "start" => pure (record "struct variant TestAction::Start" (fun _ => textOf) [("id", none)]
      fun fs => .start (field fs "id"))
  | "end" => pure (unitVariant "unit variant TestAction::End" .stop)
  | other => throw (unknownVariant other ["advance", "choose", "start", "end"])

/-- The reader of an expected event's fields, by the event's kind. -/
def expectedVariant : String → Except Error (Value → Except Error Expected)
  | "line" => pure (record "struct variant ExpectedEvent::Line" (fun _ => textOf)
      [("speaker", some ""), ("text", none)] fun fs => .line (field fs "speaker") (field fs "text"))
  | "choices" => pure (record "struct variant ExpectedEvent::Choices" (fun _ => textsOf) [("choices", none)]
      fun fs => .choices (field fs "choices"))
  | "end" => pure (unitVariant "unit variant ExpectedEvent::End" .stop)
  | other => throw (unknownVariant other ["line", "choices", "end"])

/-- Reads an action. -/
def action (room : Nat) : Read Action := do
  let (read, rest) ← tagged "internally tagged enum TestAction" "kind" actionVariant room
  lift (read rest)

/-- Reads an expected event. -/
def expected (room : Nat) : Read Expected := do
  let (read, rest) ← tagged "internally tagged enum ExpectedEvent" "kind" expectedVariant room
  lift (read rest)

/-- Reads a variable's value: a boolean, number or text. -/
def scalar (room : Nat) : Read Scalar := do
  match Document.scalarOf? (← any room) with
  | some s => pure s
  | none => throw (Error.custom "data did not match any variant of untagged enum DlValue")

/-- Reads expected variables; a later value of a name wins. -/
def expectedValues (room : Nat) : Read (KeyMap Scalar) := do
  let es ← entriesOf room scalar
  pure (es.foldl (fun m (k, v) => m.insert k v) KeyMap.empty)

/-! ### Cases -/

/-- The fields of a case read so far. -/
structure Partial where
  schemaVersion : Option String := none
  start : Option (Option String) := none
  actions : Option (List Action) := none
  expectedEvents : Option (List Expected) := none
  expectedVariables : Option (KeyMap Scalar) := none
  expectedDiagnostics : Option (Option (List String)) := none

/-- The case of its fields; only the schema version is required. -/
def Partial.build (p : Partial) : Except Error Case :=
  match p.schemaVersion with
  | none => throw (missingField "schemaVersion")
  | some v => pure {
      schemaVersion := v
      start := p.start.getD none
      actions := p.actions.getD []
      expectedEvents := p.expectedEvents.getD []
      expectedVariables := p.expectedVariables.getD KeyMap.empty
      expectedDiagnostics := p.expectedDiagnostics.getD none }

/-- Reads a field once: a second occurrence is a fault, found before its value is read. -/
def once {α : Type} (name : String) (seen : Option α) (value : Read α) : Read α := do
  if seen.isSome then throw (duplicateField name)
  colon
  value

/-- Reads the entries of a case object after its opening brace. -/
def caseEntries (room : Nat) : Nat → Bool → Partial → Read Case
  | 0, _, _ => failAhead .eofObject
  | fuel + 1, first, p => do
    if ← moreKeys first then
      let k ← key
      let p ← match k with
        | "schemaVersion" => do
          pure { p with schemaVersion := some (← once k p.schemaVersion plainText) }
        | "start" => do pure { p with start := some (← once k p.start (option plainText)) }
        | "actions" => do pure { p with actions := some (← once k p.actions (list room action)) }
        | "expectedEvents" => do
          pure { p with expectedEvents := some (← once k p.expectedEvents (list room expected)) }
        | "expectedVariables" => do
          pure { p with expectedVariables := some (← once k p.expectedVariables (expectedValues room)) }
        | "expectedDiagnostics" => do
          let ds ← once k p.expectedDiagnostics (option (list room fun _ => plainText))
          pure { p with expectedDiagnostics := some ds }
        | _ => do
          colon
          let input ← read
          skipValue (input.size + 1)
          pure p
      caseEntries room fuel false p
    else lift p.build

/-- Reads the items of a case list after its opening bracket: the fields in order. -/
def caseItems (room : Nat) : Read Case := do
  let schema ← if ← moreItems true then plainText
    else throw (invalidLength 0 (withElements "struct TestCase" 6))
  let start ← if ← moreItems false then option plainText else pure none
  let actions ← if ← moreItems false then list room action else pure []
  let events ← if ← moreItems false then list room expected else pure []
  let vars ← if ← moreItems false then expectedValues room else pure KeyMap.empty
  let diags ← if ← moreItems false then option (list room fun _ => plainText) else pure none
  pure ⟨schema, start, actions, events, vars, diags⟩

/-- Reads a case as an object or a list. -/
def caseValue (room : Nat) : Read Case :=
  settling do
    match ← valueStart with
    | 0x7B =>
      match room with
      | 0 => failAhead .recursionLimit
      | r + 1 =>
        eat
        let input ← read
        closing (caseEntries r (input.size + 1) true {}) endObject
    | 0x5B =>
      match room with
      | 0 => failAhead .recursionLimit
      | r + 1 =>
        eat
        closing (caseItems r) endList
    | _ => mismatch "struct TestCase"

end Decode

/-- **Reads a case** from its text; nothing but blanks may follow it. -/
def decodeCase (source : String) : Except Json.Error Case :=
  (Json.Read.run (do let c ← Decode.caseValue Json.Read.rootRoom; Json.Read.finish; pure c)
    source.toUTF8 0).1

end Colloquy.Script
