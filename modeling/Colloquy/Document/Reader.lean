import Colloquy.Document.Basic
import Colloquy.Json.Reader
import Colloquy.Fault
import Colloquy.Text.Blank
/-!
# Reading a document

A document is read from JSON text in two stages. The text is first read into its object view
(`Json.parse`: a repeated key keeps its first position and takes its last value). That value is
then checked and turned into a `Document`. The first fault found wins, in this order:

1. JSON syntax (`DOC_JSON_INVALID`, with the reader's message).
2. The root must be an object (`DOC_ROOT_INVALID`).
3. `variables` must be absent, `null` or an object of scalars (`DOC_VARIABLES_INVALID`,
   `DOC_VALUE_UNSUPPORTED`).
4. `conversations` must be an object (`DOC_CONVERSATIONS_MISSING`).
5. Each conversation in order must be a list of node objects. Within a node: `speaker`, then
   `text`, then `choices` (a list of objects with a string `text` and `goto`), then `set` (an
   object of scalars), then `goto`.

A field that is `null` counts as absent. Conversation ids, jump targets and choice targets are
trimmed. A number is a whole scalar when it was read as a whole number in the 64-bit signed
range, and a binary64 scalar otherwise.
-/

namespace Colloquy

/-- What is wrong with a document. A *path* such as `conversations.a[0].choices[1]` says
where. -/
inductive DocumentFault where
  | json (error : Json.Error)
  | rootNotObject
  | variablesNotObject (kind : String)
  | conversationsMissing
  | conversationsNotObject (kind : String)
  | conversationNotList (id kind : String)
  | notObject (path kind : String)
  | notString (path key kind : String)
  | choicesNotList (path kind : String)
  | setNotObject (path kind : String)
  | choiceTextMissing (path : String)
  | choiceTargetMissing (path text : String)
  | valueUnsupported (path name kind : String)

namespace DocumentFault

/-- The code of a fault. -/
def code : DocumentFault → String
  | json _ => "DOC_JSON_INVALID"
  | rootNotObject => "DOC_ROOT_INVALID"
  | variablesNotObject _ => "DOC_VARIABLES_INVALID"
  | conversationsMissing | conversationsNotObject _ => "DOC_CONVERSATIONS_MISSING"
  | conversationNotList _ _ | notObject _ _ | notString _ _ _ | choicesNotList _ _
  | setNotObject _ _ => "DOC_NODE_INVALID"
  | choiceTextMissing _ => "DOC_CHOICE_TEXT_MISSING"
  | choiceTargetMissing _ _ => "DOC_CHOICE_TARGET_MISSING"
  | valueUnsupported _ _ _ => "DOC_VALUE_UNSUPPORTED"

/-- The message of a fault. -/
def message : DocumentFault → String
  | json e => e.message
  | rootNotObject => "Dialogue document root must be a JSON object."
  | variablesNotObject k => "\"variables\" must be an object, found " ++ k ++ "."
  | conversationsMissing => "Dialogue document has no \"conversations\" section."
  | conversationsNotObject k => "\"conversations\" must be an object, found " ++ k ++ "."
  | conversationNotList id k =>
    "Conversation \"" ++ id ++ "\" must be a list of nodes, found " ++ k ++ "."
  | notObject p k => p ++ " must be an object, found " ++ k ++ "."
  | notString p key k => p ++ "." ++ key ++ " must be a string, found " ++ k ++ "."
  | choicesNotList p k => p ++ ".choices must be a list, found " ++ k ++ "."
  | setNotObject p k => p ++ ".set must be an object, found " ++ k ++ "."
  | choiceTextMissing p => p ++ " has no \"text\"."
  | choiceTargetMissing p t => p ++ " (\"" ++ t ++ "\") has no \"goto\" target."
  | valueUnsupported p n k => p ++ "." ++ n ++ " must be a boolean, number or string, found " ++ k ++ "."

/-- The fault as a code and message. -/
def toFault (f : DocumentFault) : Fault :=
  ⟨f.code, f.message⟩

end DocumentFault

namespace Document

open Json (Value)

/-- The scalar of a JSON value, if it is a boolean, number or string. -/
def scalarOf? : Value → Option Scalar
  | .bool b => some (.bool b)
  | .number (.nat n) => some (if n ≤ Nat.pow 2 63 - 1 then .int n else .number (Decimal.nearest false n 1))
  | .number (.neg n) => some (.int n)
  | .number (.float x) => some (.number x)
  | .string s => some (.string s)
  | _ => none

/-- Reads one entry whose value must be a scalar; `path` names the object. -/
def scalarEntry (path : String) : String × Value → Except DocumentFault (String × Scalar)
  | (name, v) =>
    match scalarOf? v with
    | some s => pure (name, s)
    | none => throw (.valueUnsupported path name v.kind)

/-- Reads entries whose values must be scalars; `path` names the object. -/
def scalars (path : String) : List (String × Value) → Except DocumentFault (List (String × Scalar))
  | [] => pure []
  | e :: rest => do
    let b ← scalarEntry path e
    return b :: (← scalars path rest)

/-- A field that must be a string when present; `null` counts as absent. -/
def optionalString (fields : List (String × Value)) (key path : String) :
    Except DocumentFault (Option String) :=
  match Value.lookup fields key with
  | none | some .null => pure none
  | some (.string s) => pure (some s)
  | some other => throw (.notString path key other.kind)

/-- Reads one choice at its path. -/
def choiceOf (path : String) : Value → Except DocumentFault Choice
  | .object fields => do
    let some text ← optionalString fields "text" path | throw (.choiceTextMissing path)
    let some target ← optionalString fields "goto" path | throw (.choiceTargetMissing path text)
    return ⟨text, Text.trim target⟩
  | other => throw (.notObject path other.kind)

/-- Reads the choices of a node, numbering their paths from `i`. -/
def choicesFrom (path : String) (i : Nat) : List Value → Except DocumentFault (List Choice)
  | [] => pure []
  | v :: rest => do
    let c ← choiceOf (path ++ ".choices[" ++ toString i ++ "]") v
    return c :: (← choicesFrom path (i + 1) rest)

/-- Reads the `choices` of a node at its path: absent or `null` is none. -/
def choicesField (path : String) : Option Value → Except DocumentFault (List Choice)
  | none | some .null => pure []
  | some (.array items) => choicesFrom path 0 items
  | some other => throw (.choicesNotList path other.kind)

/-- Reads an object of scalars at its path, absent or `null` being empty. Another kind of value
is the fault `notObject` names by its kind. -/
def scalarsField (notObject : String → DocumentFault) (path : String) :
    Option Value → Except DocumentFault (List (String × Scalar))
  | none | some .null => pure []
  | some (.object entries) => scalars path entries
  | some other => throw (notObject other.kind)

/-- Reads one node at its path. -/
def nodeOf (path : String) : Value → Except DocumentFault Node
  | .object fields => do
    let speaker ← optionalString fields "speaker" path
    let text ← optionalString fields "text" path
    let choices ← choicesField path (Value.lookup fields "choices")
    let assignments ← scalarsField (.setNotObject path) (path ++ ".set") (Value.lookup fields "set")
    let goto ← optionalString fields "goto" path
    return { speaker := speaker.getD "", text := text.getD "", choices := choices,
             assignments := assignments, goto := goto.map Text.trim }
  | other => throw (.notObject path other.kind)

/-- Reads the nodes of a conversation, numbering their paths from `i`. -/
def nodesFrom (id : String) (i : Nat) : List Value → Except DocumentFault (List Node)
  | [] => pure []
  | v :: rest => do
    let n ← nodeOf ("conversations." ++ id ++ "[" ++ toString i ++ "]") v
    return n :: (← nodesFrom id (i + 1) rest)

/-- Reads one conversation: its id trimmed, and its nodes. -/
def conversationOf (rawId : String) : Value → Except DocumentFault Conversation
  | .array items => do pure ⟨Text.trim rawId, ← nodesFrom (Text.trim rawId) 0 items⟩
  | other => throw (.conversationNotList (Text.trim rawId) other.kind)

/-- Reads the conversations, in order. -/
def conversationsOf : List (String × Value) → Except DocumentFault (List Conversation)
  | [] => pure []
  | (rawId, v) :: rest => do
    let c ← conversationOf rawId v
    return c :: (← conversationsOf rest)

/-- Reads the `conversations` section, which must be an object. -/
def conversationsField : Option Value → Except DocumentFault (List Conversation)
  | none | some .null => throw .conversationsMissing
  | some (.object entries) => conversationsOf entries
  | some other => throw (.conversationsNotObject other.kind)

/-- **Checks a JSON value** and turns it into a document. -/
def ofJson : Value → Except DocumentFault Document
  | .object root => do
    let bindings ← scalarsField .variablesNotObject "variables" (Value.lookup root "variables")
    let conversations ← conversationsField (Value.lookup root "conversations")
    return { bindings := bindings, conversations := conversations }
  | _ => throw .rootNotObject

/-- **Reads a document** from JSON text. -/
def read (source : String) : Except DocumentFault Document :=
  match Json.parse source with
  | .ok v => ofJson v
  | .error e => throw (.json e)

/-- Reads a document, with the fault as a code and message. -/
def parse (source : String) : Except Fault Document :=
  (read source).mapError DocumentFault.toFault

end Document

end Colloquy
