import Colloquy.Script.Decode
import Colloquy.Presentation
/-!
# Reading events

A screen can be fed events recorded as JSON: a list of objects tagged by `kind`,

* `{"kind":"line","speaker":s,"text":s}`,
* `{"kind":"choices","items":[{"index":n,"text":s}]}`,
* `{"kind":"choicesCleared"}` and `{"kind":"hidden"}`.

An event may also be a list whose first item is the kind and whose other items are the fields
in order. The events are read from an object view of the JSON, so faults carry no position:
they are the words of the first thing found wrong.
-/

namespace Colloquy.Screen

open Json (Value Error)
open Script.Decode

/-- A field of a choice item as read. -/
inductive ItemField where
  | index (n : Nat)
  | text (s : String)
  deriving Inhabited

/-- Reads a field of a choice item by its name. -/
def itemField (name : String) (v : Value) : Except Error ItemField :=
  if name == "index" then ItemField.index <$> sizeOf v else ItemField.text <$> textOf v

/-- The choice item of its read fields. -/
def itemOfFields (fs : List (String × ItemField)) : ChoiceItem :=
  let index := match fs.lookup "index" with
    | some (.index n) => n
    | _ => 0
  let text := match fs.lookup "text" with
    | some (.text s) => s
    | _ => ""
  ⟨index, text⟩

/-- **Reads a choice item.** -/
def choiceItemOf (v : Value) : Except Error ChoiceItem :=
  record "struct ChoiceItem" itemField [("index", none), ("text", none)] itemOfFields v

/-- Reads the choice items of a `choices` event. -/
def choiceItemsOf : Value → Except Error (List ChoiceItem)
  | .array xs => xs.mapM choiceItemOf
  | v => throw (invalidType (describe v) "a sequence")

/-- The reader of an event's fields, by the event's kind. -/
def eventVariant : String → Except Error (Value → Except Error Event)
  | "line" => pure (record "struct variant PresentationEvent::Line" (fun _ => textOf)
      [("speaker", none), ("text", none)] fun fs => .line (field fs "speaker") (field fs "text"))
  | "choices" => pure fun v => do
      let items ← record "struct variant PresentationEvent::Choices" (fun _ => pure)
        [("items", none)] (fun fs => field fs "items") v
      Event.choices <$> choiceItemsOf items
  | "choicesCleared" => pure (unitVariant "unit variant PresentationEvent::ChoicesCleared" .choicesCleared)
  | "hidden" => pure (unitVariant "unit variant PresentationEvent::Hidden" .hidden)
  | other => throw (unknownVariant other ["line", "choices", "choicesCleared", "hidden"])

/-- The reader of the fields that a kind names. -/
def kindOf : Value → Except Error (Value → Except Error Event)
  | .string s => eventVariant s
  | v => throw (invalidType (describe v) "variant identifier")

/-- **Reads an event**: its kind first, then the fields that kind has. -/
def eventOf : Value → Except Error Event
  | .object es =>
    match es.find? (·.1 == "kind") with
    | none => throw (missingField "kind")
    | some (_, k) => do
      let read ← kindOf k
      read (.object (es.filter (·.1 != "kind")))
  | .array [] => throw (missingField "kind")
  | .array (k :: rest) => do
    let read ← kindOf k
    read (.array rest)
  | v => throw (invalidType (describe v) "internally tagged enum PresentationEvent")

/-- Reads a list of events. -/
def eventsOf : Value → Except Error (List Event)
  | .array xs => xs.mapM eventOf
  | v => throw (invalidType (describe v) "a sequence")

/-- **Reads a list of events** from JSON text. -/
def readEvents (source : String) : Except Error (List Event) :=
  Json.parse source >>= eventsOf

end Colloquy.Screen
