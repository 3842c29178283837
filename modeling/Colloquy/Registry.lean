import Colloquy.KeyMap
import Colloquy.Ident
import Colloquy.Document.Basic
/-!
# The conversation registry

The registry holds conversations under their keys (`Ident.key`: trimmed and lowered). A
conversation keeps its display id, the trimmed id it was registered with. Registering under a
key that is taken replaces the conversation there and returns the one replaced. So of two ids
of a document that share a key, the later one wins. Clearing empties the registry, and
replacing everything by a document gives the registry of that document.

A look-up by an id whose key is empty finds nothing, even though a conversation with an empty
key can be registered. `knownIds` lists display ids in key order.

Every registry holds each conversation under the key of its own display id (`Registry.keyed`):
a registration puts the display id under the key of the id, which is the key of the display id
(`Ident.key_display`).
-/

namespace Colloquy

/-- Conversations by key, each under the key of its own display id. -/
structure Registry where
  map : KeyMap Conversation
  keyed : ∀ p ∈ map.entries, Ident.key p.2.id = p.1

namespace Registry

theorem keyed_empty : ∀ p ∈ (KeyMap.empty : KeyMap Conversation).entries,
    Ident.key p.2.id = p.1 := by
  intro p hp
  cases hp

/-- The empty registry. -/
def empty : Registry := ⟨KeyMap.empty, keyed_empty⟩

instance : Inhabited Registry := ⟨empty⟩

/-- A conversation registered under an id sits under the key of its display id. -/
theorem keyed_insert (r : Registry) (id : String) (nodes : List Node) :
    ∀ p ∈ (r.map.insert (Ident.key id) ⟨Ident.display id, nodes⟩).entries,
      Ident.key p.2.id = p.1 := by
  intro p hp
  rcases KeyMap.mem_insertEntry hp with rfl | hp
  · exact Ident.key_display id
  · exact r.keyed p hp

/-- Registers nodes under an id, giving the registry and the conversation replaced. -/
def register (r : Registry) (id : String) (nodes : List Node) : Registry × Option Conversation :=
  let k := Ident.key id
  (⟨r.map.insert k ⟨Ident.display id, nodes⟩, keyed_insert r id nodes⟩, r.map.find? k)

/-- Registers the conversations of a list, in order. -/
def registerAll (r : Registry) (cs : List Conversation) : Registry :=
  cs.foldl (fun r c => (r.register c.id c.nodes).1) r

/-- **The registry of a document.** -/
def ofDocument (d : Document) : Registry :=
  empty.registerAll d.conversations

/-- Drops every conversation. -/
def clear (_ : Registry) : Registry :=
  empty

/-- Drops every conversation and registers a document's instead. -/
def replaceAll (_ : Registry) (d : Document) : Registry :=
  ofDocument d

/-- **Look-up** by id: by key, and never for an empty key. -/
def lookup? (r : Registry) (id : String) : Option Conversation :=
  let k := Ident.key id
  if k = "" then none else r.map.find? k

/-- Whether an id finds a conversation. -/
def contains (r : Registry) (id : String) : Bool :=
  (r.lookup? id).isSome

/-- The conversations in key order. -/
def conversations (r : Registry) : List Conversation :=
  r.map.values

/-- The display ids in key order. -/
def knownIds (r : Registry) : List String :=
  r.conversations.map (·.id)

/-- The number of conversations. -/
def size (r : Registry) : Nat :=
  r.map.size

/-- Whether the registry is empty. -/
def isEmpty (r : Registry) : Bool :=
  r.map.isEmpty

end Registry

end Colloquy
