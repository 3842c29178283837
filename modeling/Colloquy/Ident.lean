import Colloquy.Text.Blank
import Colloquy.Text.Lowercase
/-!
# Conversation ids

Conversations are found by a *key*: the id with blanks trimmed from both ends, then lowered in
full. So ` Shop ` and `SHOP` name the same conversation. The *display id* keeps its case and
is only trimmed; since trimming twice trims once, a display id has the key of the id it was
made from (`key_display`).
-/

namespace Colloquy.Ident

/-- **The key of an id**: trimmed, then lowered. -/
def key (id : String) : String :=
  Text.lower (Text.trim id)

/-- The display form of an id: trimmed. -/
def display (id : String) : String :=
  Text.trim id

@[simp] theorem key_display (id : String) : key (display id) = key id := by
  simp [key, display]

end Colloquy.Ident
