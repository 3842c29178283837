/-!
# Faults

A fault is what an operation reports when it fails: a code in capitals, such as
`DOC_JSON_INVALID`, and a message in words. It is written `CODE: message`.
-/

namespace Colloquy

/-- A failure: a code and a message. -/
structure Fault where
  code : String
  message : String
  deriving BEq, Inhabited, Repr

/-- The written form `CODE: message`. -/
def Fault.display (f : Fault) : String :=
  f.code ++ ": " ++ f.message

end Colloquy
