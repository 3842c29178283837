import Colloquy.Fault
/-!
# Diagnostics

A diagnostic reports a problem met while playing or checking a dialogue. It has a kind, a code
and a message. The messages are built here:

* not found: `<context> '<id>' not found. Known: a, b`
* jump limit: `goto chain through '<id>' exceeded <n> hops without reaching a line.`
* already active: `Cannot start '<requested>' while '<active>' is running.`

A `DiagnosticLog` keeps the newest diagnostics up to its limit, which is at least one. When a
report arrives at a full log, the oldest entry is dropped and counted. Taking the entries
empties the log and resets the count.
-/

namespace Colloquy

/-- What a diagnostic is about. -/
inductive DiagnosticKind where
  | documentError
  | conversationNotFound
  | jumpLimitExceeded
  | alreadyActive
  deriving BEq, Inhabited, Repr

/-- The name of a kind. -/
def DiagnosticKind.name : DiagnosticKind → String
  | documentError => "DocumentError"
  | conversationNotFound => "ConversationNotFound"
  | jumpLimitExceeded => "JumpLimitExceeded"
  | alreadyActive => "AlreadyActive"

/-- A reported problem. -/
structure Diagnostic where
  kind : DiagnosticKind
  code : String
  message : String
  deriving BEq, Inhabited, Repr

namespace Diagnostic

/-- A document that failed to load. -/
def document (f : Fault) : Diagnostic :=
  ⟨.documentError, f.code, f.message⟩

/-- An id that finds no conversation, with the ids that exist. -/
def notFound (code context id : String) (known : List String) : Diagnostic :=
  ⟨.conversationNotFound, code,
    context ++ " '" ++ id ++ "' not found. Known: " ++ ", ".intercalate known⟩

/-- A chain of jumps longer than the limit, named by the conversation it would enter next. -/
def jumpLimit (id : String) (hops : Nat) : Diagnostic :=
  ⟨.jumpLimitExceeded, "ENGINE_JUMP_LIMIT",
    "goto chain through '" ++ id ++ "' exceeded " ++ toString hops ++
      " hops without reaching a line."⟩

/-- A start refused because another conversation is running. -/
def alreadyActive (active requested : String) : Diagnostic :=
  ⟨.alreadyActive, "ENGINE_ALREADY_ACTIVE",
    "Cannot start '" ++ requested ++ "' while '" ++ active ++ "' is running."⟩

/-- The diagnostic as a fault. -/
def toFault (d : Diagnostic) : Fault :=
  ⟨d.code, d.message⟩

end Diagnostic

/-- The limit of the engine's log. -/
def defaultDiagnosticLimit : Nat := 256

/-- The newest diagnostics up to a limit, and how many were dropped since the last take. -/
structure DiagnosticLog where
  entries : List Diagnostic := []
  limit : Nat := defaultDiagnosticLimit
  dropped : Nat := 0
  deriving Inhabited

namespace DiagnosticLog

/-- An empty log with a limit; a limit of zero acts as one. -/
def withLimit (limit : Nat) : DiagnosticLog :=
  { limit := max limit 1 }

/-- **Reports** a diagnostic: a full log drops its oldest entry first. -/
def report (l : DiagnosticLog) (d : Diagnostic) : DiagnosticLog :=
  if l.entries.length = l.limit then
    { l with entries := l.entries.tail ++ [d], dropped := l.dropped + 1 }
  else
    { l with entries := l.entries ++ [d] }

/-- **Takes** the entries, leaving the log empty with no drops counted. -/
def take (l : DiagnosticLog) : List Diagnostic × DiagnosticLog :=
  (l.entries, { l with entries := [], dropped := 0 })

end DiagnosticLog

end Colloquy
