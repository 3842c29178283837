import Colloquy.Console.Source
import Colloquy.Engine.Create
import Colloquy.Json.Writer
/-!
# Playing on a terminal, line by line

A session is an engine for a loaded dialogue, started at its entry, whose presentation records
what to show. The player works in turns:

1. it shows what the engine emitted since the last turn, then the diagnostics;
2. once the run has ended it stops with status 0; otherwise it prompts with `> ` and reads a
   line, stopping with status 0 at the end of input.

A line is trimmed of line ends and then of blanks. Commands start with `:`: `:start <id>`,
`:end`, `:vars`, `:restart` (a fresh engine for the same dialogue), `:help` and `:quit`.
Otherwise an empty line advances and a number picks a choice; a refused advance or choice gets
a hint. A line that is not UTF-8 ends the program with the fault `TUI_IO`.

Faults end the program with a report on standard output and status 1:
`RESULT:ERROR`, `ERROR_CODE:<code>` and `ERROR_MSG_JSON:<message as a JSON string>`.
-/

namespace Colloquy.Console

/-- A running dialogue. -/
structure Session where
  dialogue : Loaded
  entry : Option String
  engine : Engine
  deriving Inhabited

namespace Session

/-- **Opens a session**: an engine for the dialogue, started at the entry. -/
def create (d : Loaded) (entry : Option String) : Except Fault Session :=
  (Engine.create d.source entry {} { attached := true }).map fun e => ⟨d, entry, e⟩

/-- A fresh session for the same dialogue and entry; variable changes are lost. -/
def restart (s : Session) : Except Fault Session :=
  Session.create s.dialogue s.entry

/-- Routes a command to the engine. -/
def dispatch (s : Session) (c : Command) : Bool × Session :=
  let (acted, e) := s.engine.dispatch c
  (acted, { s with engine := e })

end Session

/-- The list of commands. -/
def lineHelp : String :=
  "commands: <enter> advance | <n> choose | :start <id> | :end | :vars | :restart | :help | :quit"

/-- A line as shown: the speaker, a colon and the text, or the text alone. -/
def dialogueLine (speaker text : String) : String :=
  if speaker.isEmpty then text else speaker ++ ": " ++ text

/-- The text shown for an event. -/
def eventText : Event → String
  | .line speaker text => "\n" ++ dialogueLine speaker text ++ "\n"
  | .choices items =>
    String.join (items.map fun i => "  [" ++ toString i.index ++ "] " ++ i.text ++ "\n")
  | .choicesCleared => ""
  | .hidden => "\n[END]\n"

/-- The text shown for a diagnostic. -/
def diagnosticText (d : Diagnostic) : String :=
  "! " ++ d.code ++ ": " ++ d.message ++ "\n"

/-- **The report of a fault** that ends the program. -/
def errorReport (f : Fault) : String :=
  "RESULT:ERROR\nERROR_CODE:" ++ f.code ++ "\nERROR_MSG_JSON:" ++ Json.quote f.message ++ "\n"

/-- The fault of an unreadable line of input. -/
def unreadableInput : Fault :=
  ⟨"TUI_IO", Files.notUtf8⟩

/-- A line of input: its text with its line end, or bytes that are not UTF-8. -/
inductive Input where
  | line (text : String)
  | unreadable
  deriving BEq, Inhabited, Repr

/-- Splits input bytes into lines, each with its line feed; the last may have none. -/
def inputLines (bytes : ByteArray) : List Input :=
  let pieces := (bytes.toList.splitOn 10).map fun bs => bs ++ [10]
  let pieces := match pieces.getLast? with
    | some last => pieces.dropLast ++ (if last == [10] then [] else [last.dropLast])
    | none => []
  pieces.map fun bs =>
    match String.fromUTF8? (ByteArray.mk bs.toArray) with
    | some s => .line s
    | none => .unreadable

/-- What the player does after a turn. -/
inductive Next where
  | prompt (s : Session)
  | finished (status : Nat)
  deriving Inhabited

/-- **A turn**: what the engine emitted and the diagnostics, then a prompt while the run goes
on. -/
def Session.turn (s : Session) : String × Next :=
  let (events, e) := s.engine.drainEvents
  let (diagnostics, e) := e.takeDiagnostics
  let out := String.join (events.map eventText) ++ String.join (diagnostics.map diagnosticText)
  let s := { s with engine := e }
  if !s.engine.isActive then (out, .finished 0) else (out ++ "> ", .prompt s)

/-- The opening of a session: the title, the commands, and the first turn. -/
def Session.begin (s : Session) : String × Next :=
  let (out, next) := s.turn
  ("Dialogue: " ++ s.dialogue.title ++ "\n" ++ lineHelp ++ "\n" ++ out, next)

/-- The hint for a refused advance or choice. -/
def rejectedHint (s : Session) : Command → String
  | .advance =>
    if s.engine.phase == .awaitingChoice then
      "pick a choice between 0 and " ++ toString (s.engine.run.pending.length - 1)
    else "nothing to do"
  | .choose i =>
    let count := s.engine.run.pending.length
    if count == 0 then "no choice " ++ toString i ++ " here, press enter to continue"
    else "no choice " ++ toString i ++ " (0-" ++ toString (count - 1) ++ ")"
  | _ => "nothing to do"

/-- The variables as listed by `:vars`. -/
def varsText (s : Session) : String :=
  let vars := s.engine.store.toList
  if vars.isEmpty then "(no variables)\n"
  else String.join (vars.map fun (name, v) => name ++ " = " ++ v.jsonText ++ "\n")

/-- Removes line feeds and carriage returns from the end of a text. -/
def dropLineEnd (s : String) : String :=
  String.ofList ((s.toList.reverse.dropWhile fun c => c == '\n' || c == '\r').reverse)

/-- The result of answering a prompt: output so far, then how the session goes on. -/
inductive Reply where
  | continue (out : String) (s : Session)
  | quit (out : String)
  | fault (out : String) (f : Fault)

/-- **Answers one line** of input. -/
def Session.reply (s : Session) (text : String) : Reply :=
  let raw := Text.trim (dropLineEnd text)
  if raw.startsWith ":start " then
    .continue "" (s.dispatch (.start (Text.trim (raw.drop 7).toString))).2
  else
    match raw with
    | ":help" => .continue (lineHelp ++ "\n") s
    | ":end" => .continue "" (s.dispatch .stop).2
    | ":vars" => .continue (varsText s) s
    | ":restart" =>
      match s.restart with
      | .ok s => .continue "restarted\n" s
      | .error f => .fault "" f
    | ":quit" => .quit "bye\n"
    | _ =>
      let command := if raw.isEmpty then some Command.advance
        else (readSize? raw).map Command.choose
      match command with
      | none => .continue ("unrecognized input: " ++ raw ++ " (:help)\n") s
      | some c =>
        let (acted, s') := s.dispatch c
        if acted then .continue "" s'
        else .continue (rejectedHint s' c ++ "\n") s'

/-- **Answers a prompt** with a line of input, or with the end of input. -/
def Session.answer (s : Session) : Option Input → String × Next
  | none => ("", .finished 0)
  | some .unreadable => (errorReport unreadableInput, .finished 1)
  | some (.line text) =>
    match s.reply text with
    | .continue out s =>
      let (more, next) := s.turn
      (out ++ more, next)
    | .quit out => (out, .finished 0)
    | .fault out f => (out ++ errorReport f, .finished 1)

/-- **Plays a session** over the lines of input: the whole output and the status. -/
def Session.play (s : Session) (input : List Input) : String × Nat :=
  let rec go (s : Session) : List Input → String × Nat
    | [] => let (out, next) := s.answer none
            match next with
            | .finished n => (out, n)
            | .prompt _ => (out, 0)
    | i :: rest =>
      let (out, next) := s.answer (some i)
      match next with
      | .finished n => (out, n)
      | .prompt s => let (more, n) := go s rest; (out ++ more, n)
  let (out, next) := s.begin
  match next with
  | .finished n => (out, n)
  | .prompt s => let (more, n) := go s input; (out ++ more, n)

end Colloquy.Console
