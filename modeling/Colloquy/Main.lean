import Colloquy.Console.Program
/-!
# The command line

`colloquy play|tui|check --dialogue <path> [--start <id>] [--log-level <level>]` on the real
system. Files are read from disk. Standard input is read one line at a time, so that every
answer is written before the next line is awaited. The full screen needs a terminal this
program does not drive, so `tui` plays line by line as it does without one.

A write to standard output that fails ends the program with status 101, except for help,
which ends with status 0 whatever became of it.
-/

namespace Colloquy.Console

/-- The words of a failed file operation. -/
def ioReason : IO.Error → String
  | .noFileOrDirectory .. => Files.notFound
  | .inappropriateType _ 20 _ => Files.notDirectory
  | .inappropriateType _ 21 _ => Files.isDirectory
  | .permissionDenied .. => "Permission denied (os error 13)"
  | e => toString e

/-- The answers of the file system of the machine. -/
def systemHost : Host IO where
  currentDir := do
    match ← IO.currentDir.toBaseIO with
    | .ok p => pure (.ok p.toString)
    | .error e => pure (.error (ioReason e))
  kind := fun p => do
    match ← (IO.FS.readBinFile p).toBaseIO with
    | .ok _ => pure (some .file)
    | .error (.inappropriateType _ 21 _) => pure (some .directory)
    | .error (.permissionDenied ..) => pure (some .file)
    | .error _ => pure none
  readText := fun p => do
    match ← (IO.FS.readBinFile p).toBaseIO with
    | .ok bytes =>
      match String.fromUTF8? bytes with
      | some s => pure (.ok s)
      | none => pure (.error Files.notUtf8)
    | .error e => pure (.error (ioReason e))

/-- Writes text to a stream, and whether it could. -/
def emit (out : IO.FS.Stream) (text : String) : IO Bool := do
  try
    out.putStr text
    out.flush
    return true
  catch _ =>
    return false

/-- Reads a line of bytes with its line feed, after the bytes in `acc`; none at the end of
input. -/
partial def readLineBytes (input : IO.FS.Stream) (acc : ByteArray) : IO (Option ByteArray) := do
  let b ← input.read 1
  if b.isEmpty then return (if acc.isEmpty then none else some acc)
  let acc := acc ++ b
  if b.data.any (· == 10) then return some acc else readLineBytes input acc

/-- A line of input as the session takes it. -/
def inputOf (bytes : ByteArray) : Input :=
  match String.fromUTF8? bytes with
  | some s => .line s
  | none => .unreadable

/-- Writes the output of a turn, then goes on as the turn says. -/
partial def converse (input out : IO.FS.Stream) : String × Next → IO UInt32
  | (text, next) => do
    unless ← emit out text do return 101
    match next with
    | .finished n => return n.toUInt32
    | .prompt s =>
      let line ← readLineBytes input ByteArray.empty
      converse input out (s.answer (line.map inputOf))

/-- Runs an invocation whose arguments were accepted. -/
def runSystem (input out : IO.FS.Stream) (i : Invocation) : IO UInt32 := do
  let finish (o : Outcome) : IO UInt32 := do
    if ← emit out o.stdout then return o.status.toUInt32 else return 101
  match checkLogLevel i.logLevel with
  | .error f => finish ⟨errorReport f, 1⟩
  | .ok _ =>
    match ← (loadDialogue systemHost i.dialogue).run with
    | .error f => finish ⟨errorReport f, 1⟩
    | .ok d =>
      match i.mode with
      | .check => finish (runCheck d)
      | .play | .tui =>
        match Session.create d i.start with
        | .error f => finish ⟨errorReport f, 1⟩
        | .ok s => converse input out s.begin

end Colloquy.Console

open Colloquy.Console in
/-- The program: its arguments, standard input and standard output. -/
def main (args : List String) : IO UInt32 := do
  let out ← IO.getStdout
  match parseArgs args with
  | .usage =>
    IO.eprintln "error: the arguments were not understood; try --help"
    return 2
  | .help text =>
    let _ ← emit out text
    return 0
  | .run i => runSystem (← IO.getStdin) out i
