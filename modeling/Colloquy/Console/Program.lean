import Colloquy.Console.Args
import Colloquy.Console.Session
import Colloquy.Check
/-!
# The program

`run` is the whole program on a view of the files and the bytes of standard input: it gives
what is written on standard output and the exit status.

* A usage error writes nothing and ends with status 2; help is written and ends with 0.
* `check` writes a report: `RESULT:OK`, the conversations in key order with their node
  counts, the number of variables, each finding of `Document.check` with its message as a JSON
  string, and `STATUS:CLEAN` (status 0) or `STATUS:WARN` (status 2).
* `play` plays line by line. `tui` needs a terminal; without one it plays line by line too.
* A fault writes its report and ends with status 1.

When standard output refuses writes, help and usage errors end as before with nothing
written, and every other run fails on its first write and aborts with status 101.
-/

namespace Colloquy.Console

/-- What the program leaves: its standard output and its exit status. -/
structure Outcome where
  stdout : String
  status : Nat
  deriving BEq, Inhabited, Repr

/-- **The report of `check`**, and whether the document is clean. -/
def checkReport (d : Document) : List String × Bool :=
  let r := Registry.ofDocument d
  let findings := d.check
  let lines := ["RESULT:OK", "CONVERSATIONS:" ++ toString r.size] ++
    r.conversations.map (fun c => "CONVERSATION:" ++ c.id ++ "|" ++ toString c.nodes.length) ++
    ["VARIABLES:" ++ toString d.bindings.length] ++
    findings.map (fun f => "DIAGNOSTIC:" ++ f.code ++ "|" ++ Json.quote f.message) ++
    [if findings.isEmpty then "STATUS:CLEAN" else "STATUS:WARN"]
  (lines, findings.isEmpty)

/-- Runs `check` on a loaded dialogue. -/
def runCheck (d : Loaded) : Outcome :=
  match Document.parse d.source with
  | .error f => ⟨errorReport f, 1⟩
  | .ok doc =>
    let (lines, clean) := checkReport doc
    ⟨String.join (lines.map (· ++ "\n")), if clean then 0 else 2⟩

/-- Runs an invocation whose log level is accepted. -/
def runInvocation (fs : Files.FileSystem) (i : Invocation) (stdin : ByteArray) : Outcome :=
  match (loadDialogue (hostOf fs) i.dialogue).run with
  | .error f => ⟨errorReport f, 1⟩
  | .ok d =>
    match i.mode with
    | .check => runCheck d
    | .play | .tui =>
      match Session.create d i.start with
      | .error f => ⟨errorReport f, 1⟩
      | .ok s => let (out, status) := s.play (inputLines stdin); ⟨out, status⟩

/-- **Runs the program** with the arguments after its name. -/
def run (fs : Files.FileSystem) (args : List String) (stdin : ByteArray) : Outcome :=
  match parseArgs args with
  | .usage => ⟨"", 2⟩
  | .help text => ⟨text, 0⟩
  | .run i =>
    match checkLogLevel i.logLevel with
    | .error f => ⟨errorReport f, 1⟩
    | .ok _ => runInvocation fs i stdin

/-- Runs the program when standard output refuses every write. -/
def runWithoutOutput (args : List String) : Outcome :=
  match parseArgs args with
  | .usage => ⟨"", 2⟩
  | .help _ => ⟨"", 0⟩
  | .run _ => ⟨"", 101⟩

end Colloquy.Console
