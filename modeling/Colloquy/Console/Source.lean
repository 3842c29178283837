import Colloquy.Files.System
import Colloquy.Fault
import Colloquy.Text.Blank
/-!
# Finding and reading the dialogue

The program asks the system three things about files, gathered in a `Host`: the working
directory, what stands at a path, and the text of a file. `hostOf` answers them from
a `FileSystem`; the program's entry point answers them from the real system.

`--dialogue` names a dialogue file, or a directory holding `dialogue.json`. A relative path is
taken from the working directory. The path must exist (`CLI_SOURCE_NOT_FOUND`), and a directory
must hold the file (`CLI_SOURCE_NOT_FILE`). The file must read as text (`API_DOCUMENT_READ`).
When the working directory is gone, a relative path fails with `CLI_SOURCE_PATH`.

The dialogue's *title* is the name of its directory when the file is `dialogue.json`, and
otherwise the file's stem; failing both, `dialogue`.

`--log-level` accepts `trace`, `debug`, `info`, `warn` and `error` in any case of letters, and
the numbers 1 to 5, after trimming blanks (`CLI_LOG_LEVEL_INVALID` otherwise).
-/

namespace Colloquy.Console

open Files

/-- What stands at a path. -/
inductive Kind where
  | file
  | directory
  deriving BEq, Inhabited, Repr

/-- What the program asks of the system about files. -/
structure Host (m : Type → Type) where
  currentDir : m (Except String String)
  kind : String → m (Option Kind)
  readText : String → m (Except String String)

/-- The answers of a file system. -/
def hostOf (fs : FileSystem) : Host Id where
  currentDir := fs.currentDir
  kind := fun p =>
    match fs.lookup p with
    | .ok .directory => some .directory
    | .ok (.file _) => some .file
    | .error _ => none
  readText := fs.readText

/-- A dialogue read from a file: where it was, its title and its text. -/
structure Loaded where
  path : String
  title : String
  source : String
  deriving Inhabited

/-- The name of the dialogue file of a directory. -/
def dialogueFileName : String := "dialogue.json"

/-- **The title** of a dialogue file. -/
def titleOf (path : String) : String :=
  let named := if fileName? path == some dialogueFileName then parentName? path else fileStem? path
  named.getD "dialogue"

/-- **The dialogue file** that `--dialogue` names. -/
def resolveDialogue {m : Type → Type} [Monad m] (h : Host m) (arg : String) :
    ExceptT Fault m String := do
  let absolute ← if isAbsolute arg then pure arg
    else match ← (h.currentDir : m _) with
      | .ok cwd => pure (join cwd arg)
      | .error reason => throw ⟨"CLI_SOURCE_PATH", reason⟩
  match ← (h.kind absolute : m _) with
  | none => throw ⟨"CLI_SOURCE_NOT_FOUND", "dialogue does not exist: " ++ absolute⟩
  | some .file => pure absolute
  | some .directory =>
    let file := join absolute dialogueFileName
    if (← (h.kind file : m _)) == some .file then pure file
    else throw ⟨"CLI_SOURCE_NOT_FILE", "directory has no " ++ dialogueFileName ++ ": " ++ absolute⟩

/-- **Loads the dialogue** that `--dialogue` names. -/
def loadDialogue {m : Type → Type} [Monad m] (h : Host m) (arg : String) :
    ExceptT Fault m Loaded := do
  let path ← resolveDialogue h arg
  match ← (h.readText path : m _) with
  | .ok source => pure ⟨path, titleOf path, source⟩
  | .error reason => throw ⟨"API_DOCUMENT_READ", "Failed to read " ++ path ++ ": " ++ reason⟩

/-- Reads a whole number the way sizes are read: an optional `+`, then ASCII digits, below
`2 ^ 64`. -/
def readSize? (s : String) : Option Nat :=
  let digits := match s.toList with
    | '+' :: rest => rest
    | cs => cs
  if digits.isEmpty || !digits.all (fun c => '0' ≤ c && c ≤ '9') then none
  else
    let n := digits.foldl (fun n c => 10 * n + (c.toNat - 48)) 0
    if n < Nat.pow 2 64 then some n else none

/-- The logging levels. -/
inductive Level where
  | error
  | warn
  | info
  | debug
  | trace
  deriving BEq, Inhabited, Repr

/-- The level a text names. -/
def levelOf? (raw : String) : Option Level :=
  let t := Text.trim raw
  match readSize? t with
  | some 1 => some .error
  | some 2 => some .warn
  | some 3 => some .info
  | some 4 => some .debug
  | some 5 => some .trace
  | _ =>
    match t.toLower with
    | "error" => some .error
    | "warn" => some .warn
    | "info" => some .info
    | "debug" => some .debug
    | "trace" => some .trace
    | _ => none

/-- **Checks `--log-level`.** -/
def checkLogLevel (raw : String) : Except Fault Level :=
  match levelOf? raw with
  | some l => .ok l
  | none => .error ⟨"CLI_LOG_LEVEL_INVALID",
    "Unsupported log level \"" ++ raw ++ "\". Use trace, debug, info, warn or error."⟩

end Colloquy.Console
