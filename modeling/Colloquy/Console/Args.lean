/-!
# The command line

```
dlg-cli [--log-level <LOG_LEVEL>] play  --dialogue <DIALOGUE> [--start <START>]
dlg-cli [--log-level <LOG_LEVEL>] tui   --dialogue <DIALOGUE> [--start <START>]
dlg-cli [--log-level <LOG_LEVEL>] check --dialogue <DIALOGUE>
dlg-cli help [COMMAND]
```

`--log-level` may stand before or after the command; given after it, that value wins. Its
default is `warn`. Every option takes a value, either attached (`--start=main`) or as the next
word, whatever that word is (a command name too), unless it starts with `-` (other than `-`
itself): then the option lacks its value, which is a usage error at once. `-h` or `--help`
asks for help wherever else it stands.

Words are read in order. Reading stops at the first of: a request for help, an unknown option,
an option without its value, a word where none is expected, an option given twice. After the
last word, a missing `--dialogue` is a usage error. A usage error leaves nothing on standard
output and ends with status 2; help is printed on standard output and ends with status 0.

The options of a command are listed in its help by name, `--help` last.
-/

namespace Colloquy.Console

/-- What the program is asked to do. -/
inductive Mode where
  | play
  | tui
  | check
  deriving BEq, Inhabited, Repr

/-- A command line that asks for a run. -/
structure Invocation where
  logLevel : String
  mode : Mode
  dialogue : String
  start : Option String
  deriving Inhabited, Repr

/-- The outcome of reading a command line. -/
inductive Parsed where
  | run (i : Invocation)
  | help (text : String)
  | usage
  deriving Inhabited, Repr

/-- The name of the program. -/
def programName : String := "dlg-cli"

/-- The line that describes `--log-level`. -/
def logLevelLine : String :=
  "      --log-level <LOG_LEVEL>  trace, debug, info, warn or error. Logs go to stderr " ++
    "[default: warn]\n"

/-- The line that describes `--help`. -/
def helpLine : String :=
  "  -h, --help                   Print help\n"

/-- The description of a command. -/
def Mode.about : Mode → String
  | .play => "Plays a dialogue on stdin/stdout"
  | .tui => "Plays a dialogue in a full-screen terminal UI"
  | .check => "Validates a dialogue file without playing it"

/-- The name of a command. -/
def Mode.name : Mode → String
  | .play => "play"
  | .tui => "tui"
  | .check => "check"

/-- Whether a command takes `--start`. -/
def Mode.takesStart : Mode → Bool
  | .check => false
  | _ => true

/-- The description of the `help` command. -/
def helpAbout : String :=
  "Print this message or the help of the given subcommand(s)"

/-- The help of the program. -/
def topHelp : String :=
  "Branching dialogue player\n\n" ++
  "Usage: " ++ programName ++ " [OPTIONS] <COMMAND>\n\n" ++
  "Commands:\n" ++
  "  play   " ++ Mode.play.about ++ "\n" ++
  "  tui    " ++ Mode.tui.about ++ "\n" ++
  "  check  " ++ Mode.check.about ++ "\n" ++
  "  help   " ++ helpAbout ++ "\n\n" ++
  "Options:\n" ++ logLevelLine ++ helpLine

/-- The help of a command. -/
def Mode.help (m : Mode) : String :=
  m.about ++ "\n\n" ++
  "Usage: " ++ programName ++ " " ++ m.name ++ " [OPTIONS] --dialogue <DIALOGUE>\n\n" ++
  "Options:\n" ++
  "      --dialogue <DIALOGUE>    \n" ++
  logLevelLine ++
  (if m.takesStart then "      --start <START>          \n" else "") ++
  helpLine

/-- The help of the `help` command. -/
def helpHelp : String :=
  helpAbout ++ "\n\n" ++
  "Usage: " ++ programName ++ " help [COMMAND]...\n\n" ++
  "Arguments:\n" ++
  "  [COMMAND]...  Print help for the subcommand(s)\n"

/-- The command a word names. -/
def modeOf? : String → Option Mode
  | "play" => some .play
  | "tui" => some .tui
  | "check" => some .check
  | _ => none

/-- Whether a word looks like an option. -/
def looksLikeOption (w : String) : Bool :=
  w.startsWith "-" && w != "-"

/-- Whether a word asks for help: `--help`, or a cluster of short flags starting with `h`. -/
def asksHelp (w : String) : Bool :=
  w == "--help" || (w.startsWith "-h" && !w.startsWith "--")

/-- Splits `--name=value` into the name and the attached value. -/
def splitAttached (w : String) : String × Option String :=
  match w.splitOn "=" with
  | name :: v :: more => (name, some ("=".intercalate (v :: more)))
  | _ => (w, none)

/-- The help that `help` followed by some words asks for. -/
def helpFor : List String → Parsed
  | [] => .help topHelp
  | [w] =>
    match modeOf? w with
    | some m => .help m.help
    | none => if w == "help" then .help helpHelp else .usage
  | _ => .usage

/-- The options of a command read so far. -/
structure Options where
  dialogue : Option String := none
  start : Option String := none
  logLevel : Option String := none

/-- Records the value of a named option, refusing a second one. -/
def Options.set (o : Options) (name value : String) : Option Options :=
  match name with
  | "--dialogue" => if o.dialogue.isSome then none else some { o with dialogue := some value }
  | "--start" => if o.start.isSome then none else some { o with start := some value }
  | "--log-level" => if o.logLevel.isSome then none else some { o with logLevel := some value }
  | _ => none

/-- The outcome once the words of a command are read. -/
def Options.finish (o : Options) (m : Mode) (outer : Option String) : Parsed :=
  match o.dialogue with
  | some d => .run ⟨(o.logLevel.orElse fun _ => outer).getD "warn", m, d, o.start⟩
  | none => .usage

/-- Reads the words after a command. -/
def readCommand (m : Mode) (outer : Option String) : Options → List String → Parsed
  | o, [] => o.finish m outer
  | o, w :: rest =>
    if asksHelp w then .help m.help
    else if w == "--" then
      if rest.isEmpty then o.finish m outer else .usage
    else if looksLikeOption w then
      let (name, attached) := splitAttached w
      let known := name == "--dialogue" || name == "--log-level" ||
        (name == "--start" && m.takesStart)
      if !known then .usage
      else
        match attached with
        | some v =>
          match o.set name v with
          | some o => readCommand m outer o rest
          | none => .usage
        | none =>
          match _hr : rest with
          | v :: rest' =>
            if looksLikeOption v then .usage
            else
              match o.set name v with
              | some o => readCommand m outer o rest'
              | none => .usage
          | [] => .usage
    else .usage
termination_by _ ws => ws.length
decreasing_by all_goals (try subst _hr); all_goals (simp; try omega)

/-- Reads the words before a command. -/
def readTop (logLevel : Option String) : List String → Parsed
  | [] => .usage
  | w :: rest =>
    if asksHelp w then .help topHelp
    else if w == "--" then .usage
    else if looksLikeOption w then
      let (name, attached) := splitAttached w
      if name != "--log-level" || logLevel.isSome then .usage
      else
        match attached with
        | some v => readTop (some v) rest
        | none =>
          match rest with
          | v :: rest' => if looksLikeOption v then .usage else readTop (some v) rest'
          | [] => .usage
    else
      match modeOf? w with
      | some m => readCommand m logLevel {} rest
      | none => if w == "help" then helpFor rest else .usage
termination_by ws => ws.length

/-- **Reads a command line** (without the program name). -/
def parseArgs (args : List String) : Parsed :=
  readTop none args

end Colloquy.Console
