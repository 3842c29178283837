import Colloquy.Files.System
/-!
# The demo dialogues

Four small dialogues come with the player, each in a directory of its own with a case that
plays it through:

* `jump-chain` follows a chain of jumps before the first line;
* `missing-target` offers a choice that leads nowhere;
* `restart-midway` starts another conversation halfway;
* `tavern` is a short scene with choices and variables.

The files are kept here as text, by demo name. Under a workspace directory they stand at
`demos/dialogues/<name>/dialogue.json` and `.../testcase.json`.
-/

namespace Colloquy.Demos

/-- A demo: its name, its dialogue file and its case file. -/
structure Demo where
  name : String
  dialogue : String
  case : String

/-- The `jump-chain` demo. -/
def jumpChain : Demo where
  name := "jump-chain"
  dialogue :=
    "\x7b\n" ++
    "  \"variables\": \x7b \"step\": 0 \x7d,\n" ++
    "  \"conversations\": \x7b\n" ++
    "    \"main\": [\n" ++
    "      \x7b \"goto\": \"hop-a\" \x7d\n" ++
    "    ],\n" ++
    "    \"hop-a\": [\n" ++
    "      \x7b \"set\": \x7b \"step\": 1 \x7d, \"goto\": \"hop-b\" \x7d\n" ++
    "    ],\n" ++
    "    \"hop-b\": [\n" ++
    "      \x7b \"set\": \x7b \"step\": 2, \"visited\": \"b\" \x7d, \"goto\": \"landing\" \x7d\n" ++
    "    ],\n" ++
    "    \"landing\": [\n" ++
    "      \x7b \"speaker\": \"Guide\", \"text\": \"You took the long way round.\" \x7d,\n" ++
    "      \x7b \"text\": \"The path ends here.\" \x7d\n" ++
    "    ]\n" ++
    "  \x7d\n" ++
    "\x7d\n"
  case :=
    "\x7b\n" ++
    "  \"schemaVersion\": \"dlg-tool-case.v1\",\n" ++
    "  \"actions\": [\n" ++
    "    \x7b \"kind\": \"advance\" \x7d,\n" ++
    "    \x7b \"kind\": \"advance\" \x7d\n" ++
    "  ],\n" ++
    "  \"expectedEvents\": [\n" ++
    "    \x7b \"kind\": \"line\", \"speaker\": \"Guide\", \"text\": \"You took the long way round.\" \x7d,\n" ++
    "    \x7b \"kind\": \"line\", \"speaker\": \"\", \"text\": \"The path ends here.\" \x7d,\n" ++
    "    \x7b \"kind\": \"end\" \x7d\n" ++
    "  ],\n" ++
    "  \"expectedVariables\": \x7b\n" ++
    "    \"step\": 2,\n" ++
    "    \"visited\": \"b\"\n" ++
    "  \x7d\n" ++
    "\x7d\n"

/-- The `missing-target` demo. -/
def missingTarget : Demo where
  name := "missing-target"
  dialogue :=
    "\x7b\n" ++
    "  \"conversations\": \x7b\n" ++
    "    \"main\": [\n" ++
    "      \x7b\n" ++
    "        \"speaker\": \"Guard\",\n" ++
    "        \"text\": \"Halt. State your business.\",\n" ++
    "        \"choices\": [\n" ++
    "          \x7b \"text\": \"I am lost.\", \"goto\": \"nowhere\" \x7d,\n" ++
    "          \x7b \"text\": \"Trade.\", \"goto\": \"trade\" \x7d\n" ++
    "        ]\n" ++
    "      \x7d,\n" ++
    "      \x7b \"speaker\": \"Guard\", \"text\": \"Move along then.\" \x7d\n" ++
    "    ],\n" ++
    "    \"trade\": [\n" ++
    "      \x7b \"speaker\": \"Guard\", \"text\": \"Market is to the east.\" \x7d\n" ++
    "    ]\n" ++
    "  \x7d\n" ++
    "\x7d\n"
  case :=
    "\x7b\n" ++
    "  \"schemaVersion\": \"dlg-tool-case.v1\",\n" ++
    "  \"actions\": [\n" ++
    "    \x7b \"kind\": \"choose\", \"index\": 0 \x7d,\n" ++
    "    \x7b \"kind\": \"choose\", \"index\": 1 \x7d,\n" ++
    "    \x7b \"kind\": \"advance\" \x7d,\n" ++
    "    \x7b \"kind\": \"advance\" \x7d\n" ++
    "  ],\n" ++
    "  \"expectedEvents\": [\n" ++
    "    \x7b \"kind\": \"line\", \"speaker\": \"Guard\", \"text\": \"Halt. State your business.\" \x7d,\n" ++
    "    \x7b \"kind\": \"choices\", \"choices\": [\"I am lost.\", \"Trade.\"] \x7d,\n" ++
    "    \x7b \"kind\": \"line\", \"speaker\": \"Guard\", \"text\": \"Move along then.\" \x7d,\n" ++
    "    \x7b \"kind\": \"end\" \x7d\n" ++
    "  ],\n" ++
    "  \"expectedDiagnostics\": [\"ENGINE_CHOICE_TARGET_NOT_FOUND\"]\n" ++
    "\x7d\n"

/-- The `restart-midway` demo. -/
def restartMidway : Demo where
  name := "restart-midway"
  dialogue :=
    "\x7b\n" ++
    "  \"variables\": \x7b \"mood\": \"calm\" \x7d,\n" ++
    "  \"conversations\": \x7b\n" ++
    "    \"main\": [\n" ++
    "      \x7b \"speaker\": \"Sage\", \"text\": \"Sit and listen.\" \x7d,\n" ++
    "      \x7b \"speaker\": \"Sage\", \"text\": \"This part is never heard.\" \x7d\n" ++
    "    ],\n" ++
    "    \"alarm\": [\n" ++
    "      \x7b \"speaker\": \"Herald\", \"text\": \"The gates are burning!\", \"set\": \x7b \"mood\": \"panic\" \x7d \x7d\n" ++
    "    ]\n" ++
    "  \x7d\n" ++
    "\x7d\n"
  case :=
    "\x7b\n" ++
    "  \"schemaVersion\": \"dlg-tool-case.v1\",\n" ++
    "  \"start\": \"main\",\n" ++
    "  \"actions\": [\n" ++
    "    \x7b \"kind\": \"start\", \"id\": \"Alarm\" \x7d,\n" ++
    "    \x7b \"kind\": \"advance\" \x7d,\n" ++
    "    \x7b \"kind\": \"advance\" \x7d\n" ++
    "  ],\n" ++
    "  \"expectedEvents\": [\n" ++
    "    \x7b \"kind\": \"line\", \"speaker\": \"Sage\", \"text\": \"Sit and listen.\" \x7d,\n" ++
    "    \x7b \"kind\": \"line\", \"speaker\": \"Herald\", \"text\": \"The gates are burning!\" \x7d,\n" ++
    "    \x7b \"kind\": \"end\" \x7d\n" ++
    "  ],\n" ++
    "  \"expectedVariables\": \x7b\n" ++
    "    \"mood\": \"panic\"\n" ++
    "  \x7d\n" ++
    "\x7d\n"

/-- The `tavern` demo. -/
def tavern : Demo where
  name := "tavern"
  dialogue :=
    "\x7b\n" ++
    "  \"variables\": \x7b\n" ++
    "    \"gold\": 5,\n" ++
    "    \"metInnkeeper\": false,\n" ++
    "    \"drink\": \"none\"\n" ++
    "  \x7d,\n" ++
    "  \"conversations\": \x7b\n" ++
    "    \"main\": [\n" ++
    "      \x7b \"speaker\": \"Innkeeper\", \"text\": \"Welcome to the Crooked Lantern.\", \"set\": \x7b \"metInnkeeper\": true \x7d \x7d,\n" ++
    "      \x7b\n" ++
    "        \"speaker\": \"Innkeeper\",\n" ++
    "        \"text\": \"What can I get you?\",\n" ++
    "        \"choices\": [\n" ++
    "          \x7b \"text\": \"Ale, please.\", \"goto\": \"Ale\" \x7d,\n" ++
    "          \x7b \"text\": \"Just water.\", \"goto\": \"water\" \x7d\n" ++
    "        ]\n" ++
    "      \x7d\n" ++
    "    ],\n" ++
    "    \"Ale\": [\n" ++
    "      \x7b \"speaker\": \"Innkeeper\", \"text\": \"One ale, coming up.\", \"set\": \x7b \"gold\": 3, \"drink\": \"ale\" \x7d \x7d,\n" ++
    "      \x7b \"goto\": \"farewell\" \x7d\n" ++
    "    ],\n" ++
    "    \"water\": [\n" ++
    "      \x7b \"speaker\": \"Innkeeper\", \"text\": \"Water is free.\", \"set\": \x7b \"drink\": \"water\" \x7d \x7d,\n" ++
    "      \x7b \"goto\": \" FAREWELL \" \x7d\n" ++
    "    ],\n" ++
    "    \"farewell\": [\n" ++
    "      \x7b \"speaker\": \"Innkeeper\", \"text\": \"Enjoy your stay.\" \x7d\n" ++
    "    ]\n" ++
    "  \x7d\n" ++
    "\x7d\n"
  case :=
    "\x7b\n" ++
    "  \"schemaVersion\": \"dlg-tool-case.v1\",\n" ++
    "  \"actions\": [\n" ++
    "    \x7b \"kind\": \"advance\" \x7d,\n" ++
    "    \x7b \"kind\": \"advance\" \x7d,\n" ++
    "    \x7b \"kind\": \"choose\", \"index\": 0 \x7d,\n" ++
    "    \x7b \"kind\": \"advance\" \x7d,\n" ++
    "    \x7b \"kind\": \"advance\" \x7d\n" ++
    "  ],\n" ++
    "  \"expectedEvents\": [\n" ++
    "    \x7b \"kind\": \"line\", \"speaker\": \"Innkeeper\", \"text\": \"Welcome to the Crooked Lantern.\" \x7d,\n" ++
    "    \x7b \"kind\": \"line\", \"speaker\": \"Innkeeper\", \"text\": \"What can I get you?\" \x7d,\n" ++
    "    \x7b \"kind\": \"choices\", \"choices\": [\"Ale, please.\", \"Just water.\"] \x7d,\n" ++
    "    \x7b \"kind\": \"line\", \"speaker\": \"Innkeeper\", \"text\": \"One ale, coming up.\" \x7d,\n" ++
    "    \x7b \"kind\": \"line\", \"speaker\": \"Innkeeper\", \"text\": \"Enjoy your stay.\" \x7d,\n" ++
    "    \x7b \"kind\": \"end\" \x7d\n" ++
    "  ],\n" ++
    "  \"expectedVariables\": \x7b\n" ++
    "    \"gold\": 3,\n" ++
    "    \"metInnkeeper\": true,\n" ++
    "    \"drink\": \"ale\"\n" ++
    "  \x7d\n" ++
    "\x7d\n"

/-- All demos, by name. -/
def all : List Demo :=
  [jumpChain, missingTarget, restartMidway, tavern]

open Files

/-- The directory of the demos under a workspace. -/
def root (workspace : String) : String :=
  join (join workspace "demos") "dialogues"

/-- The directory of a demo. -/
def dir (workspace name : String) : String :=
  join (root workspace) name

/-- The dialogue file of a demo. -/
def dialoguePath (workspace name : String) : String :=
  join (dir workspace name) "dialogue.json"

/-- The case file of a demo. -/
def casePath (workspace name : String) : String :=
  join (dir workspace name) "testcase.json"

/-- **The files of the demos** under a workspace. -/
def files (workspace : String) : FileSystem :=
  all.foldl (fun fs d =>
    (fs.addFile (dialoguePath workspace d.name) d.dialogue.toUTF8).addFile
      (casePath workspace d.name) d.case.toUTF8) {}

/-- The names of the directories just below the demos' directory, sorted. -/
def names (fs : FileSystem) (workspace : String) : List String :=
  let below := (fs.below (components (root workspace))).filterMap fun (cs, e) =>
    match cs, e with
    | [name], .directory => some name
    | _, _ => none
  below.mergeSort fun a b => decide (a ≤ b)

end Colloquy.Demos
