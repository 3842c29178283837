import Colloquy.Files.Path
/-!
# A view of files

A `FileSystem` is what a program sees of files: directories and files with their bytes, each
at a list of components. The root, with no components, is always a directory. Adding a file
or directory follows its path as the system does when it makes directories: `..` goes up from
where the path has got to, and each missing directory on the way is made.

A path is looked up part by part from the root. An empty part or `.` stays where it is, `..`
goes up, and a name goes down; every step must start from a directory. A path that ends with
`/` must reach a directory. When a step fails, the reason is the one the system gives:

* `No such file or directory (os error 2)` when a name is not there;
* `Not a directory (os error 20)` when a step starts from a file.

Reading a directory fails with `Is a directory (os error 21)`. Reading text also needs the
bytes to be UTF-8: `stream did not contain valid UTF-8`.
-/

namespace Colloquy.Files

/-- What stands at a place of the file system. -/
inductive Entry where
  | directory
  | file (bytes : ByteArray)
  deriving Inhabited

/-- Whether an entry is a directory. -/
def Entry.isDirectory : Entry → Bool
  | .directory => true
  | .file _ => false

/-- The reason given for a missing entry. -/
def notFound : String := "No such file or directory (os error 2)"

/-- The reason given for a step from a file. -/
def notDirectory : String := "Not a directory (os error 20)"

/-- The reason given for reading a directory. -/
def isDirectory : String := "Is a directory (os error 21)"

/-- The reason given for text that is not UTF-8. -/
def notUtf8 : String := "stream did not contain valid UTF-8"

/-- Files and directories by their components, with a working directory unless it is gone. -/
structure FileSystem where
  entries : List (List String × Entry) := []
  workDir : Option String := none
  deriving Inhabited

namespace FileSystem

/-- The entry at some components; the root is a directory. -/
def entryAt? (fs : FileSystem) : List String → Option Entry
  | [] => some .directory
  | cs => fs.entries.lookup cs

/-- Puts an entry at some components, replacing what was there. -/
def put (fs : FileSystem) (cs : List String) (e : Entry) : FileSystem :=
  { fs with entries := (cs, e) :: fs.entries.filter (·.1 != cs) }

/-- Follows the parts of a path from `at_` the way directories are made: a name goes down,
making a directory where nothing stands, `..` goes up and an empty part or `.` stays. Gives
the file system and where the path leads. -/
def makeParts (fs : FileSystem) : List String → List String → FileSystem × List String
  | at_, [] => (fs, at_)
  | at_, part :: rest =>
    if part == "" || part == "." then fs.makeParts at_ rest
    else if part == ".." then fs.makeParts at_.dropLast rest
    else
      let next := at_ ++ [part]
      match fs.entryAt? next with
      | some _ => fs.makeParts next rest
      | none => (fs.put next .directory).makeParts next rest

/-- Adds a directory, with the directories on the way to it. -/
def addDirectory (fs : FileSystem) (path : String) : FileSystem :=
  (fs.makeParts [] (parts path)).1

/-- Adds a file, with the directories on the way to it. A path that ends in no name adds
nothing. -/
def addFile (fs : FileSystem) (path : String) (bytes : ByteArray) : FileSystem :=
  let ps := parts path
  match ps.getLast? with
  | some name =>
    if name == "" || name == "." || name == ".." then fs
    else
      let (fs, at_) := fs.makeParts [] ps.dropLast
      fs.put (at_ ++ [name]) (.file bytes)
  | none => fs

/-- Looks a path up part by part, giving where it leads or why it fails. -/
def resolveParts (fs : FileSystem) : List String → List String → Except String (List String)
  | at_, [] => .ok at_
  | at_, part :: rest =>
    match fs.entryAt? at_ with
    | some .directory =>
      if part == "" || part == "." then fs.resolveParts at_ rest
      else if part == ".." then fs.resolveParts at_.dropLast rest
      else
        let next := at_ ++ [part]
        match fs.entryAt? next with
        | some _ => fs.resolveParts next rest
        | none => .error notFound
    | some (.file _) => .error notDirectory
    | none => .error notFound

/-- **Looks a path up**, giving its entry or why it fails. -/
def lookup (fs : FileSystem) (path : String) : Except String Entry := do
  let cs ← fs.resolveParts [] (parts path)
  match fs.entryAt? cs with
  | some e => pure e
  | none => throw notFound

/-- Whether a path leads somewhere. -/
def pathExists (fs : FileSystem) (path : String) : Bool :=
  (fs.lookup path).toOption.isSome

/-- Whether a path leads to a directory. -/
def isDir (fs : FileSystem) (path : String) : Bool :=
  match fs.lookup path with
  | .ok .directory => true
  | _ => false

/-- Whether a path leads to a file. -/
def isFile (fs : FileSystem) (path : String) : Bool :=
  match fs.lookup path with
  | .ok (.file _) => true
  | _ => false

/-- The bytes of a file. -/
def readBytes (fs : FileSystem) (path : String) : Except String ByteArray := do
  match ← fs.lookup path with
  | .file bytes => pure bytes
  | .directory => throw isDirectory

/-- **The text of a file**, which must be UTF-8. -/
def readText (fs : FileSystem) (path : String) : Except String String := do
  let bytes ← fs.readBytes path
  match String.fromUTF8? bytes with
  | some s => pure s
  | none => throw notUtf8

/-- The working directory, or why it cannot be had. -/
def currentDir (fs : FileSystem) : Except String String :=
  match fs.workDir with
  | some d => .ok d
  | none => .error notFound

/-- The entries strictly below some components, each with its components below them. -/
def below (fs : FileSystem) (cs : List String) : List (List String × Entry) :=
  fs.entries.filterMap fun (p, e) =>
    if cs.isPrefixOf p && p.length > cs.length then some (p.drop cs.length, e) else none

end FileSystem

/-- Whether one list of components comes before another or equals it: component by component,
a prefix first. -/
def componentsLE : List String → List String → Bool
  | [], _ => true
  | _ :: _, [] => false
  | a :: as, b :: bs => if a < b then true else if a == b then componentsLE as bs else false

end Colloquy.Files
