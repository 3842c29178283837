/-!
# Paths

A path is text whose parts are separated by `/`. A path that starts with `/` is absolute.

* Joining a path to a base puts one separator between them, unless the base is empty or
  already ends with one; an absolute path replaces the base.
* The *components* of a path are its parts without empty parts and `.` parts.
* The *file name* is the last component, unless that is `..`.
* The *stem* of a file name is the name without its last extension. A name whose only dot
  leads it has no extension.
-/

namespace Colloquy.Files

/-- Whether a path is absolute. -/
def isAbsolute (path : String) : Bool :=
  path.startsWith "/"

/-- **Joins** a path to a base. -/
def join (base path : String) : String :=
  if isAbsolute path then path
  else if base.isEmpty || base.endsWith "/" then base ++ path
  else base ++ "/" ++ path

/-- The parts of a path, as separated by `/`. -/
def parts (path : String) : List String :=
  path.splitOn "/"

/-- The components of a path: its non-empty parts other than `.`. -/
def components (path : String) : List String :=
  (parts path).filter fun c => c ≠ "" ∧ c ≠ "."

/-- The file name of a path. -/
def fileName? (path : String) : Option String :=
  match (components path).getLast? with
  | some ".." => none
  | c => c

/-- The file name of the parent of a path. -/
def parentName? (path : String) : Option String :=
  match (components path).dropLast.getLast? with
  | some ".." => none
  | c => c

/-- The stem of a file name. -/
def stemOf (name : String) : String :=
  if name == ".." then name
  else
    match (name.splitOn ".").dropLast with
    | [] => name
    | [""] => name
    | before => ".".intercalate before

/-- The stem of the file name of a path. -/
def fileStem? (path : String) : Option String :=
  (fileName? path).map stemOf

end Colloquy.Files
