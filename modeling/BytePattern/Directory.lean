import BytePattern.Text.Encoding

/-!
# Directories of files

The files that a run can read, each under a path. Dots and empty parts of a path lead nowhere else,
so a path may be spelled in several ways.
-/

namespace BytePattern

inductive Entry where
  | file (content : Bytes)
  | directory

structure Directory where
  entries : List (String × Entry)

inductive FileFault where
  | missing
  /-- A directory was read like a file. -/
  | readDirectory
  /-- A directory was mapped into memory. -/
  | mapDirectory
  | notText
deriving DecidableEq, Repr

def FileFault.message : FileFault → String
  | .missing => "No such file or directory (os error 2)"
  | .readDirectory => "Is a directory (os error 21)"
  | .mapDirectory => "No such device (os error 19)"
  | .notText => "stream did not contain valid UTF-8"

namespace Directory

/-- The parts of a path that lead anywhere. -/
def steps (path : String) : List String :=
  (path.splitOn "/").filter fun step => step ≠ "" ∧ step ≠ "."

def isAbsolute (path : String) : Bool :=
  path.startsWith "/"

/-- Whether a path can only lead to a directory. -/
def asksForDirectory (path : String) : Bool :=
  (steps path).isEmpty || path.endsWith "/" || path.endsWith "/."

/-- Whether two paths are spellings of one. -/
def samePath (first second : String) : Bool :=
  isAbsolute first == isAbsolute second && steps first == steps second

/-- What a path leads to; a path without any parts leads to the directory that it starts from. -/
def entry? (directory : Directory) (path : String) : Option Entry :=
  if path.isEmpty then none
  else
    match directory.entries.find? fun (name, _) => samePath name path with
    | some (_, .file content) => if asksForDirectory path then none else some (.file content)
    | some (_, .directory) => some .directory
    | none => if (steps path).isEmpty then some .directory else none

def contains (directory : Directory) (path : String) : Bool :=
  (directory.entry? path).isSome

/-- The bytes of a file that is mapped into memory. -/
def map (directory : Directory) (path : String) : Except FileFault Bytes :=
  match directory.entry? path with
  | some (.file content) => .ok content
  | some .directory => .error .mapDirectory
  | none => .error .missing

def readText (directory : Directory) (path : String) : Except FileFault String :=
  match directory.entry? path with
  | some (.file content) =>
    match Text.decode? content with
    | some text => .ok text
    | none => .error .notText
  | some .directory => .error .readDirectory
  | none => .error .missing

/-- The characters behind the last dot of the last part of a path; there are none if that part has
no dot or no character in front of it. -/
def extension? (path : String) : Option (List Char) := do
  let name := (← (steps path).getLast?).toList
  let backwards := name.reverse
  let ending := backwards.takeWhile (· != '.')
  if name = ['.', '.'] then none
  else if ending.length + 1 < backwards.length then return ending.reverse
  else none

end Directory

end BytePattern
