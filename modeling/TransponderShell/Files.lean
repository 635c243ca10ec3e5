import TransponderShell.Text.Basic

/-!
# Files

What the program sees of the file system: a path leads to a file, to a directory or nowhere.
Functions that look at paths do so in a monad, so that they serve for the file system and for a
`Directory`, which is a directory with its content in memory.
-/

namespace TransponderShell

/-- What a path leads to. -/
inductive FileNode where
  | file (bytes : List UInt8)
  | directory
  deriving DecidableEq, Repr

namespace FileNode

/-- Whether a path leads to a file. -/
def isFile : Option FileNode → Bool
  | some (file _) => true
  | _ => false

/-- Whether a path leads to a directory. -/
def isDirectory : Option FileNode → Bool
  | some directory => true
  | _ => false

/-- The text of a file, if there is a file and it is text. -/
def text? : Option FileNode → Option Text
  | some (file bytes) => Text.ofUtf8? bytes
  | _ => none

end FileNode

/-- A working directory with all that is below it. A path inside it is the list of its names. -/
structure Directory where
  files : List (List Text × List UInt8) := []
  directories : List (List Text) := []
  deriving DecidableEq, Repr

namespace Directory

/-- Where a path has led so far. -/
inductive Place where
  /-- At these names below the working directory. -/
  | inside (names : List Text)
  /-- In a directory that is not below the working directory. -/
  | outside
  deriving DecidableEq, Repr

/-- Whether there is a directory of these names. A directory is there if something is in it. -/
def isDirectory (d : Directory) (names : List Text) : Bool :=
  names.isEmpty || d.directories.any (names.isPrefixOf ·) ||
    d.files.any fun (file, _) => names.isPrefixOf file && names.length < file.length

/-- Go on from a place by one name of a path. -/
def enter (d : Directory) (name : Text) : Place → Option Place
  | .outside => if name.isEmpty ∨ name = "." ∨ name = ".." then some .outside else none
  | .inside names =>
    if !d.isDirectory names then none
    else if name.isEmpty ∨ name = "." then some (.inside names)
    else if name = ".." then
      if names.isEmpty then some .outside else some (.inside names.dropLast)
    else some (.inside (names ++ [name]))

/-- Where the names of a path lead. -/
def follow (d : Directory) : List Text → Place → Option Place
  | [], place => some place
  | name :: rest, place => (d.enter name place).bind (d.follow rest)

/-- What a path leads to. -/
def look (d : Directory) (path : Text) : Option FileNode :=
  let place := match path with
    | [] => none
    | '/' :: rest => d.follow (pieces '/' rest) .outside
    | _ => d.follow (pieces '/' path) (.inside [])
  match place with
  | none => none
  | some .outside => some .directory
  | some (.inside names) =>
    match d.files.lookup names with
    | some bytes => some (.file bytes)
    | none => if d.isDirectory names then some .directory else none

end Directory

end TransponderShell
