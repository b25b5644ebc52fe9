import ShellLaunch.Host

/-!
# File trees

A finite tree of directories and regular files, with a working directory. A path is
followed name by name: every name but the last has to lead to a directory, `..` leads
to the directory above, and a slash or a `.` behind a file leads nowhere.
-/

namespace ShellLaunch

/-- What an existing path leads to. -/
inductive Entry where
  | directory
  | file (content : ByteArray)
  /-- A file that the system does not let the program read. -/
  | unreadable (reason : String)

/-- A finite tree of directories and regular files. Paths are lists of names from the
root; the directories above an entry exist without being listed. -/
structure FileTree where
  workingDirectory : List (List Char)
  directories : List (List (List Char))
  files : List (List (List Char) × ByteArray)

namespace FileTree

/-- The tree that holds nothing but the working directory. -/
def empty (workingDirectory : String) : FileTree :=
  ⟨Path.components workingDirectory.toList, [], []⟩

/-- The names that lead from the root to a path. -/
def names (tree : FileTree) (path : String) : List (List Char) :=
  let names := Path.components path.toList
  if Path.isRooted path.toList then names else tree.workingDirectory ++ names

def addDirectory (tree : FileTree) (path : String) : FileTree :=
  { tree with directories := tree.names path :: tree.directories }

def addFile (tree : FileTree) (path : String) (content : ByteArray) : FileTree :=
  { tree with files := (tree.names path, content) :: tree.files }

def content? (tree : FileTree) (names : List (List Char)) : Option ByteArray :=
  (tree.files.find? (·.1 = names)).map (·.2)

def isDirectory (tree : FileTree) (names : List (List Char)) : Bool :=
  names.isPrefixOf tree.workingDirectory || tree.directories.any names.isPrefixOf ||
    tree.files.any fun file => names.isPrefixOf file.1.dropLast

/-- Follows the parts of a path from the directory at some names. -/
def follow (tree : FileTree) (directory : List (List Char)) : List (List Char) → Option Entry
  | [] => some .directory
  | part :: rest =>
    if part = [] ∨ part = ['.'] then tree.follow directory rest
    else if part = ['.', '.'] then tree.follow directory.dropLast rest
    else
      let names := directory ++ [part]
      match tree.content? names with
      | some content => if rest = [] then some (.file content) else none
      | none => if tree.isDirectory names then tree.follow names rest else none

/-- The number of bytes at which a path is too long to be followed at all. -/
def pathLimit : Nat := 4096

/-- What a path leads to. -/
def follow? (tree : FileTree) (path : String) : Option Entry :=
  if path = "" ∨ pathLimit ≤ path.utf8ByteSize then none
  else
    let start := if Path.isRooted path.toList then [] else tree.workingDirectory
    tree.follow start (Text.split '/' path.toList)

/-- Whether a path leads to a regular file. The names of a tree are text, and so is what
leads to them. -/
def isFile (tree : FileTree) (path : FilePath) : Bool :=
  match path.text?.bind tree.follow? with
  | some (.file _) => true
  | _ => false

end FileTree

end ShellLaunch
