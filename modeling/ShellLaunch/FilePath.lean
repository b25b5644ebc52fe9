import ShellLaunch.Path

/-!
# File paths

The system takes almost any bytes for a path. What a command line names is text, but the
working directory need not be, and then neither is a path that begins there. Such a path
is given by what is shown for it. This tells it from every other path of the same run,
since all of them that are no text begin at the one working directory.
-/

namespace ShellLaunch

/-- The path of a file or directory. -/
inductive FilePath where
  | text (path : String)
  /-- A path that is no text. -/
  | foreign (shown : String)
  deriving DecidableEq

instance : Coe String FilePath where
  coe := .text

namespace FilePath

/-- A path as it is shown to the user. -/
def shown : FilePath → String
  | text path => path
  | foreign path => path

def text? : FilePath → Option String
  | text path => some path
  | foreign _ => none

/-- The absolute form of a path that is relative to `directory`. A path that does not
begin there is text in any case. -/
def absolute (directory : FilePath) (path : String) : FilePath :=
  match directory with
  | text directory => text (Path.absolute directory path)
  | foreign directory =>
    if path = "" ∨ Path.isRooted path.toList then text (Path.absolute directory path)
    else foreign (Path.absolute directory path)

end FilePath

end ShellLaunch
