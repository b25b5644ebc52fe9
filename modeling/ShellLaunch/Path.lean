import ShellLaunch.Text.Cut

/-!
# Absolute paths

A path is made absolute without looking at the file system. Repeated slashes and `.`
components go away; `..` stays, since what it leads to depends on links. A slash at the
end is kept, because it asks for a directory, and so are exactly two slashes at the
start, whose meaning is left to the system.
-/

namespace ShellLaunch.Path

/-- The components of a path that lead somewhere: all but the empty ones and `.`. -/
def components (s : List Char) : List (List Char) :=
  (Text.split '/' s).filter fun part => part ≠ [] ∧ part ≠ ['.']

def isRooted (s : List Char) : Bool :=
  s.head? == some '/'

/-- Whether a path begins with two slashes and no third. -/
def hasDoubleRoot : List Char → Bool
  | '/' :: '/' :: rest => !isRooted rest
  | _ => false

def endsWithSlash (s : List Char) : Bool :=
  s.getLast? == some '/'

/-- A path with one more component, behind a slash. The empty component puts a slash at
the end of the path. -/
def push (path part : List Char) : List Char :=
  if path = [] ∨ endsWithSlash path then path ++ part else path ++ '/' :: part

/-- What the components of a path are behind: its root, or `directory`. -/
def start (directory s : List Char) : List Char :=
  if isRooted s then (if hasDoubleRoot s then ['/', '/'] else ['/']) else directory

/-- The absolute form of a path that is relative to `directory`, an absolute path. The
empty path names nothing and stays empty. -/
def absoluteChars (directory s : List Char) : List Char :=
  if s = [] then []
  else
    let whole := (components s).foldl push (start directory s)
    if endsWithSlash s then push whole [] else whole

def absolute (directory path : String) : String :=
  String.ofList (absoluteChars directory.toList path.toList)

end ShellLaunch.Path
