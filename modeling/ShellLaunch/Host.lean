import ShellLaunch.FilePath
import ShellLaunch.Platform

/-!
# Hosts

Everything a command line is resolved against: the platform, what is known about
standard input, and the machine, which is asked only whether a path is a regular file
and, where nobody said so, whether standard input is a terminal.
-/

namespace ShellLaunch

/-- The machine as a resolution sees it. -/
structure Machine where
  /-- The directory that relative paths begin at. It is absolute, and only the root has a
  slash at its end. -/
  workingDirectory : FilePath
  /-- Whether an absolute path names an existing regular file. -/
  isFile : FilePath → Bool
  /-- Whether standard input is a terminal. -/
  stdinIsTerminal : Bool

/-- The surroundings of one resolution. -/
structure Host where
  platform : Platform
  stdin : StdinState
  machine : Machine

namespace Host

/-- Whether commands can be read from standard input. -/
def isRedirected (host : Host) : Bool :=
  match host.stdin with
  | .detect => !host.machine.stdinIsTerminal
  | .redirected => true
  | .terminal => false

def absolute (host : Host) (path : String) : FilePath :=
  host.machine.workingDirectory.absolute path

def isFile (host : Host) (path : FilePath) : Bool :=
  host.machine.isFile path

end Host

end ShellLaunch
