/-!
# Platforms

What the platform of a shell host can do. A platform is a plain value and not the
machine the program runs on, so every platform can be resolved for on every machine. Only
`Platform.current` depends on the build, and it is that of the build for Unix systems;
paths, too, are those of such a system.
-/

namespace ShellLaunch

/-- The capabilities of a platform that command lines depend on. -/
structure Platform where
  /-- Switches may begin with `/`, and the Windows-only switches exist. -/
  isWindows : Bool
  /-- Threads have apartments, as the switches for them require. -/
  desktopApartments : Bool
  /-- The most characters a pipe name may have, or `none` without a ceiling. -/
  maxPipeNameLength : Option Nat
  deriving DecidableEq

namespace Platform

/-- The ceiling where pipes are sockets of the file system: 108 bytes of an address,
less the directory and prefix of the pipe and the final zero byte. -/
def socketPipeNameLength : Nat := 91

def unix : Platform := ⟨false, false, some socketPipeNameLength⟩

/-- Windows with the desktop threading model. -/
def windowsDesktop : Platform := ⟨true, true, none⟩

/-- Windows without the desktop threading model. -/
def windowsCore : Platform := ⟨true, false, none⟩

/-- The platform of the build for Unix systems. A build for Windows would have
`windowsDesktop` here. -/
def current : Platform := unix

end Platform

/-- Whether standard input is redirected, or that the machine has to be asked. -/
inductive StdinState where
  | detect
  | redirected
  | terminal
  deriving DecidableEq

end ShellLaunch
