import ShellLaunch.Program.Outcome
import ShellLaunch.Settings.Location

/-!
# The command-line program

Asks the system for what a run needs to know, performs the run and writes its outcome.
-/

namespace ShellLaunch.Program

def isRegularFile (path : String) : IO Bool := do
  try
    return (← (System.mkFilePath [path]).metadata).type matches .file
  catch _ => return false

/-- What a path leads to. -/
def entryAt (path : String) : IO (Option Entry) := do
  let asked := System.mkFilePath [path]
  if ← asked.isDir then return some .directory
  unless ← asked.pathExists do return none
  try
    return some (.file (← IO.FS.readBinFile asked))
  catch fault => return some (.unreadable (toString fault))

/-- The working directory. Where it is no text, what is shown for it leads nowhere. -/
def workingDirectory : IO FilePath := do
  let path := (← IO.currentDir).toString
  match ← entryAt path with
  | some .directory => return .text path
  | _ => return .foreign path

/-- The path to ask the system for when it is to look for a path in a directory. Where the
directory is no text, the path itself cannot be asked for. -/
def askedFor (directory : FilePath) (path : String) : String :=
  Path.absolute (directory.text?.getD ".") path

/-- The surroundings of a run on the given arguments. Only the files that the run can ask
about are looked at. -/
def surroundings (args : List String) : IO Surroundings := do
  let workingDirectory ← workingDirectory
  let settingsPath :=
    Settings.location (← IO.getEnv "XDG_CONFIG_HOME") (← IO.getEnv "HOME")
  let stdinIsTerminal ← (← IO.getStdin).isTty
  let bare : Surroundings :=
    { machine := { workingDirectory, isFile := fun _ => false, stdinIsTerminal }
      settingsPath
      follow := fun _ => none }
  match Request.ofArgs args with
  | .ok (.resolve options hostArgs) =>
    let path := bare.settingsPathFor options
    let settings ← entryAt path
    let files ← hostArgs.filterM fun arg => isRegularFile (askedFor workingDirectory arg)
    return { bare with
      machine :=
        { bare.machine with isFile := (files.map workingDirectory.absolute).contains }
      follow := fun other => if other = path then settings else none }
  | _ => return bare

end ShellLaunch.Program

def main (args : List String) : IO UInt32 := do
  let outcome := (← ShellLaunch.Program.surroundings args).run args
  IO.print outcome.stdout
  IO.eprint outcome.stderr
  return outcome.exitCode.toUInt32
