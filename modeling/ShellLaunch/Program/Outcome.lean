import ShellLaunch.FileTree
import ShellLaunch.Program.Report
import ShellLaunch.Resolve
import ShellLaunch.Settings.Load

/-!
# Outcomes

What one run of the program writes and how it exits, as a function of its arguments and
its surroundings. Arguments that cannot be read exit with 2, settings that cannot be used
and configurations that cannot be written with 1, and everything else as the resolved
configuration says.
-/

namespace ShellLaunch.Program

/-- What a run of the program writes, and its exit code. -/
structure Outcome where
  exitCode : Nat
  stdout : String
  stderr : String
  deriving DecidableEq

/-- What the program can find out. -/
structure Surroundings where
  machine : Machine
  /-- The path of the settings, unless an option names another. -/
  settingsPath : String
  /-- What a path leads to. -/
  follow : String → Option Entry

def version : String := "hostline 0.1.0"

def usage : String :=
  unlines [
    "Resolve a shell host command line into a launch configuration",
    "",
    "Usage: hostline [OPTIONS] [-- <HOST_ARGS>...]",
    "",
    "Options:",
    "      --stdin <STDIN>        detect, redirected or terminal",
    "      --platform <PLATFORM>  detect, windows-desktop, windows-core or unix",
    "      --config <CONFIG>      The settings file",
    "      --format <FORMAT>      json or summary",
    "      --list-switches        Print the switches of the platform and exit",
    "  -h, --help                 Print help",
    "  -V, --version              Print version"]

namespace Outcome

/-- A run that only writes `text`. -/
def info (text : String) : Outcome := ⟨0, text, ""⟩

/-- A run that ends because its arguments cannot be read. -/
def badUsage (fault : UsageFault) : Outcome :=
  ⟨2, "", unlines [s!"error: {fault.message}", "", "For more information, try '--help'."]⟩

/-- The lines for the causes of a failure. Several causes are numbered. -/
def causeLines : List String → List String
  | [cause] => [s!"    {cause}"]
  | causes => causes.mapIdx fun n cause => s!"    {n}: {cause}"

/-- A run that ends because something cannot be done. -/
def failed (context : String) (causes : List String) : Outcome :=
  ⟨1, "", unlines ([s!"Error: {context}", "", "Caused by:"] ++ causeLines causes)⟩

/-- A run whose configuration has no JSON form. -/
def unwritable : Outcome :=
  failed "failed to serialize launch configuration" ["path contains invalid UTF-8 characters"]

/-- A run that reports a resolved command line. -/
def resolved (format : ReportFormat) (config : LaunchConfig) : Outcome :=
  match report? format config with
  | some text => ⟨config.exitCode.code, unlines [text], unlines (notices config)⟩
  | none => unwritable

end Outcome

/-- The platform that is chosen. A preset is taken as it is; only the detected platform
has the user's overrides. -/
def PlatformChoice.platform (settings : Settings) :
    PlatformChoice → Except SettingsFault Platform
  | detect => settings.platformFor .current
  | windowsDesktop => .ok .windowsDesktop
  | windowsCore => .ok .windowsCore
  | unix => .ok .unix

def Surroundings.settingsPathFor (surroundings : Surroundings) (options : Options) : String :=
  options.settingsPath?.getD surroundings.settingsPath

/-- Lists the switches or resolves a command line of the host. -/
def Surroundings.resolve (surroundings : Surroundings) (options : Options)
    (hostArgs : List String) : Outcome :=
  let path := surroundings.settingsPathFor options
  match Settings.load path (surroundings.follow path) with
  | .error fault => .failed "failed to load hostline configuration" fault.causes
  | .ok settings =>
    match options.platform.platform settings with
    | .error fault => .failed "invalid platform overrides" fault.causes
    | .ok platform =>
      if options.listSwitches then .info (switchList platform)
      else
        let host : Host := ⟨platform, options.stdin, surroundings.machine⟩
        .resolved options.format (host.resolve hostArgs)

def Surroundings.perform (surroundings : Surroundings) : Request → Outcome
  | .help => .info usage
  | .version => .info (unlines [version])
  | .resolve options hostArgs => surroundings.resolve options hostArgs

/-- The whole run of the program on its arguments. -/
def Surroundings.run (surroundings : Surroundings) (args : List String) : Outcome :=
  match Request.ofArgs args with
  | .error fault => .badUsage fault
  | .ok request => surroundings.perform request

end ShellLaunch.Program
