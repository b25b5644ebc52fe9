import ShellLaunch.Launch.Diagnostic
import ShellLaunch.Launch.Script
import ShellLaunch.Launch.WindowStyle

/-!
# Launch configurations

What a shell host needs to know before it starts anything: how to run, what to run and
what to show. A configuration with an error says only that the host must not start;
its other fields are then of no use to the host.
-/

namespace ShellLaunch

/-- The threading apartment of the host's main thread. -/
inductive Apartment where
  | sta
  | mta
  deriving DecidableEq

def Apartment.name : Apartment → String
  | sta => "STA"
  | mta => "MTA"

/-- How a shell host starts. -/
structure LaunchConfig where
  /-- The host must not start a session. -/
  abortStartup : Bool
  /-- The host goes on after what it runs at the start. -/
  noExit : Bool
  nonInteractive : Bool
  noPrompt : Bool
  showBanner : Bool
  showShortHelp : Bool
  showExtendedHelp : Bool
  showVersion : Bool
  skipProfiles : Bool
  /-- The apartment that was asked for. -/
  apartment : Option Apartment
  throwOnReadAndPrompt : Bool
  transport : Transport
  scriptTarget : ScriptTarget
  /-- Commands are read from standard input. -/
  explicitStdinRead : Bool
  trailingArgs : List TrailingArg
  configurationName : Option String
  customPipeName : Option String
  executionPolicy : Option String
  settingsFile : Option String
  workingDirectory : Option String
  /-- The last character of the working directory is not part of it. -/
  removeWorkingDirectoryTrailingCharacter : Bool
  windowStyle : Option WindowStyle
  inputFormat : DataFormat
  outputFormat : DataFormat
  /-- The output format was asked for. -/
  outputFormatExplicit : Bool
  exitCode : ExitCode
  error : Option Diagnostic
  deriving DecidableEq

namespace LaunchConfig

/-- The configuration of an empty command line: an interactive session with a banner. -/
def initial : LaunchConfig where
  abortStartup := false
  noExit := true
  nonInteractive := false
  noPrompt := false
  showBanner := true
  showShortHelp := false
  showExtendedHelp := false
  showVersion := false
  skipProfiles := false
  apartment := none
  throwOnReadAndPrompt := false
  transport := .console
  scriptTarget := .none
  explicitStdinRead := false
  trailingArgs := []
  configurationName := none
  customPipeName := none
  executionPolicy := none
  settingsFile := none
  workingDirectory := none
  removeWorkingDirectoryTrailingCharacter := false
  windowStyle := none
  inputFormat := .text
  outputFormat := .text
  outputFormatExplicit := false
  exitCode := .success
  error := none

/-- The main thread runs in the single-threaded apartment unless the other was asked for. -/
def staMode (config : LaunchConfig) : Bool :=
  config.apartment != some .mta

def file? (config : LaunchConfig) : Option FilePath :=
  match config.scriptTarget with
  | .file path => some path
  | _ => none

def initialCommand? (config : LaunchConfig) : Option String :=
  match config.scriptTarget with
  | .command text _ => some text
  | _ => none

def wasInitialCommandEncoded (config : LaunchConfig) : Bool :=
  match config.scriptTarget with
  | .command _ encoded => encoded
  | _ => false

def errorMessage? (config : LaunchConfig) : Option String :=
  config.error.map Diagnostic.message

end LaunchConfig

end ShellLaunch
