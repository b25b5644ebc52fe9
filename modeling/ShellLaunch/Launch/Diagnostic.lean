import ShellLaunch.FilePath
import ShellLaunch.Launch.DataFormat
import ShellLaunch.Launch.Transport

/-!
# Diagnostics

The closed list of reasons why a command line cannot be resolved. A diagnostic is about
what the user wrote; it is part of the resolved configuration and ends the host's start.
Each has a classification that does not change with the wording, a message, and a mark
whether the short usage text is shown with it.
-/

namespace ShellLaunch

/-- How the host exits once its start is decided. -/
inductive ExitCode where
  | success
  | badCommandLineParameter
  deriving DecidableEq

def ExitCode.code : ExitCode → Nat
  | success => 0
  | badCommandLineParameter => 64

/-- Why a command line cannot be resolved. -/
inductive Diagnostic where
  | argumentFileDoesNotExist (token : String) (resolved : FilePath)
  | unrecognizedSwitch (token : String) (suggestions : List String)
  | conflictingScriptTarget (token : String)
  | conflictingTransport (current requested : Transport)
  | missingConfigurationNameArgument
  | missingCustomPipeNameArgument
  | customPipeNameTooLong (maxLength : Nat) (name : String) (length : Nat)
  | windowStyleArgumentNotImplemented
  | missingWindowStyleArgument
  | invalidWindowStyleArgument (value reason : String)
  | missingOutputFormatParameter
  | missingInputFormatParameter
  | badFormatParameterValue (value : String)
  | missingExecutionPolicyParameter
  | missingCommandParameter
  | badCommandValue
  | stdinNotRedirected
  | tooManyParametersToCommand
  | missingArgsValue
  | badArgsValue
  | missingSettingsFileArgument
  | settingsFileNotExists (path : FilePath)
  | staNotImplemented
  | mtaNotImplemented
  | mtaStaMutuallyExclusive
  | missingWorkingDirectoryArgument
  | missingFileArgument
  deriving DecidableEq

namespace Diagnostic

/-- The stable name of a diagnostic. -/
def classification : Diagnostic → String
  | argumentFileDoesNotExist .. => "ArgumentFileDoesNotExist"
  | unrecognizedSwitch .. => "UnrecognizedSwitch"
  | conflictingScriptTarget .. => "ConflictingScriptTarget"
  | conflictingTransport .. => "ConflictingTransport"
  | missingConfigurationNameArgument => "MissingConfigurationNameArgument"
  | missingCustomPipeNameArgument => "MissingCustomPipeNameArgument"
  | customPipeNameTooLong .. => "CustomPipeNameTooLong"
  | windowStyleArgumentNotImplemented => "WindowStyleArgumentNotImplemented"
  | missingWindowStyleArgument => "MissingWindowStyleArgument"
  | invalidWindowStyleArgument .. => "InvalidWindowStyleArgument"
  | missingOutputFormatParameter => "MissingOutputFormatParameter"
  | missingInputFormatParameter => "MissingInputFormatParameter"
  | badFormatParameterValue .. => "BadFormatParameterValue"
  | missingExecutionPolicyParameter => "MissingExecutionPolicyParameter"
  | missingCommandParameter => "MissingCommandParameter"
  | badCommandValue => "BadCommandValue"
  | stdinNotRedirected => "StdinNotRedirected"
  | tooManyParametersToCommand => "TooManyParametersToCommand"
  | missingArgsValue => "MissingArgsValue"
  | badArgsValue => "BadArgsValue"
  | missingSettingsFileArgument => "MissingSettingsFileArgument"
  | settingsFileNotExists .. => "SettingsFileNotExists"
  | staNotImplemented => "STANotImplemented"
  | mtaNotImplemented => "MTANotImplemented"
  | mtaStaMutuallyExclusive => "MtaStaMutuallyExclusive"
  | missingWorkingDirectoryArgument => "MissingWorkingDirectoryArgument"
  | missingFileArgument => "MissingFileArgument"

def showsShortHelp : Diagnostic → Bool
  | argumentFileDoesNotExist .. => true
  | missingOutputFormatParameter => true
  | missingInputFormatParameter => true
  | badFormatParameterValue .. => true
  | missingExecutionPolicyParameter => true
  | missingCommandParameter => true
  | badCommandValue => true
  | stdinNotRedirected => true
  | tooManyParametersToCommand => true
  | missingArgsValue => true
  | badArgsValue => true
  | missingFileArgument => true
  | _ => false

/-- Every diagnostic is a bad parameter to the operating system. -/
def exitCode (_ : Diagnostic) : ExitCode :=
  .badCommandLineParameter

/-- The end of the message on a switch that is not recognised. -/
def suggestionText : List String → String
  | [] => "."
  | names => ", did you mean: " ++ ", ".intercalate (names.map ("-" ++ ·)) ++ "?"

def message : Diagnostic → String
  | argumentFileDoesNotExist token _ =>
    s!"The argument '{token}' is not recognized as the name of a script file. Check the " ++
      "spelling of the name, or if a path was included, verify that the path is correct and " ++
      "try again."
  | unrecognizedSwitch token suggestions =>
    s!"Invalid argument '{token}'{suggestionText suggestions}"
  | conflictingScriptTarget token =>
    "Cannot process the command because a script file or command was already specified " ++
      s!"before '{token}'."
  | conflictingTransport current requested =>
    s!"Cannot process the command because {requested.switchName} cannot be combined with " ++
      s!"{current.switchName}."
  | missingConfigurationNameArgument =>
    "Cannot process the command because -ConfigurationName requires an argument that is a " ++
      "remote endpoint configuration name. Specify this argument and try again."
  | missingCustomPipeNameArgument =>
    "Cannot process the command because -CustomPipeName requires an argument that is a name " ++
      "of the pipe you want to use. Specify this argument and try again."
  | customPipeNameTooLong maxLength name length =>
    "Cannot process the command because -CustomPipeName specified is too long. Pipe names on " ++
      s!"this platform can be up to {maxLength} characters long. Your pipe name '{name}' is " ++
      s!"{length} characters."
  | windowStyleArgumentNotImplemented => "-WindowStyle is not implemented on this platform."
  | missingWindowStyleArgument =>
    "Cannot process the command because -WindowStyle requires an argument that is normal, " ++
      "hidden, minimized or maximized. Specify one of these argument values and try again."
  | invalidWindowStyleArgument value reason =>
    s!"Processing -WindowStyle '{value}' failed: {reason}."
  | missingOutputFormatParameter =>
    "Cannot process the command because -OutputFormat requires a value. Specify one of the " ++
      s!"following values and try again: {DataFormat.names}."
  | missingInputFormatParameter =>
    "Cannot process the command because -InputFormat requires a value. Specify one of the " ++
      s!"following values and try again: {DataFormat.names}."
  | badFormatParameterValue value =>
    "Cannot process the command because the value of the format parameter is not valid. " ++
      s!"'{value}' is not one of the following values: {DataFormat.names}."
  | missingExecutionPolicyParameter =>
    "Cannot process the execution policy because of a missing policy. A policy must follow " ++
      "-ExecutionPolicy."
  | missingCommandParameter =>
    "Cannot process the command because of a missing parameter. A command must follow " ++
      "-Command."
  | badCommandValue =>
    "Cannot process the command because the value specified with -EncodedCommand is not " ++
      "properly encoded. The value must be Base64 encoded."
  | stdinNotRedirected =>
    "Cannot process the command because -Command - was specified, but standard input is not " ++
      "redirected."
  | tooManyParametersToCommand =>
    "Cannot process the command because -Command - was specified along with other arguments. " ++
      "No arguments can follow '-Command -'."
  | missingArgsValue =>
    "Cannot process the command because -EncodedArguments requires a value. Specify a Base64 " ++
      "encoded argument list and try again."
  | badArgsValue =>
    "Cannot process the command because the value specified with -EncodedArguments is not " ++
      "properly encoded. The value must be Base64 encoded."
  | missingSettingsFileArgument =>
    "Cannot process the command because -SettingsFile requires a file path. Supply a path to " ++
      "the settings file and try again."
  | settingsFileNotExists path =>
    s!"Processing -SettingsFile '{path.shown}' failed because the file does not exist."
  | staNotImplemented => "-STA is not implemented on this platform."
  | mtaNotImplemented => "-MTA is not implemented on this platform."
  | mtaStaMutuallyExclusive => "The -STA and -MTA parameters cannot be used together."
  | missingWorkingDirectoryArgument =>
    "Cannot process the command because -WorkingDirectory requires a path. Supply a " ++
      "directory path and try again."
  | missingFileArgument =>
    "Cannot process the command because -File requires a script file path or '-'. Supply a " ++
      "path and try again."

end Diagnostic

end ShellLaunch
