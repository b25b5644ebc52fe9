import ShellLaunch.Json
import ShellLaunch.Launch.Config
import ShellLaunch.Program.Options
import ShellLaunch.Switch.Table

/-!
# Reports

What the program writes about a resolved command line: the whole configuration as JSON,
or one line that says how the host starts. Messages for the user go with either.
-/

namespace ShellLaunch

inductive Verdict where
  | refused (diagnostic : Diagnostic)
  | help
  | version
  | start
  deriving DecidableEq

/-- The JSON form of a script target. A path that is no text has none. -/
def ScriptTarget.toJson? : ScriptTarget → Option Json
  | none => some (.object [("kind", .string "none")])
  | file path =>
    path.text?.map fun path => .object [("kind", .string "file"), ("path", .string path)]
  | command text encoded =>
    some (.object [("kind", .string "command"), ("text", .string text),
      ("encoded", .boolean encoded)])

def TrailingArg.toJson (arg : TrailingArg) : Json :=
  .object [("value", .string arg.value), ("literal", .boolean arg.literal)]

def Diagnostic.toJson (diagnostic : Diagnostic) : Json :=
  .object [("classification", .string diagnostic.classification),
    ("message", .string diagnostic.message)]

namespace LaunchConfig

def verdict (config : LaunchConfig) : Verdict :=
  match config.error with
  | some diagnostic => .refused diagnostic
  | none =>
    if config.showExtendedHelp then .help
    else if config.showVersion then .version
    else .start

/-- The JSON form of a configuration whose script target has the given one. -/
def toJson (config : LaunchConfig) (scriptTarget : Json) : Json :=
  .object [
    ("abort_startup", .boolean config.abortStartup),
    ("no_exit", .boolean config.noExit),
    ("non_interactive", .boolean config.nonInteractive),
    ("no_prompt", .boolean config.noPrompt),
    ("show_banner", .boolean config.showBanner),
    ("show_short_help", .boolean config.showShortHelp),
    ("show_extended_help", .boolean config.showExtendedHelp),
    ("show_version", .boolean config.showVersion),
    ("skip_profiles", .boolean config.skipProfiles),
    ("apartment", .ofString? (config.apartment.map Apartment.name)),
    ("throw_on_read_and_prompt", .boolean config.throwOnReadAndPrompt),
    ("transport", .string config.transport.tag),
    ("script_target", scriptTarget),
    ("explicit_stdin_read", .boolean config.explicitStdinRead),
    ("trailing_args", .list (config.trailingArgs.map TrailingArg.toJson)),
    ("configuration_name", .ofString? config.configurationName),
    ("custom_pipe_name", .ofString? config.customPipeName),
    ("execution_policy", .ofString? config.executionPolicy),
    ("settings_file", .ofString? config.settingsFile),
    ("working_directory", .ofString? config.workingDirectory),
    ("remove_working_directory_trailing_character",
      .boolean config.removeWorkingDirectoryTrailingCharacter),
    ("window_style", .ofString? (config.windowStyle.map WindowStyle.name)),
    ("input_format", .string config.inputFormat.name),
    ("output_format", .string config.outputFormat.name),
    ("output_format_explicit", .boolean config.outputFormatExplicit),
    ("exit_code", .number config.exitCode.code),
    ("error", (config.error.map Diagnostic.toJson).getD .null)]

/-- The JSON form of a configuration, if its script target has one. -/
def toJson? (config : LaunchConfig) : Option Json :=
  config.scriptTarget.toJson?.map config.toJson

/-- What the host runs, in one word; a script file goes with its path. -/
def targetLabel (config : LaunchConfig) : String :=
  match config.scriptTarget with
  | .none => if config.explicitStdinRead then "stdin" else "none"
  | .file path => s!"file:{path.shown}"
  | .command _ true => "encoded-command"
  | .command _ false => "command"

/-- A configuration in one line. -/
def summary (config : LaunchConfig) : String :=
  match config.verdict with
  | .refused diagnostic =>
    s!"error {diagnostic.classification} exit={config.exitCode.code}"
  | .help => "help"
  | .version => "version"
  | .start =>
    s!"ok transport={config.transport.label} target={config.targetLabel} " ++
      s!"args={config.trailingArgs.length} no_exit={config.noExit} banner={config.showBanner}"

end LaunchConfig

namespace Program

def shortUsage : String :=
  "Usage: <host> [-File <path> [args]] [-Command \x7b - | <text> [args] \x7d] " ++
    "[-EncodedCommand <base64>] [-ConfigurationName <name>] [-CustomPipeName <name>] " ++
    "[-ExecutionPolicy <policy>] [-InputFormat \x7bText | XML\x7d] " ++
    "[-OutputFormat \x7bText | XML\x7d] [-Login] [-NoExit] [-NoLogo] [-NonInteractive] " ++
    "[-NoProfile] [-SettingsFile <path>] [-WorkingDirectory <dir>] [-Version] [-Help]"

/-- A configuration as a report of the given format, without the end of its line. There is
none where the configuration has no JSON form and is to be reported in it. -/
def report? (format : ReportFormat) (config : LaunchConfig) : Option String :=
  match format with
  | .json => config.toJson?.map Json.text
  | .summary => some config.summary

/-- The lines for the user that go with a report. -/
def notices (config : LaunchConfig) : List String :=
  config.errorMessage?.toList ++ (if config.showShortHelp then [shortUsage] else [])

/-- Lines as one text, each with its end. -/
def unlines (lines : List String) : String :=
  String.join (lines.map (· ++ "\n"))

/-- A text with spaces behind it, so that it fills a column. -/
def padded (width : Nat) (text : String) : String :=
  text ++ String.ofList (List.replicate (width - text.length) ' ')

/-- What a switch takes, as the list of switches shows it. -/
def arityLabel : Switch.Arity → String
  | .noValue => ""
  | .oneValue => "<value>"
  | .valueAndRest => "<value> [args...]"

def switchLine (s : Switch) : String :=
  s!"{padded 42 s.spec.display} {padded 18 (arityLabel s.arity)} {s.spec.description}"

/-- The switches of a platform, one per line. -/
def switchList (platform : Platform) : String :=
  unlines ((Switch.all.filter (·.isAvailable platform)).map switchLine)

end Program

end ShellLaunch
