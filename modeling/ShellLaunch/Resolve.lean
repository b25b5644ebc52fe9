import ShellLaunch.Encoding.ArgumentList
import ShellLaunch.Host
import ShellLaunch.Launch.Draft
import ShellLaunch.Switch.Spelling

/-!
# Resolving a command line

A command line is read once, from the left, in groups. A token where a group begins is a
switch, with its value if it takes one, or a positional token, which names the script
file. `Host.step` reads one group and changes the draft; `Host.run` reads group after
group until the tokens are used up, a group ends the reading, or a diagnostic is
recorded; `Host.resolve` reads a whole command line from the initial draft.

The value of a switch is the next token, whatever it looks like.
-/

namespace ShellLaunch

/-- The result of reading one group. -/
inductive Advance where
  /-- Reading ends, all remaining tokens being used up or ignored. -/
  | stop (draft : Draft)
  /-- The group is the token alone. -/
  | alone (draft : Draft)
  /-- The group is the token and its value. -/
  | withValue (draft : Draft)

namespace Parameter

/-- The diagnostic for a switch whose value is missing. -/
def missing : Parameter → Diagnostic
  | configurationName => .missingConfigurationNameArgument
  | customPipeName => .missingCustomPipeNameArgument
  | windowStyle => .missingWindowStyleArgument
  | outputFormat => .missingOutputFormatParameter
  | inputFormat => .missingInputFormatParameter
  | executionPolicy => .missingExecutionPolicyParameter
  | encodedCommand => .missingCommandParameter
  | encodedArguments => .missingArgsValue
  | settingsFile => .missingSettingsFileArgument
  | workingDirectory => .missingWorkingDirectoryArgument

end Parameter

namespace Draft

/-- The objection to a token that selects what the host runs, where that is settled. -/
def targetObjection? (draft : Draft) (token : String) : Option Diagnostic :=
  if draft.hasScriptTarget then some (.conflictingScriptTarget token) else none

/-- Asks for a server transport. Only one kind of server can be asked for. -/
def serve (draft : Draft) (requested : Transport) : Draft :=
  let current := draft.config.transport
  if current ≠ .console ∧ current ≠ requested then
    draft.fail (.conflictingTransport current requested)
  else draft.setTransport requested

def takeFormat (draft : Draft) (value : String) (use : Draft → DataFormat → Draft) : Draft :=
  match DataFormat.ofName? value with
  | some format => use draft format
  | none => draft.fail (.badFormatParameterValue value)

end Draft

namespace Host

/-- Asks for an apartment. Only one apartment can be asked for, and only where threads
have apartments. -/
def chooseApartment (host : Host) (draft : Draft) (requested : Apartment) : Draft :=
  if !host.platform.desktopApartments then
    draft.fail (match requested with
      | .sta => .staNotImplemented
      | .mta => .mtaNotImplemented)
  else if draft.config.apartment.any (· ≠ requested) then draft.fail .mtaStaMutuallyExclusive
  else draft.setApartment requested

def applyFlag (host : Host) (draft : Draft) : Flag → Draft
  | .login => draft
  | .noExit => draft.setNoExit
  | .noProfile => draft.setSkipProfiles
  | .noLogo => draft.hideBanner
  | .nonInteractive => draft.setNonInteractive true
  | .interactive => draft.setNonInteractive false
  | .socketServerMode => draft.serve .socketServer
  | .namedPipeServerMode => draft.serve .namedPipeServer
  | .sshServerMode => draft.serve .sshServer
  | .serverMode => draft.serve .server
  | .sta => host.chooseApartment draft .sta
  | .mta => host.chooseApartment draft .mta
  | .removeWorkingDirectoryTrailingCharacter =>
    draft.setRemoveWorkingDirectoryTrailingCharacter

/-- The objection to a switch that is raised before its value is looked at. -/
def objection? (host : Host) (draft : Draft) (token : String) : Parameter → Option Diagnostic
  | .windowStyle =>
    if host.platform.isWindows then none else some .windowStyleArgumentNotImplemented
  | .encodedCommand => draft.targetObjection? token
  | _ => none

/-- Takes the name of the debugging pipe, if the platform allows for its length. -/
def takePipeName (host : Host) (draft : Draft) (name : String) : Draft :=
  match host.platform.maxPipeNameLength with
  | some ceiling =>
    if ceiling < name.length then draft.fail (.customPipeNameTooLong ceiling name name.length)
    else draft.setCustomPipeName name
  | none => draft.setCustomPipeName name

def takeSettingsFile (host : Host) (draft : Draft) (path : String) : Draft :=
  let resolved := host.absolute path
  if host.isFile resolved then draft.setSettingsFile path
  else draft.fail (.settingsFileNotExists resolved)

def applyParameter (host : Host) (draft : Draft) (value : String) : Parameter → Draft
  | .configurationName => draft.setConfigurationName value
  | .customPipeName => host.takePipeName draft value
  | .windowStyle =>
    match WindowStyle.parse? value with
    | some style => draft.setWindowStyle style
    | none => draft.fail (.invalidWindowStyleArgument value (WindowStyle.refusal value))
  | .outputFormat => draft.takeFormat value Draft.setOutputFormat
  | .inputFormat => draft.takeFormat value Draft.setInputFormat
  | .executionPolicy =>
    if value = "" then draft.fail .missingExecutionPolicyParameter
    else draft.setExecutionPolicy value
  | .encodedCommand =>
    if value = "-" then draft.fail .badCommandValue
    else
      match Encoding.decodeCommand value with
      | .ok text => draft.selectScriptTarget (.command text true)
      | .error _ => draft.fail .badCommandValue
  | .encodedArguments =>
    match Encoding.decodeArguments value with
    | .ok args => draft.pushTrailingArgs (args.map TrailingArg.ofValue)
    | .error _ => draft.fail .badArgsValue
  | .settingsFile => host.takeSettingsFile draft value
  | .workingDirectory => draft.setWorkingDirectory value

def readParameter (host : Host) (draft : Draft) (token : String) (parameter : Parameter)
    (rest : List String) : Advance :=
  match host.objection? draft token parameter with
  | some diagnostic => .stop (draft.fail diagnostic)
  | none =>
    match rest with
    | [] => .stop (draft.fail parameter.missing)
    | value :: _ => .withValue (host.applyParameter draft value parameter)

/-- Selects a script file and passes all remaining tokens on to it. A missing file is
selected all the same, so that the host can tell which path was tried; `missing` is the
diagnostic for that path. -/
def runFile (host : Host) (draft : Draft) (path : String) (rest : List String)
    (missing : FilePath → Diagnostic) : Draft :=
  let resolved := host.absolute path
  let selected := draft.selectScriptTarget (.file resolved)
  if host.isFile resolved then selected.pushTrailingArgs (rest.map TrailingArg.ofFileToken)
  else selected.fail (missing resolved)

/-- Reads the switch for a command. The command `-` stands for standard input, which has
to be redirected, and nothing can follow it. -/
def readCommand (host : Host) (draft : Draft) (token : String) (rest : List String) :
    Draft :=
  match draft.targetObjection? token with
  | some diagnostic => draft.fail diagnostic
  | none =>
    match rest with
    | [] => draft.fail .missingCommandParameter
    | value :: rest =>
      if value = "-" then
        if rest ≠ [] then draft.fail .tooManyParametersToCommand
        else
          let reading := draft.readCommandsFromStdin true
          if host.isRedirected then reading else reading.fail .stdinNotRedirected
      else
        (draft.selectScriptTarget (.command value false)).pushTrailingArgs
          (rest.map TrailingArg.ofValue)

/-- Reads the switch for a script file. The file `-` stands for standard input. -/
def readFile (host : Host) (draft : Draft) (token : String) (rest : List String) : Advance :=
  match draft.targetObjection? token with
  | some diagnostic => .stop (draft.fail diagnostic)
  | none =>
    match rest with
    | [] => .stop (draft.fail .missingFileArgument)
    | value :: rest =>
      if value = "-" then .withValue (draft.readCommandsFromStdin false)
      else .stop (host.runFile draft value rest (.argumentFileDoesNotExist value))

/-- The diagnostic for a positional token that names no file. If it looks like a switch,
it is taken for one. -/
def unknownToken (host : Host) (token : String) (resolved : FilePath) : Diagnostic :=
  match Switch.key? host.platform token with
  | some _ => .unrecognizedSwitch token (Switch.suggestions host.platform token)
  | none => .argumentFileDoesNotExist token resolved

/-- Reads a positional token: `-` for standard input, or a script file. -/
def readPositional (host : Host) (draft : Draft) (token : String) (rest : List String) :
    Advance :=
  match draft.targetObjection? token with
  | some diagnostic => .stop (draft.fail diagnostic)
  | none =>
    if token = "-" then .alone (draft.readCommandsFromStdin false)
    else .stop (host.runFile draft token rest (host.unknownToken token))

/-- Reads the group that begins with `token`. -/
def step (host : Host) (draft : Draft) (token : String) (rest : List String) : Advance :=
  match Switch.lookup? host.platform token with
  | some .help => .stop draft.showHelp
  | some .version => .stop draft.showVersion
  | some (.flag flag) => .alone (host.applyFlag draft flag)
  | some (.parameter parameter) => host.readParameter draft token parameter rest
  | some .command => .stop (host.readCommand draft token rest)
  | some .file => host.readFile draft token rest
  | none => host.readPositional draft token rest

/-- Reads group after group. -/
def run (host : Host) (draft : Draft) : List String → Draft
  | [] => draft
  | token :: rest =>
    match host.step draft token rest with
    | .stop draft => draft
    | .alone draft => if draft.failed then draft else host.run draft rest
    | .withValue draft =>
      if draft.failed then draft
      else
        match rest with
        | [] => draft
        | _ :: rest => host.run draft rest

/-- The launch configuration that a command line asks for. -/
def resolve (host : Host) (args : List String) : LaunchConfig :=
  (host.run Draft.initial args).freeze

end Host

end ShellLaunch
