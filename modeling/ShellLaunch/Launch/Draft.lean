import ShellLaunch.Launch.Config

/-!
# Drafts

A draft is a launch configuration under way. Every change to it goes through
`Draft.edit`, which does nothing once a diagnostic is recorded, so that nothing read
after the first failure reaches the configuration. `Draft.freeze` ends the draft.
-/

namespace ShellLaunch

/-- A launch configuration under way. -/
structure Draft where
  config : LaunchConfig
  /-- The host was asked to go on after what it runs, whatever is selected later. -/
  noExitSeen : Bool
  deriving DecidableEq

namespace Draft

def initial : Draft := ⟨.initial, false⟩

def failed (draft : Draft) : Bool :=
  draft.config.error.isSome

/-- Changes the configuration, unless a diagnostic is recorded. -/
def edit (draft : Draft) (change : LaunchConfig → LaunchConfig) : Draft :=
  if draft.failed then draft else { draft with config := change draft.config }

/-- Records a diagnostic, unless there is one. -/
def fail (draft : Draft) (diagnostic : Diagnostic) : Draft :=
  draft.edit fun config =>
    { config with
      abortStartup := true
      showBanner := false
      showShortHelp := config.showShortHelp || diagnostic.showsShortHelp
      error := some diagnostic }

/-- Usage is shown in full instead of a session. -/
def showHelp (draft : Draft) : Draft :=
  draft.edit fun config =>
    { config with
      abortStartup := true
      showShortHelp := true
      showExtendedHelp := true
      showBanner := false }

/-- The version is shown, without questions, profiles or a session after it. -/
def showVersion (draft : Draft) : Draft :=
  draft.edit fun config =>
    { config with
      showVersion := true
      nonInteractive := true
      skipProfiles := true
      showBanner := false
      noExit := false }

/-- The host goes on after what it runs, also if that is selected later. -/
def setNoExit (draft : Draft) : Draft :=
  if draft.failed then draft
  else { config := { draft.config with noExit := true }, noExitSeen := true }

def setSkipProfiles (draft : Draft) : Draft :=
  draft.edit fun config => { config with skipProfiles := true }

def hideBanner (draft : Draft) : Draft :=
  draft.edit fun config => { config with showBanner := false }

/-- Whether the user is never asked anything. Reading and prompting then fail, and go on
to fail if the user may be asked again. -/
def setNonInteractive (draft : Draft) (nonInteractive : Bool) : Draft :=
  draft.edit fun config =>
    { config with
      nonInteractive
      throwOnReadAndPrompt := config.throwOnReadAndPrompt || nonInteractive }

def setTransport (draft : Draft) (transport : Transport) : Draft :=
  draft.edit fun config => { config with transport }

def setApartment (draft : Draft) (apartment : Apartment) : Draft :=
  draft.edit fun config => { config with apartment := some apartment }

/-- Whether it is settled what the host runs. Standard input counts: once it is chosen,
there is no script file or command any more. -/
def hasScriptTarget (draft : Draft) : Bool :=
  draft.config.scriptTarget != .none || draft.config.explicitStdinRead

/-- Selects what the host runs. The host exits after it unless it was asked not to. -/
def selectScriptTarget (draft : Draft) (target : ScriptTarget) : Draft :=
  draft.edit fun config =>
    { config with
      scriptTarget := target
      showBanner := false
      noExit := draft.noExitSeen && config.noExit }

/-- Commands are read from standard input. -/
def readCommandsFromStdin (draft : Draft) (noPrompt : Bool) : Draft :=
  draft.edit fun config =>
    { config with explicitStdinRead := true, noPrompt, showBanner := false }

def pushTrailingArgs (draft : Draft) (args : List TrailingArg) : Draft :=
  draft.edit fun config => { config with trailingArgs := config.trailingArgs ++ args }

def setConfigurationName (draft : Draft) (name : String) : Draft :=
  draft.edit fun config => { config with configurationName := some name }

def setCustomPipeName (draft : Draft) (name : String) : Draft :=
  draft.edit fun config => { config with customPipeName := some name }

def setExecutionPolicy (draft : Draft) (policy : String) : Draft :=
  draft.edit fun config => { config with executionPolicy := some policy }

/-- The settings file, as it was written. -/
def setSettingsFile (draft : Draft) (path : String) : Draft :=
  draft.edit fun config => { config with settingsFile := some path }

/-- The initial working directory, as it was written. -/
def setWorkingDirectory (draft : Draft) (path : String) : Draft :=
  draft.edit fun config => { config with workingDirectory := some path }

def setRemoveWorkingDirectoryTrailingCharacter (draft : Draft) : Draft :=
  draft.edit fun config => { config with removeWorkingDirectoryTrailingCharacter := true }

def setWindowStyle (draft : Draft) (style : WindowStyle) : Draft :=
  draft.edit fun config => { config with windowStyle := some style }

def setInputFormat (draft : Draft) (format : DataFormat) : Draft :=
  draft.edit fun config => { config with inputFormat := format }

def setOutputFormat (draft : Draft) (format : DataFormat) : Draft :=
  draft.edit fun config =>
    { config with outputFormat := format, outputFormatExplicit := true }

def dropLastChar (text : String) : String :=
  String.ofList text.toList.dropLast

/-- The finished configuration. The working directory loses its last character here, so
that it does not matter which of the two switches came first; the exit code follows from
the error. -/
def freeze (draft : Draft) : LaunchConfig :=
  let config := draft.config
  { config with
    workingDirectory :=
      if config.error.isNone && config.removeWorkingDirectoryTrailingCharacter then
        config.workingDirectory.map dropLastChar
      else config.workingDirectory
    exitCode := (config.error.map Diagnostic.exitCode).getD .success }

end Draft

end ShellLaunch
