import ShellLaunch.Switch.Basic

/-!
# The switch table

How each switch is written, and the order in which switches are listed.
-/

namespace ShellLaunch.Switch

def spec : Switch → Spec
  | .help =>
    ⟨"help", "-Help", 1, ["?"], .everywhere,
      "Show usage and exit"⟩
  | .version =>
    ⟨"version", "-Version", 1, [], .everywhere,
      "Show version and exit"⟩
  | .flag .login =>
    ⟨"login", "-Login", 1, [], .everywhere,
      "Start as a login shell"⟩
  | .flag .noExit =>
    ⟨"noexit", "-NoExit", 3, [], .everywhere,
      "Keep running after the startup command"⟩
  | .flag .noProfile =>
    ⟨"noprofile", "-NoProfile", 3, [], .everywhere,
      "Skip profile scripts"⟩
  | .flag .noLogo =>
    ⟨"nologo", "-NoLogo", 3, [], .everywhere,
      "Hide the startup banner"⟩
  | .flag .nonInteractive =>
    ⟨"noninteractive", "-NonInteractive", 4, [], .everywhere,
      "Never prompt the user"⟩
  | .flag .interactive =>
    ⟨"interactive", "-Interactive", 1, [], .everywhere,
      "Present an interactive prompt"⟩
  | .flag .socketServerMode =>
    ⟨"socketservermode", "-SocketServerMode", 2, [], .everywhere,
      "Serve a remoting session over a socket"⟩
  | .flag .namedPipeServerMode =>
    ⟨"namedpipeservermode", "-NamedPipeServerMode", 3, [], .everywhere,
      "Serve a remoting session over a named pipe"⟩
  | .flag .sshServerMode =>
    ⟨"sshservermode", "-SSHServerMode", 4, [], .everywhere,
      "Serve a remoting session as an SSH subsystem"⟩
  | .flag .serverMode =>
    ⟨"servermode", "-ServerMode", 1, [], .everywhere,
      "Serve a remoting session over stdio"⟩
  | .parameter .configurationName =>
    ⟨"configurationname", "-ConfigurationName", 6, [], .everywhere,
      "Endpoint configuration to run under"⟩
  | .parameter .customPipeName =>
    ⟨"custompipename", "-CustomPipeName", 3, [], .everywhere,
      "Name of the debugging pipe"⟩
  | .parameter .windowStyle =>
    ⟨"windowstyle", "-WindowStyle", 1, [], .everywhere,
      "Initial window state"⟩
  | .parameter .outputFormat =>
    ⟨"outputformat", "-OutputFormat", 1, ["of"], .everywhere,
      "Output format: Text or XML"⟩
  | .parameter .inputFormat =>
    ⟨"inputformat", "-InputFormat", 3, ["if"], .everywhere,
      "Input format: Text or XML"⟩
  | .parameter .executionPolicy =>
    ⟨"executionpolicy", "-ExecutionPolicy", 2, ["ep"], .everywhere,
      "Execution policy for the session"⟩
  | .parameter .encodedCommand =>
    ⟨"encodedcommand", "-EncodedCommand", 1, ["ec"], .everywhere,
      "Base64-encoded UTF-16 command"⟩
  | .command =>
    ⟨"command", "-Command", 1, [], .everywhere,
      "Command text, or '-' to read standard input"⟩
  | .parameter .encodedArguments =>
    ⟨"encodedarguments", "-EncodedArguments", 8, ["ea"], .everywhere,
      "Base64-encoded serialized argument list"⟩
  | .file =>
    ⟨"file", "-File", 1, [], .everywhere,
      "Script file, or '-' to read standard input"⟩
  | .parameter .settingsFile =>
    ⟨"settingsfile", "-SettingsFile", 8, [], .everywhere,
      "Settings file overriding the defaults"⟩
  | .flag .sta =>
    ⟨"sta", "-STA", 3, [], .everywhere,
      "Single-threaded apartment"⟩
  | .flag .mta =>
    ⟨"mta", "-MTA", 3, [], .everywhere,
      "Multi-threaded apartment"⟩
  | .parameter .workingDirectory =>
    ⟨"workingdirectory", "-WorkingDirectory", 2, ["wd"], .everywhere,
      "Initial working directory"⟩
  | .flag .removeWorkingDirectoryTrailingCharacter =>
    ⟨"removeworkingdirectorytrailingcharacter", "-RemoveWorkingDirectoryTrailingCharacter",
      39, [], .windowsOnly,
      "Drop the last character of -WorkingDirectory"⟩

def all : List Switch :=
  [.help, .version, .flag .login, .flag .noExit, .flag .noProfile, .flag .noLogo,
   .flag .nonInteractive, .flag .interactive, .flag .socketServerMode,
   .flag .namedPipeServerMode, .flag .sshServerMode, .flag .serverMode,
   .parameter .configurationName, .parameter .customPipeName, .parameter .windowStyle,
   .parameter .outputFormat, .parameter .inputFormat, .parameter .executionPolicy,
   .parameter .encodedCommand, .command, .parameter .encodedArguments, .file,
   .parameter .settingsFile, .flag .sta, .flag .mta, .parameter .workingDirectory,
   .flag .removeWorkingDirectoryTrailingCharacter]

/-- The table leaves no switch out. -/
theorem mem_all (s : Switch) : s ∈ all := by
  cases s with
  | flag f => cases f <;> decide
  | parameter p => cases p <;> decide
  | _ => decide

def isAvailable (s : Switch) (platform : Platform) : Bool :=
  match s.spec.availability with
  | .everywhere => true
  | .windowsOnly => platform.isWindows

def name (s : Switch) : List Char :=
  s.spec.name.toList

end ShellLaunch.Switch
