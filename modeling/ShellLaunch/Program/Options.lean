import ShellLaunch.Platform

/-!
# Options of the program

The options of the command-line program are read from left to right, and the first thing
that settles the outcome does so: a request for help or for the version, or a fault. The
command line of the host follows behind `--` and is not looked at here.

An option's value is attached with `=` or is the next argument, which then must not look
like an option itself.
-/

namespace ShellLaunch.Program

/-- Which platform command lines are resolved for. -/
inductive PlatformChoice where
  /-- The platform this program is built for, with the user's overrides. -/
  | detect
  | windowsDesktop
  | windowsCore
  | unix
  deriving DecidableEq

inductive ReportFormat where
  | json
  | summary
  deriving DecidableEq

inductive ValueOption where
  | stdin
  | platform
  | settingsPath
  | format
  deriving DecidableEq

inductive BareOption where
  | listSwitches
  | help
  | version
  deriving DecidableEq

def ValueOption.name : ValueOption → String
  | stdin => "stdin"
  | platform => "platform"
  | settingsPath => "config"
  | format => "format"

def ValueOption.ofName? (name : String) : Option ValueOption :=
  [stdin, platform, settingsPath, format].find? (·.name = name)

def BareOption.name : BareOption → String
  | listSwitches => "list-switches"
  | help => "help"
  | version => "version"

def BareOption.ofName? (name : String) : Option BareOption :=
  [listSwitches, help, version].find? (·.name = name)

/-- The option that a single letter stands for. -/
def BareOption.ofLetter? (letter : Char) : Option BareOption :=
  if letter = 'h' then some help else if letter = 'V' then some version else none

def stdinOfName? (name : String) : Option StdinState :=
  [("detect", StdinState.detect), ("redirected", .redirected), ("terminal", .terminal)].lookup name

def PlatformChoice.ofName? (name : String) : Option PlatformChoice :=
  [("detect", detect), ("windows-desktop", windowsDesktop), ("windows-core", windowsCore),
    ("unix", unix)].lookup name

def ReportFormat.ofName? (name : String) : Option ReportFormat :=
  [("json", json), ("summary", summary)].lookup name

/-- The options as far as they are given. -/
structure Options where
  stdin? : Option StdinState
  platform? : Option PlatformChoice
  settingsPath? : Option String
  format? : Option ReportFormat
  listSwitches : Bool
  deriving DecidableEq

/-- Why the program's arguments cannot be read. -/
inductive UsageFault where
  | unknownOption (token : String)
  | unexpectedArgument (token : String)
  | unexpectedValue (name : String)
  | missingValue (name : String)
  | invalidValue (name value : String)
  | repeated (name : String)
  deriving DecidableEq

def UsageFault.message : UsageFault → String
  | unknownOption token => s!"unknown option '{token}'"
  | unexpectedArgument token => s!"unexpected argument '{token}'"
  | unexpectedValue name => s!"the option '--{name}' takes no value"
  | missingValue name => s!"the option '--{name}' requires a value"
  | invalidValue name value => s!"invalid value '{value}' for the option '--{name}'"
  | repeated name => s!"the option '--{name}' cannot be given more than once"

/-- What the program is asked to do. -/
inductive Request where
  | help
  | version
  /-- Resolve a command line of the host, or list the switches it could use. -/
  | resolve (options : Options) (hostArgs : List String)

namespace Options

def none : Options := ⟨.none, .none, .none, .none, false⟩

/-- How the host's standard input is judged. -/
def stdin (options : Options) : StdinState :=
  options.stdin?.getD .detect

def platform (options : Options) : PlatformChoice :=
  options.platform?.getD .detect

def format (options : Options) : ReportFormat :=
  options.format?.getD .json

/-- The value of an option that must not have one already. -/
def once {α : Type} (name value : String) (read : String → Option α) :
    Option α → Except UsageFault (Option α)
  | some _ => .error (.repeated name)
  | .none =>
    match read value with
    | some a => .ok (some a)
    | .none => .error (.invalidValue name value)

/-- The options with the value of one more. -/
def give (options : Options) (option : ValueOption) (value : String) :
    Except UsageFault Options :=
  match option with
  | .stdin =>
    (once option.name value stdinOfName? options.stdin?).map
      fun stdin? => { options with stdin? }
  | .platform =>
    (once option.name value PlatformChoice.ofName? options.platform?).map
      fun platform? => { options with platform? }
  | .settingsPath =>
    (once option.name value (fun path => if path = "" then .none else some path)
      options.settingsPath?).map fun settingsPath? => { options with settingsPath? }
  | .format =>
    (once option.name value ReportFormat.ofName? options.format?).map
      fun format? => { options with format? }

end Options

/-- What an argument in front of the host's command line looks like. -/
inductive Token where
  /-- The mark in front of the host's command line. -/
  | separator
  /-- An option by name, with the value that is attached to it. -/
  | long (name : String) (value? : Option String)
  /-- An option by letter. What stands behind the letter does not matter, since every
  option that has a letter settles the outcome. -/
  | short (letter : Char)
  /-- No option. -/
  | word

/-- What an argument looks like. -/
def Token.ofString (token : String) : Token :=
  match token.toList with
  | ['-', '-'] => separator
  | '-' :: '-' :: rest =>
    let name := rest.takeWhile (· ≠ '=')
    match rest.drop name.length with
    | _ :: value => long (String.ofList name) (some (String.ofList value))
    | [] => long (String.ofList name) none
  | '-' :: letter :: _ => short letter
  | _ => word

/-- Reads the arguments behind some that gave `options`, the last of which was possibly
an option that still waits for its value. -/
def read (options : Options) : Option ValueOption → List String → Except UsageFault Request
  | none, [] => .ok (.resolve options [])
  | some option, [] => .error (.missingValue option.name)
  | some option, token :: rest =>
    match Token.ofString token with
    | .word =>
      match options.give option token with
      | .ok options => read options none rest
      | .error fault => .error fault
    | _ => .error (.missingValue option.name)
  | none, token :: rest =>
    match Token.ofString token with
    | .separator => .ok (.resolve options rest)
    | .word => .error (.unexpectedArgument token)
    | .short letter =>
      match BareOption.ofLetter? letter with
      | some .help => .ok .help
      | some .version => .ok .version
      | _ => .error (.unknownOption token)
    | .long name value? =>
      match ValueOption.ofName? name, BareOption.ofName? name, value? with
      | some option, _, some value =>
        match options.give option value with
        | .ok options => read options none rest
        | .error fault => .error fault
      | some option, _, none => read options (some option) rest
      | none, some _, some _ => .error (.unexpectedValue name)
      | none, some .help, none => .ok .help
      | none, some .version, none => .ok .version
      | none, some .listSwitches, none =>
        if options.listSwitches then .error (.repeated name)
        else read { options with listSwitches := true } none rest
      | none, none, _ => .error (.unknownOption token)

/-- What the program's arguments ask for. -/
def Request.ofArgs (args : List String) : Except UsageFault Request :=
  read .none none args

end ShellLaunch.Program
