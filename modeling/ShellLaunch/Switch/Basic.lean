import ShellLaunch.Platform

/-!
# Switches

The switches of a shell host, sorted by what they take from the command line: nothing,
exactly one value, or a value and all that follows it. How a switch is written is data
(`Switch.spec`); what it takes is part of its type.
-/

namespace ShellLaunch

/-- A switch that takes no value and after which reading goes on. -/
inductive Flag where
  | login
  | noExit
  | noProfile
  | noLogo
  | nonInteractive
  | interactive
  | socketServerMode
  | namedPipeServerMode
  | sshServerMode
  | serverMode
  | sta
  | mta
  | removeWorkingDirectoryTrailingCharacter
  deriving DecidableEq

/-- A switch that takes exactly one value. -/
inductive Parameter where
  | configurationName
  | customPipeName
  | windowStyle
  | outputFormat
  | inputFormat
  | executionPolicy
  | encodedCommand
  | encodedArguments
  | settingsFile
  | workingDirectory
  deriving DecidableEq

inductive Switch where
  /-- Show usage; reading ends. -/
  | help
  /-- Show the version; reading ends. -/
  | version
  | flag (flag : Flag)
  | parameter (parameter : Parameter)
  /-- A command and the arguments for it. -/
  | command
  /-- A script file and the arguments for it. -/
  | file
  deriving DecidableEq

namespace Switch

/-- How much of the command line a switch takes. -/
inductive Arity where
  | noValue
  | oneValue
  | valueAndRest
  deriving DecidableEq

def arity : Switch → Arity
  | help | version | flag _ => .noValue
  | parameter _ => .oneValue
  | command | file => .valueAndRest

/-- Where a switch is known at all. A switch that is known everywhere can still be
refused where it cannot work. -/
inductive Availability where
  | everywhere
  | windowsOnly
  deriving DecidableEq

/-- How a switch is written and described. -/
structure Spec where
  /-- The full name in lower case, without a dash. -/
  name : String
  /-- The name as shown to users. -/
  display : String
  /-- The length of the shortest beginning of the name that stands for the switch. -/
  minPrefix : Nat
  /-- Other spellings that stand for the switch, none of them a beginning of its name. -/
  aliases : List String
  availability : Availability
  description : String

end Switch

end ShellLaunch
