import ShellLaunch.FilePath

/-!
# What a host runs
-/

namespace ShellLaunch

/-- What the host runs at the start. Standard input is not among the targets: reading
commands from it is a property of the session. -/
inductive ScriptTarget where
  | none
  /-- A script file, by its absolute path. -/
  | file (path : FilePath)
  /-- A command, which may have been given in encoded form. -/
  | command (text : String) (encoded : Bool)
  deriving DecidableEq

/-- An argument that is passed on to the script target. -/
structure TrailingArg where
  value : String
  /-- The target takes the argument as a value and never as the name of a parameter. -/
  literal : Bool
  deriving DecidableEq

namespace TrailingArg

/-- An argument that is a value however it looks. -/
def ofValue (value : String) : TrailingArg :=
  ⟨value, true⟩

/-- An argument of a script file: the name of a parameter if it begins with the ASCII
hyphen and goes on after it, else a value. -/
def ofFileToken (token : String) : TrailingArg :=
  match token.toList with
  | '-' :: _ :: _ => ⟨token, false⟩
  | _ => ⟨token, true⟩

end TrailingArg

end ShellLaunch
