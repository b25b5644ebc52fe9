import ShellLaunch.Settings.Basic

/-!
# Where settings are kept
-/

namespace ShellLaunch.Settings

/-- The path of a name inside a directory. -/
def inside (directory name : String) : String :=
  if directory.toList.getLast? = some '/' then directory ++ name else directory ++ "/" ++ name

/-- The directory of a user's settings: the one that `configHome` gives, if that is an
absolute path, else the usual one in the user's home, else the working directory. -/
def homeDirectory (configHome home : Option String) : String :=
  match configHome.filter fun path => path.toList.head? = some '/' with
  | some path => path
  | none =>
    match home.filter (· ≠ "") with
    | some path => inside path ".config"
    | none => "."

/-- The path of the settings of a user who names no other. -/
def location (configHome home : Option String) : String :=
  inside (inside (homeDirectory configHome home) "hostline") "config.toml"

end ShellLaunch.Settings
