import ShellLaunch.Settings.LogFilter
import ShellLaunch.Settings.Overrides

/-!
# Settings

The settings of the command-line program: platform overrides and the filter for its log.
Settings are valid when the overridden platform is one that exists, that is, has desktop
apartments only as Windows, and the filter is well formed.
-/

namespace ShellLaunch

structure Settings where
  overrides : Overrides
  filter : String
  deriving DecidableEq

/-- Why settings cannot be used. -/
inductive SettingsFault where
  /-- There is something at the path, but no text can be read from it. -/
  | unreadable (path reason : String)
  /-- The text is no document with settings. What is wrong with it is left out. -/
  | malformed (path : String)
  | impossiblePlatform
  | badFilter (filter : String) (fault : LogFilter.Fault)
  deriving DecidableEq

def SettingsFault.message : SettingsFault → String
  | unreadable path reason => s!"Failed to read config file '{path}': {reason}"
  | malformed path => s!"Failed to parse config file '{path}'"
  | impossiblePlatform =>
    "Config validation failed: platform.desktop_apartments requires platform.windows"
  | badFilter filter fault =>
    s!"Config validation failed: Invalid logging.filter '{filter}': {fault.message}"

/-- The fault in words, and then what caused it. -/
def SettingsFault.causes : SettingsFault → List String
  | unreadable path reason => [(unreadable path reason).message, reason]
  | fault => [fault.message]

namespace Settings

/-- The filter of settings that give none. -/
def defaultFilter : String := "warn"

/-- The settings of a user who has none. -/
def default : Settings := ⟨.none, defaultFilter⟩

def platformFor (settings : Settings) (base : Platform) : Except SettingsFault Platform :=
  let platform := settings.overrides.apply base
  if platform.desktopApartments && !platform.isWindows then .error .impossiblePlatform
  else .ok platform

/-- Why settings are not valid on the platform this program is built for. The platform is
looked at before the filter. -/
def fault? (settings : Settings) : Option SettingsFault :=
  match settings.platformFor .current with
  | .error fault => some fault
  | .ok _ => (LogFilter.check settings.filter).map (.badFilter settings.filter)

end Settings

end ShellLaunch
