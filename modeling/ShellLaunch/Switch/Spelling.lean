import ShellLaunch.Switch.Table
import ShellLaunch.Text.Cut
import ShellLaunch.Text.LowerCase

/-!
# Spellings of switches

A token spells a switch with one of four dashes, a second dash being tolerated, or with
a slash on Windows. What follows, in lower case, is its key. A key stands for a switch
when it is a long enough beginning of the switch's name or one of its aliases.
-/

namespace ShellLaunch.Switch

/-- The dashes that can begin a switch: the ASCII hyphen, the en dash, the em dash and
the horizontal bar. -/
def isDash (c : Char) : Bool :=
  c == '-' || c == '–' || c == '—' || c == '―'

/-- The text without the dash it begins with, if it does. -/
def dropDash : List Char → List Char
  | [] => []
  | c :: rest => if isDash c then rest else c :: rest

/-- What follows the lead of a switch: its first dash with a second one, or its slash. -/
def afterLead? (platform : Platform) : List Char → Option (List Char)
  | [] => none
  | c :: rest =>
    if isDash c then some (dropDash rest)
    else if c = '/' ∧ platform.isWindows then some rest
    else none

/-- The key of a token, or `none` where it has no lead or nothing follows the lead. -/
def key? (platform : Platform) (token : String) : Option (List Char) :=
  match afterLead? platform token.toList with
  | none => none
  | some rest => if rest = [] then none else some (Text.lower rest)

/-- Whether a key stands for a switch. Names are ASCII, so the beginning of a name is as
long in bytes as in characters. -/
def hasKey (s : Switch) (key : List Char) : Bool :=
  (s.spec.minPrefix ≤ key.length && key.isPrefixOf s.name) ||
    s.spec.aliases.any (·.toList == key)

/-- The switch that a key stands for, looked for in `table`. -/
def findKey? (table : List Switch) (platform : Platform) (key : List Char) : Option Switch :=
  table.find? fun s => s.isAvailable platform && s.hasKey key

/-- The switch that a token spells. -/
def lookup? (platform : Platform) (token : String) : Option Switch :=
  (key? platform token).bind (findKey? all platform)

/-- The names of the available switches in which the key of a token occurs. A key of one
letter occurs in too many names to be of help. -/
def suggestions (platform : Platform) (token : String) : List String :=
  match key? platform token with
  | none => []
  | some key =>
    if key.length < 2 then []
    else
      (all.filter fun s => s.isAvailable platform && Text.occursIn key s.name).map
        fun s => s.spec.name

end ShellLaunch.Switch
