import ShellLaunch.Text.Blank
import ShellLaunch.Text.Numeral

/-!
# Window styles

A window style is given by its name, in any ASCII case, or by its position in the list
of styles. White space around the value is not part of it.
-/

namespace ShellLaunch

/-- The state of the host's window at the start. -/
inductive WindowStyle where
  | normal
  | hidden
  | minimized
  | maximized
  deriving DecidableEq

namespace WindowStyle

/-- All styles, each at its ordinal. -/
def all : List WindowStyle := [normal, hidden, minimized, maximized]

def name : WindowStyle → String
  | normal => "Normal"
  | hidden => "Hidden"
  | minimized => "Minimized"
  | maximized => "Maximized"

/-- The style at a position, where the text is a numeral that fits into a machine word. -/
def ofOrdinal? (text : List Char) : Option WindowStyle :=
  (Text.word? UInt64.size 10 text).bind (all[·]?)

def ofName? (text : List Char) : Option WindowStyle :=
  all.find? fun style => style.name.toList.map Char.toLower == text.map Char.toLower

/-- The style that a value stands for. -/
def parse? (value : String) : Option WindowStyle :=
  let text := Text.trim value.toList
  (ofOrdinal? text).or (ofName? text)

/-- Why a value stands for no style. -/
def refusal (value : String) : String :=
  s!"Cannot convert value \"{value}\" to type \"WindowStyle\". Unable to match the identifier " ++
    s!"name {value} to a valid enumerator name. Specify one of the following enumerator " ++
    "names and try again: Normal, Hidden, Minimized, Maximized"

end WindowStyle

end ShellLaunch
