/-!
# Data formats
-/

namespace ShellLaunch

/-- How objects are written on the host's standard streams. -/
inductive DataFormat where
  | text
  | xml
  deriving DecidableEq

namespace DataFormat

def name : DataFormat → String
  | text => "Text"
  | xml => "XML"

def names : String := "Text, XML"

/-- The format with the given name, in any ASCII case. -/
def ofName? (value : String) : Option DataFormat :=
  let letters := value.toList.map Char.toLower
  if letters = ['t', 'e', 'x', 't'] then some text
  else if letters = ['x', 'm', 'l'] then some xml
  else none

end DataFormat

end ShellLaunch
