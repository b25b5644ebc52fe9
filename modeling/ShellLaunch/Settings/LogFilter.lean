import ShellLaunch.Regex.Reader
import ShellLaunch.Text.Alphanumeric
import ShellLaunch.Text.Blank
import ShellLaunch.Text.Cut
import ShellLaunch.Text.Numeral

/-!
# Log filters

A log filter is a list of directives, separated by commas. A directive is a target, a
span in brackets, or a target and a span, with a level behind `=`; a target or a level
may stand alone. A span can have a field in braces: a name, or a name and a value, which
is a number or a regular expression. Only the form of a filter is checked here, from the
left, and the first malformed directive is reported.

White space around a directive is passed over when it is read, but levels and fields are
cut out of the whole piece between two commas, at the places where they stand in the
directive. So they are cut too far to the left where white space is in front of a directive,
and with the white space that is behind it.
-/

namespace ShellLaunch.LogFilter

/-- Why a filter is refused. -/
inductive Fault where
  | directive
  | level
  | field (fault : Regex.Fault)
  deriving DecidableEq

def Fault.message : Fault → String
  | .directive => "invalid filter directive"
  | .level =>
    "error parsing level filter: expected one of \"off\", \"error\", \"warn\", \"info\", " ++
      "\"debug\", \"trace\", or a number 0-5"
  | .field fault => s!"invalid field filter: {fault.message}"

def levelNames : List String :=
  ["off", "error", "warn", "info", "debug", "trace"]

/-- Whether a text is a level: empty for the default level, a number up to five, or the
name of a level in any ASCII case. -/
def isLevel (s : List Char) : Bool :=
  s.isEmpty || (Text.word? UInt64.size 10 s).any (· ≤ 5) ||
    levelNames.any fun name => name.toList == s.map Char.toLower

/-- Checks the level that begins at a position of a piece and takes up its rest. -/
def checkLevel (piece : List Char) (first : Nat) : Option Fault :=
  if isLevel (Text.dropBytes first piece) then none else some .level

/-- Checks a field's text. Its value ends at a second equals sign. -/
def checkField (field : List Char) : Option Fault :=
  match Text.split '=' field with
  | _ :: value :: _ => if Text.isNumber value then none else (Regex.fault? value).map .field
  | _ => if field.isEmpty then some .directive else none

/-! Each of the following checks reads the rest of a directive, which begins at `position`,
and cuts its level and its field out of `piece`. -/

/-- Checks what follows the bracket that closes a span. -/
def checkAfterSpan (piece : List Char) (position : Nat) : List Char → Option Fault
  | [] => none
  | '=' :: _ => checkLevel piece (position + 1)
  | _ => some .directive

/-- Checks a span's field, which begins at `first`, and what follows it. -/
def checkInField (piece : List Char) (first position : Nat) : List Char → Option Fault
  | '}' :: rest =>
    (checkField (Text.slice first position piece)).or
      (match rest with
      | ']' :: rest => checkAfterSpan piece (position + 2) rest
      | _ => some .directive)
  | c :: rest => checkInField piece first (position + c.utf8Size) rest
  | [] => some .directive

/-- Checks what follows the bracket that opens a span. -/
def checkSpan (piece : List Char) (position : Nat) : List Char → Option Fault
  | ']' :: rest => checkAfterSpan piece (position + 1) rest
  | '{' :: rest => checkInField piece (position + 1) (position + 1) rest
  | c :: rest => checkSpan piece (position + c.utf8Size) rest
  | [] => some .directive

def checkTarget (piece : List Char) (position : Nat) : List Char → Option Fault
  | '=' :: _ => checkLevel piece (position + 1)
  | '[' :: rest => checkSpan piece (position + 1) rest
  | c :: rest => checkTarget piece (position + c.utf8Size) rest
  | [] => none

/-- Whether a directive that is not a span can begin with a character. -/
def isTargetStart (c : Char) : Bool :=
  c == '-' || c == ':' || c == '_' || Text.isAlphanumeric c

def checkDirective (piece : List Char) : Option Fault :=
  match Text.trim piece with
  | '[' :: rest => checkSpan piece 1 rest
  | c :: rest => if isTargetStart c then checkTarget piece c.utf8Size rest else some .directive
  | [] => some .directive

/-- Checks a filter: the fault of its first malformed directive, if it has one. Nothing
at all between two commas is not a directive. -/
def check (filter : String) : Option Fault :=
  ((Text.split ',' filter.toList).filter (!·.isEmpty)).findSome? checkDirective

end ShellLaunch.LogFilter
