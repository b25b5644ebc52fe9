/-!
# Regular expressions

Regular expressions describe the bytes of UTF-8 text and are made into automata without
any table of the characters of the world. That decides what cannot be taken: in Unicode
mode neither the named classes of letters, digits and blanks nor matching without regard
to case, since both need such a table; out of it nothing that could match a byte that is
not text of its own.

Only the form of an expression is looked at here; nothing is matched.
-/

namespace ShellLaunch.Regex

/-- Why a regular expression is refused. -/
inductive Fault where
  /-- It is not well formed, nested too deeply, or asks for what cannot be taken. -/
  | malformed
  /-- It has a word boundary between characters of any script. -/
  | wordBoundary
  deriving DecidableEq

def Fault.message : Fault → String
  | malformed => "error building NFA"
  | wordBoundary =>
    "unsupported regex feature for DFAs: cannot build DFAs for regexes with Unicode word " ++
      "boundaries; switch to ASCII word boundaries, or heuristically enable Unicode word " ++
      "boundaries or use a different regex engine"

/-- The flags that decide how an expression is read. -/
structure Flags where
  /-- Letters match in either case. -/
  caseless : Bool
  /-- Unicode mode: the expression is about characters and not about bytes. -/
  unicode : Bool
  /-- White space and comments between the parts of the expression mean nothing. -/
  spaced : Bool

namespace Flags

def initial : Flags := ⟨false, true, false⟩

/-- The letters of the flags. Those for line ends, for lines and for greed change what is
matched, but not what can be read. -/
def letters : List Char := ['i', 'm', 's', 'U', 'u', 'R', 'x']

def set (flags : Flags) (on : Bool) : Char → Flags
  | 'i' => { flags with caseless := on }
  | 'u' => { flags with unicode := on }
  | 'x' => { flags with spaced := on }
  | _ => flags

/-- Obeys a directive: turns flags on, and those behind a minus off. -/
def obey (flags : Flags) (on : Bool) : List Char → Flags
  | [] => flags
  | '-' :: rest => obey flags false rest
  | letter :: rest => obey (flags.set on letter) on rest

end Flags

/-- What matches one character, or a place between two. -/
inductive Primitive where
  /-- A character; `isByte` says that it is written as the two digits of a byte. -/
  | literal (c : Char) (isByte : Bool)
  | anyChar
  /-- A class of digits, blanks or word characters, or the class of all others. -/
  | namedClass (negated : Bool)
  /-- The start or the end of the text or of a line. -/
  | anchor
  | wordBoundary

namespace Flags

/-- Whether the primitive can be taken outside square brackets. -/
def admits (flags : Flags) : Primitive → Bool
  | .literal c isByte => if flags.unicode then !flags.caseless else !isByte || c.toNat < 0x80
  | .anyChar => flags.unicode
  | .namedClass negated => !flags.unicode && !negated
  | .anchor | .wordBoundary => true

/-- Whether the primitive can be taken inside square brackets. A place is no character. -/
def admitsItem (flags : Flags) : Primitive → Bool
  | .literal c _ => if flags.unicode then !flags.caseless else c.toNat < 0x80
  | .namedClass negated => !flags.unicode && !negated
  | _ => false

/-- Whether a class of ASCII characters, like `[:alpha:]`, can be taken. -/
def admitsAscii (flags : Flags) (negated : Bool) : Bool :=
  if flags.unicode then !flags.caseless else !negated

/-- Whether a class in square brackets can be taken whose items can. -/
def admitsBracket (flags : Flags) (negated : Bool) : Bool :=
  flags.unicode || !negated

end Flags

end ShellLaunch.Regex
