import ShellLaunch.Regex.Basic

/-!
# Escapes in regular expressions

A backslash makes punctuation an ordinary character and some letters stand for something
else. The other letters and the digits are kept for later use and refused, and so is every
character beyond ASCII. Escapes by code point are read elsewhere, as they have digits behind
their letter.
-/

namespace ShellLaunch.Regex

def control? : Char → Option Char
  | 'a' => some '\x07'
  | 'f' => some '\x0c'
  | 't' => some '\t'
  | 'n' => some '\n'
  | 'r' => some '\r'
  | 'v' => some '\x0b'
  | _ => none

def isEscapable (c : Char) : Bool :=
  c.toNat < 0x80 && !c.isAlphanum && c != '<' && c != '>'

/-- What a backslash and one character stand for. -/
def escape? (c : Char) : Option Primitive :=
  match c with
  | 'd' | 's' | 'w' => some (.namedClass false)
  | 'D' | 'S' | 'W' => some (.namedClass true)
  | 'A' | 'z' => some .anchor
  | 'b' | 'B' | '<' | '>' => some .wordBoundary
  | _ =>
    match control? c with
    | some control => some (.literal control false)
    | none => if isEscapable c then some (.literal c false) else none

end ShellLaunch.Regex
