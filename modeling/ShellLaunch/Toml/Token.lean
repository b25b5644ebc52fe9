import ShellLaunch.Text.Numeral

/-!
# TOML tokens

The text of a TOML document is taken apart into tokens by an automaton that reads it
character by character. Strings are decoded on the way and comments dropped. Everything
that is neither white space, a string nor punctuation is an atom; whether it is a key
or a value, or nothing at all, is not decided here.

A state holds the text of the unfinished token with its last character first.
-/

namespace ShellLaunch.Toml

/-- A token of a TOML document. -/
inductive Token where
  | newline
  /-- Blanks and tabs. -/
  | space (text : List Char)
  | dot
  | equals
  | comma
  | openBracket
  | closeBracket
  | openBrace
  | closeBrace
  /-- A string in quotes; a string in three quotes may go over several lines. -/
  | string (text : List Char) (isBlock : Bool)
  /-- Anything else. -/
  | atom (text : List Char)
  deriving DecidableEq

/-- What a scanner is in the middle of. -/
inductive Scan where
  /-- Between two tokens. -/
  | between
  /-- Behind a carriage return, which needs a line feed. -/
  | carriage
  | space (text : List Char)
  | atom (text : List Char)
  | comment
  /-- Behind the first quotes of a string. -/
  | quotes (quote : Char) (isSecond : Bool)
  /-- In a string on one line. -/
  | line (quote : Char) (text : List Char)
  /-- Behind the three quotes that open a string; a line end here is dropped. `inBreak`
  says that its carriage return is read. -/
  | blockStart (quote : Char) (inBreak : Bool)
  /-- In a string in three quotes, behind `closing` quotes. -/
  | block (quote : Char) (text : List Char) (closing : Nat)
  /-- In a string in three quotes, behind a carriage return. -/
  | blockCarriage (quote : Char) (text : List Char)
  /-- Behind a backslash. -/
  | escape (isBlock : Bool) (text : List Char)
  /-- In an escape that has `left + 1` hexadecimal digits to come. -/
  | hex (isBlock : Bool) (text : List Char) (left value : Nat)
  /-- In the blanks behind a backslash. `lineEnded` says that a line end is among them, as
  it has to be; `inBreak` says that a carriage return is read. -/
  | fold (text : List Char) (lineEnded inBreak : Bool)

namespace Scan

/-- Whether a character can stand in comments and strings. -/
def isText (c : Char) : Bool :=
  c == '\t' || (0x20 ≤ c.toNat && c.toNat != 0x7F)

def isSpace (c : Char) : Bool :=
  c == ' ' || c == '\t'

def punctuation? : Char → Option Token
  | '.' => some .dot
  | '=' => some .equals
  | ',' => some .comma
  | '[' => some .openBracket
  | ']' => some .closeBracket
  | '{' => some .openBrace
  | '}' => some .closeBrace
  | _ => none

/-- A character between two tokens. -/
def start (c : Char) : List Token × Scan :=
  match punctuation? c with
  | some token => ([token], between)
  | none =>
    if c = '\n' then ([.newline], between)
    else if c = '\r' then ([], carriage)
    else if isSpace c then ([], space [c])
    else if c = '#' then ([], comment)
    else if c = '"' ∨ c = '\'' then ([], quotes c false)
    else ([], atom [c])

/-- A character behind a finished token. -/
def startAfter (token : Token) (c : Char) : List Token × Scan :=
  let (tokens, scan) := start c
  (token :: tokens, scan)

/-- Whether a character ends an atom. -/
def endsAtom (c : Char) : Bool :=
  (punctuation? c).isSome || c == '\n' || c == '\r' || isSpace c || c == '#' || c == '"' ||
    c == '\''

/-- A character in a string on one line. -/
def lineStep (quote : Char) (text : List Char) (c : Char) : Option (List Token × Scan) :=
  if c = quote then some ([.string text.reverse false], between)
  else if c = '\\' ∧ quote = '"' then some ([], escape false text)
  else if isText c then some ([], line quote (c :: text))
  else none

/-- A character other than a quote in a string in three quotes. -/
def blockText (quote : Char) (text : List Char) (c : Char) : Option Scan :=
  if c = '\\' ∧ quote = '"' then some (escape true text)
  else if c = '\r' then some (blockCarriage quote text)
  else if c = '\n' ∨ isText c then some (block quote (c :: text) 0)
  else none

/-- A character in a string in three quotes, behind `closing` quotes. Up to two quotes in
front of the closing three belong to the string. -/
def blockStep (quote : Char) (text : List Char) (closing : Nat) (c : Char) :
    Option (List Token × Scan) :=
  if c = quote ∧ closing < 5 then some ([], block quote text (closing + 1))
  else if 3 ≤ closing then
    let text := List.replicate (closing - 3) quote ++ text
    some (startAfter (.string text.reverse true) c)
  else
    let text := List.replicate closing quote ++ text
    (blockText quote text c).map fun scan => ([], scan)

def push (isBlock : Bool) (text : List Char) (c : Char) : Scan :=
  if isBlock then block '"' (c :: text) 0 else line '"' (c :: text)

/-- The character that a one-letter escape stands for. -/
def escape? : Char → Option Char
  | 'b' => some '\x08'
  | 't' => some '\t'
  | 'n' => some '\n'
  | 'f' => some '\x0c'
  | 'r' => some '\r'
  | 'e' => some '\x1b'
  | '"' => some '"'
  | '\\' => some '\\'
  | _ => none

def escapeStep (isBlock : Bool) (text : List Char) (c : Char) : Option Scan :=
  match escape? c with
  | some d => some (push isBlock text d)
  | none =>
    match Text.codeLength? c with
    | some length => some (hex isBlock text (length - 1) 0)
    | none =>
      if !isBlock then none
      else if isSpace c then some (fold text false false)
      else if c = '\n' then some (fold text true false)
      else if c = '\r' then some (fold text true true)
      else none

def hexStep (isBlock : Bool) (text : List Char) (left value : Nat) (c : Char) : Option Scan :=
  match Text.digit? 16 c with
  | none => none
  | some low =>
    let value := value * 16 + low
    match left with
    | left + 1 => some (hex isBlock text left value)
    | 0 => (Text.charOfCode? value).map (push isBlock text)

def foldStep (text : List Char) (lineEnded inBreak : Bool) (c : Char) :
    Option (List Token × Scan) :=
  if inBreak then (if c = '\n' then some ([], fold text true false) else none)
  else if isSpace c then some ([], fold text lineEnded false)
  else if c = '\n' then some ([], fold text true false)
  else if c = '\r' then some ([], fold text true true)
  else if lineEnded then blockStep '"' text 0 c
  else none

def step (scan : Scan) (c : Char) : Option (List Token × Scan) :=
  match scan with
  | between => some (start c)
  | carriage => if c = '\n' then some ([.newline], between) else none
  | space text =>
    if isSpace c then some ([], space (c :: text))
    else some (startAfter (.space text.reverse) c)
  | atom text =>
    if endsAtom c then some (startAfter (.atom text.reverse) c)
    else some ([], atom (c :: text))
  | comment =>
    if c = '\n' ∨ c = '\r' then some (start c)
    else if isText c then some ([], comment)
    else none
  | quotes quote isSecond =>
    if isSecond then
      if c = quote then some ([], blockStart quote false)
      else some (startAfter (.string [] false) c)
    else if c = quote then some ([], quotes quote true)
    else lineStep quote [] c
  | line quote text => lineStep quote text c
  | blockStart quote inBreak =>
    if inBreak then (if c = '\n' then some ([], block quote [] 0) else none)
    else if c = '\n' then some ([], block quote [] 0)
    else if c = '\r' then some ([], blockStart quote true)
    else blockStep quote [] 0 c
  | block quote text closing => blockStep quote text closing c
  | blockCarriage quote text =>
    if c = '\n' then some ([], block quote ('\n' :: '\r' :: text) 0) else none
  | escape isBlock text => (escapeStep isBlock text c).map fun scan => ([], scan)
  | hex isBlock text left value =>
    (hexStep isBlock text left value c).map fun scan => ([], scan)
  | fold text lineEnded inBreak => foldStep text lineEnded inBreak c

/-- The tokens that the end of the text finishes. -/
def finish : Scan → Option (List Token)
  | between | comment => some []
  | space text => some [.space text.reverse]
  | atom text => some [.atom text.reverse]
  | quotes _ true => some [.string [] false]
  | block quote text closing =>
    if 3 ≤ closing then
      some [.string (List.replicate (closing - 3) quote ++ text).reverse true]
    else none
  | _ => none

def run (scan : Scan) : List Char → Option (List Token)
  | [] => scan.finish
  | c :: rest =>
    match scan.step c with
    | none => none
    | some (tokens, scan) => (run scan rest).map (tokens ++ ·)

end Scan

/-- The tokens of a document. A byte order mark in front of it is not part of it. -/
def tokens? : List Char → Option (List Token)
  | '\uFEFF' :: text => Scan.between.run text
  | text => Scan.between.run text

end ShellLaunch.Toml
