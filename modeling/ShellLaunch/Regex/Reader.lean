import ShellLaunch.Regex.Escape
import ShellLaunch.Regex.Nesting
import ShellLaunch.Text.Alphanumeric
import ShellLaunch.Text.Blank
import ShellLaunch.Text.Numeral

/-!
# Reading regular expressions

An expression is read character by character. The open groups and the open square brackets
are kept on stacks; what may come next is kept beside them. A step may look at the text
ahead of its character, so that what is told apart only by what follows can be told apart
at once.

Counted repetitions are not read: the expressions here never hold a closing brace, so an
opening brace is always a fault.
-/

namespace ShellLaunch.Regex

open Text (isBlank)

/-- Where a primitive stands. -/
inductive Place where
  /-- In a sequence. -/
  | sequence
  /-- In square brackets. -/
  | bracket
  /-- In square brackets, at the end of a range. -/
  | rangeEnd (start : Char)

/-- What may come next. -/
inductive Expect where
  /-- A part of a sequence, or what ends the sequence. -/
  | part
  /-- The question mark behind the sign of a repetition, which is known to come. -/
  | lazy
  /-- What follows the parenthesis that opens a group. -/
  | group
  /-- What follows the question mark that tells the kind of a group. -/
  | groupKind
  /-- The mark in front of a group's name. -/
  | nameMark
  /-- The rest of a group's name, which is held last character first. -/
  | name (text : List Char)
  /-- The rest of a flag directive, which is held last character first. -/
  | flags (text : List Char)
  /-- The character behind a backslash. -/
  | escape (place : Place)
  /-- The digits of an escape by code point, with `left + 1` to come. -/
  | digit (place : Place) (isByte : Bool) (left value : Nat)
  /-- What follows an opening bracket: marks and characters that mean something else later. -/
  | bracketStart
  /-- An item in brackets, an operator, or the closing bracket. -/
  | item
  /-- What follows an item, which can be the start of a range if it is a character. -/
  | afterItem (start : Option Char)
  /-- The end of a range. -/
  | rangeEnd (start : Char)
  /-- The second character of an operator, which is known to come. -/
  | operator
  /-- The rest of a class of ASCII characters, which is known to come. -/
  | asciiClass

/-- Whether white space is passed over here where it means nothing. -/
def Expect.isOpen : Expect → Bool
  | part | group | digit .. | bracketStart | item | afterItem _ | rangeEnd _ => true
  | _ => false

/-- An expression being read: the innermost open group and those around it, the names of
groups so far, the open brackets, innermost first, and what may come next. `inComment`
says that the line is a comment, and `hasBoundary` that there is a word boundary between
characters of any script. -/
structure Reader where
  group : Group
  outer : List Group
  names : List (List Char)
  brackets : List Bracket
  expect : Expect
  inComment : Bool
  hasBoundary : Bool

def asciiClassNames : List String :=
  ["alnum", "alpha", "ascii", "blank", "cntrl", "digit", "graph", "lower", "print", "punct",
    "space", "upper", "word", "xdigit"]

/-- Whether a text goes on with the name of a class of ASCII characters and its end. -/
def beginsAsciiName (s : List Char) : Bool :=
  asciiClassNames.any fun name => (name.toList ++ [':', ']']).isPrefixOf s

/-- Whether the class of ASCII characters that a text goes on with is negated, or `none`
if it does not go on with one. -/
def asciiClass? : List Char → Option Bool
  | ':' :: '^' :: s => if beginsAsciiName s then some true else none
  | ':' :: s => if beginsAsciiName s then some false else none
  | _ => none

/-- Whether a character can stand in a group's name behind the characters of `text`. -/
def isNameChar (text : List Char) (c : Char) : Bool :=
  if text.isEmpty then c == '_' || Text.isAlphabetic c
  else c == '_' || c == '.' || c == '[' || c == ']' || Text.isAlphanumeric c

namespace Reader

def depthLimit : Nat := 250

def start : Reader := ⟨.empty .initial, [], [], [], .part, false, false⟩

def flags (reader : Reader) : Flags := reader.group.flags

def addPart (reader : Reader) (part : Part) : Reader :=
  { reader with group := reader.group.add part, expect := .part }

def inBracket (reader : Reader) (change : Bracket → Bracket) (expect : Expect) : Reader :=
  match reader.brackets with
  | bracket :: brackets => { reader with brackets := change bracket :: brackets, expect }
  | [] => reader

/-! ## Primitives -/

/-- Takes a primitive at its place. -/
def take (reader : Reader) (place : Place) (primitive : Primitive) : Option Reader :=
  match place with
  | .sequence =>
    if reader.flags.admits primitive then
      let isBoundary :=
        match primitive with
        | .wordBoundary => reader.flags.unicode
        | _ => false
      some { reader.addPart (.item 0) with hasBoundary := reader.hasBoundary || isBoundary }
    else none
  | .bracket =>
    if reader.flags.admitsItem primitive then
      let start? :=
        match primitive with
        | .literal c _ => some c
        | _ => none
      some (reader.inBracket (·.add 0) (.afterItem start?))
    else none
  | .rangeEnd start =>
    match primitive with
    | .literal c _ =>
      if start ≤ c ∧ reader.flags.admitsItem primitive then some { reader with expect := .item }
      else none
    | _ => none

def stepEscape (reader : Reader) (place : Place) (c : Char) : Option Reader :=
  match Text.codeLength? c with
  | some length => some { reader with expect := .digit place (c == 'x') (length - 1) 0 }
  | none => (escape? c).bind (reader.take place)

def stepDigit (reader : Reader) (place : Place) (isByte : Bool) (left value : Nat) (c : Char) :
    Option Reader :=
  (Text.digit? 16 c).bind fun low =>
    let value := value * 16 + low
    match left with
    | left + 1 => some { reader with expect := .digit place isByte left value }
    | 0 => (Text.charOfCode? value).bind fun c => reader.take place (.literal c isByte)

/-! ## Square brackets -/

def openBracket (reader : Reader) : Reader :=
  { reader with brackets := .empty :: reader.brackets, expect := .bracketStart }

/-- Closes the innermost brackets. They are an item of the brackets around them, or a part
of the sequence. -/
def closeBracket (reader : Reader) : Option Reader :=
  match reader.brackets with
  | bracket :: brackets =>
    if reader.flags.admitsBracket bracket.negated then
      let depth := bracket.depth + 1
      let reader := { reader with brackets }
      if brackets.isEmpty then some (reader.addPart (.item depth))
      else some (reader.inBracket (·.add depth) .item)
    else none
  | [] => none

def stepItem (reader : Reader) (c : Char) (ahead : List Char) : Option Reader :=
  if (c = '&' ∨ c = '-' ∨ c = '~') ∧ ahead.head? = some c then
    some (reader.inBracket .operate .operator)
  else
    match c with
    | '[' =>
      match asciiClass? ahead with
      | some negated =>
        if reader.flags.admitsAscii negated then some (reader.inBracket (·.add 0) .asciiClass)
        else none
      | none => some reader.openBracket
    | ']' => reader.closeBracket
    | '\\' => some { reader with expect := .escape .bracket }
    | _ => reader.take .bracket (.literal c false)

/-- Reads a character at the start of brackets. A caret negates the class; hyphens, and a
closing bracket in front of everything else, are items there. -/
def stepBracketStart (reader : Reader) (c : Char) (ahead : List Char) : Option Reader :=
  let isBare := reader.brackets.head?.any (·.items.isEmpty)
  let isNegated := reader.brackets.head?.any (·.negated)
  if c = '^' ∧ isBare ∧ !isNegated then
    some (reader.inBracket (fun bracket => { bracket with negated := true }) .bracketStart)
  else if c = '-' then
    (reader.take .bracket (.literal c false)).map ({ · with expect := .bracketStart })
  else if c = ']' ∧ isBare then
    (reader.take .bracket (.literal c false)).map ({ · with expect := .item })
  else reader.stepItem c ahead

/-- The character that follows a hyphen. Where white space means nothing it is passed over,
and the sign of a comment with it, but not the comment. -/
def afterHyphen? (reader : Reader) (ahead : List Char) : Option Char :=
  if reader.flags.spaced then
    match ahead.dropWhile isBlank with
    | '#' :: comment => (comment.dropWhile isBlank).head?
    | rest => rest.head?
  else ahead.head?

/-- Reads a character behind an item. A hyphen makes a range, unless it is the last
character in the brackets or the first of an operator. -/
def stepAfterItem (reader : Reader) (start : Option Char) (c : Char) (ahead : List Char) :
    Option Reader :=
  let next? := reader.afterHyphen? ahead
  if c = '-' ∧ next? ≠ some ']' ∧ next? ≠ some '-' then
    start.map fun start => { reader with expect := .rangeEnd start }
  else reader.stepItem c ahead

def stepRangeEnd (reader : Reader) (start : Char) (c : Char) : Option Reader :=
  if c = '\\' then some { reader with expect := .escape (.rangeEnd start) }
  else reader.take (.rangeEnd start) (.literal c false)

/-! ## Groups -/

def openGroup (reader : Reader) (flags : Flags) : Reader :=
  { reader with group := .empty flags, outer := reader.group :: reader.outer, expect := .part }

/-- Closes the innermost group. The flags are those in front of the group again. -/
def closeGroup (reader : Reader) : Option Reader :=
  match reader.outer with
  | group :: outer =>
    some ({ reader with group, outer }.addPart (.item (reader.group.depth + 1)))
  | [] => none

/-- Reads a character of a flag directive. It changes the rest of the group, or it opens
a group of its own. -/
def stepFlags (reader : Reader) (text : List Char) (c : Char) : Option Reader :=
  let flags := reader.flags.obey true text.reverse
  if c = ':' ∨ c = ')' then
    if text.head? = some '-' then none
    else if c = ':' then some (reader.openGroup flags)
    else if text.isEmpty then none
    else some ({ reader with group := { reader.group with flags } }.addPart .directive)
  else if (c = '-' ∨ c ∈ Flags.letters) ∧ c ∉ text then
    some { reader with expect := .flags (c :: text) }
  else none

def stepName (reader : Reader) (text : List Char) (c : Char) : Option Reader :=
  if c = '>' then
    if text.isEmpty ∨ text ∈ reader.names then none
    else some ({ reader with names := text :: reader.names }.openGroup reader.flags)
  else if isNameChar text c then some { reader with expect := .name (c :: text) }
  else none

/-! ## Sequences -/

def stepPart (reader : Reader) (c : Char) (ahead : List Char) : Option Reader :=
  match c with
  | '(' => some { reader with expect := .group }
  | ')' => reader.closeGroup
  | '|' => some { reader with group := reader.group.endBranch, expect := .part }
  | '[' => some reader.openBracket
  | '?' | '*' | '+' =>
    reader.group.repeatLast?.map fun group =>
      { reader with group, expect := if ahead.head? = some '?' then .lazy else .part }
  | '{' => none
  | '\\' => some { reader with expect := .escape .sequence }
  | '.' => reader.take .sequence .anyChar
  | '^' | '$' => reader.take .sequence .anchor
  | _ => reader.take .sequence (.literal c false)

/-- Reads one character, with the text ahead of it in sight. -/
def step (reader : Reader) (c : Char) (ahead : List Char) : Option Reader :=
  let isSpaced := reader.flags.spaced && reader.expect.isOpen
  if reader.inComment then some { reader with inComment := c != '\n' }
  else if isSpaced && isBlank c then some reader
  else if isSpaced && c == '#' then some { reader with inComment := true }
  else
    match reader.expect with
    | .part => reader.stepPart c ahead
    | .lazy => some { reader with expect := .part }
    | .group =>
      if c = '?' then some { reader with expect := .groupKind }
      else (reader.openGroup reader.flags).stepPart c ahead
    | .groupKind =>
      if c = 'P' then some { reader with expect := .nameMark }
      else if c = '<' then some { reader with expect := .name [] }
      else reader.stepFlags [] c
    | .nameMark => if c = '<' then some { reader with expect := .name [] } else none
    | .name text => reader.stepName text c
    | .flags text => reader.stepFlags text c
    | .escape place => reader.stepEscape place c
    | .digit place isByte left value => reader.stepDigit place isByte left value c
    | .bracketStart => reader.stepBracketStart c ahead
    | .item => reader.stepItem c ahead
    | .afterItem start => reader.stepAfterItem start c ahead
    | .rangeEnd start => reader.stepRangeEnd start c
    | .operator => some { reader with expect := .item }
    | .asciiClass => if c = ']' then some { reader with expect := .item } else some reader

def run (reader : Reader) : List Char → Option Reader
  | [] => some reader
  | c :: rest =>
    match reader.step c rest with
    | none => none
    | some reader => reader.run rest

/-- Whether the expression can end here. -/
def isComplete (reader : Reader) : Bool :=
  match reader.expect with
  | .part => reader.outer.isEmpty && reader.group.depth ≤ depthLimit
  | _ => false

end Reader

/-- Why a regular expression is refused, if it is. A word boundary is looked at only in an
expression that is good otherwise. -/
def fault? (expression : List Char) : Option Fault :=
  match Reader.start.run expression with
  | none => some .malformed
  | some reader =>
    if !reader.isComplete then some .malformed
    else if reader.hasBoundary then some .wordBoundary
    else none

end ShellLaunch.Regex
