import ShellLaunch.Toml.Scalar
import ShellLaunch.Toml.Table
import ShellLaunch.Toml.Token

/-!
# TOML documents

The tokens of a document are read one by one. The open brackets around the place of
reading are kept on a stack, so that arrays and tables can be nested in each other; what
may come next is kept beside it. A document that is not well formed is refused without
saying why.
-/

namespace ShellLaunch.Toml

/-- What waits for the value that is being read. -/
inductive Frame where
  /-- A key of the document: the path in front of it, and the key. -/
  | pair (path : List String) (key : String)
  /-- An array, with its elements so far, the last first. -/
  | array (items : List Value)
  /-- A table between braces, with its entries so far, and the dotted key of the value. -/
  | braces (entries : Entries) (path : List String) (key : String)

/-- What a key is for. -/
inductive KeyRole where
  | pair
  | entry
  | table
  | element
  deriving DecidableEq

/-- What may come next. -/
inductive Expect where
  /-- A line of the document. -/
  | line
  /-- The end of a line. -/
  | lineEnd
  /-- The second bracket or the first key of a header. -/
  | header
  /-- The second bracket at the end of an array's header. -/
  | headerEnd (path : List String) (key : String)
  /-- A key, behind the keys of `path` with their dots. -/
  | key (role : KeyRole) (path : List String)
  /-- What goes on behind a key: a dot, or what ends the dotted key. -/
  | afterKey (role : KeyRole) (path : List String) (key : String)
  /-- The equals sign behind a dotted key between braces. A line has ended behind the key, so
  it cannot go on. -/
  | equals (path : List String) (key : String)
  /-- A value, or the end of an array. -/
  | value
  /-- The rest of a value without quotes. -/
  | scalar (text : List Char)
  /-- A time behind a date and a blank. -/
  | time (date : List Char)
  /-- A comma, or the bracket or brace that closes. -/
  | separator

/-- A document being read: its entries so far, the path of the table that takes the next
key, the open frames, and what may come next. -/
structure Reader where
  entries : Entries
  header : List String
  frames : List Frame
  expect : Expect

namespace Reader

/-- The greatest depth of brackets and braces, and the greatest number of keys in a dotted
key. -/
def depthLimit : Nat := 80

/-- Whether a character can stand in a key without quotes. -/
def isKeyChar (c : Char) : Bool :=
  c.isAlphanum || c == '_' || c == '-'

/-- The key that a token is. -/
def keyOf? : Token → Option String
  | .atom text => if text.all isKeyChar then some (String.ofList text) else none
  | .string text false => some (String.ofList text)
  | _ => none

/-- Hands a finished value to the innermost frame. -/
def place (reader : Reader) (value : Value) : Option Reader :=
  match reader.frames with
  | .pair path key :: frames =>
    (reader.entries.alterUnder? (Entries.insertDotted? value path key) reader.header).map
      fun entries => { reader with entries, frames, expect := .lineEnd }
  | .array items :: frames =>
    some { reader with frames := .array (value :: items) :: frames, expect := .separator }
  | .braces entries path key :: frames =>
    (entries.insertDotted? value path key).map fun entries =>
      { reader with frames := .braces entries [] "" :: frames, expect := .separator }
  | [] => none

/-- Opens a bracket or a brace. The first frame is the document's own. -/
def openFrame (reader : Reader) (frame : Frame) (expect : Expect) : Option Reader :=
  if depthLimit < reader.frames.length then none
  else some { reader with frames := frame :: reader.frames, expect }

def closeBracket (reader : Reader) : Option Reader :=
  match reader.frames with
  | .array items :: frames => { reader with frames }.place (.array false items.reverse)
  | _ => none

def closeBrace (reader : Reader) : Option Reader :=
  match reader.frames with
  | .braces entries _ _ :: frames => { reader with frames }.place (.table .braces entries)
  | _ => none

def isMultiline (reader : Reader) : Bool :=
  match reader.frames with
  | .array _ :: _ | .braces .. :: _ => true
  | _ => false

/-- Goes on to the next key of a dotted key, if it does not get too long. -/
def extendKey (reader : Reader) (role : KeyRole) (path : List String) (key : String) :
    Option Reader :=
  let path := path ++ [key]
  if path.length < depthLimit then some { reader with expect := .key role path } else none

/-- Ends a dotted key at the token that is to end it. -/
def endKey (reader : Reader) (role : KeyRole) (path : List String) (key : String)
    (token : Token) : Option Reader :=
  match role, token with
  | .pair, .equals => some { reader with frames := [.pair path key], expect := .value }
  | .entry, .equals =>
    match reader.frames with
    | .braces entries _ _ :: frames =>
      some { reader with frames := .braces entries path key :: frames, expect := .value }
    | _ => none
  | .table, .closeBracket =>
    (reader.entries.openTable? path key).map fun entries =>
      { reader with entries, header := path ++ [key], expect := .lineEnd }
  | .element, .closeBracket => some { reader with expect := .headerEnd path key }
  | _, _ => none

def stepAfterValue (reader : Reader) (token : Token) : Option Reader :=
  match reader.frames, token with
  | _, .space _ => some reader
  | [], .newline => some { reader with expect := .line }
  | [], _ => none
  | _, .newline => some reader
  | .array _ :: _, .comma => some { reader with expect := .value }
  | .array _ :: _, .closeBracket => reader.closeBracket
  | .braces .. :: _, .comma => some { reader with expect := .key .entry [] }
  | .braces .. :: _, .closeBrace => reader.closeBrace
  | _, _ => none

def stepValue (reader : Reader) (token : Token) : Option Reader :=
  match token with
  | .space _ => some reader
  | .newline => if reader.isMultiline then some reader else none
  | .openBracket => reader.openFrame (.array []) .value
  | .openBrace => reader.openFrame (.braces [] [] "") (.key .entry [])
  | .closeBracket => reader.closeBracket
  | .string text _ => reader.place (.string (String.ofList text))
  | .atom text => some { reader with expect := .scalar text }
  | _ => none

/-- Ends a value without quotes in front of a token. -/
def endScalar (reader : Reader) (text : List Char) : Option Reader :=
  (scalar? text).bind reader.place

def stepKey (reader : Reader) (role : KeyRole) (path : List String) (token : Token) :
    Option Reader :=
  match token with
  | .space _ => some reader
  | .newline => if role = .entry ∧ path = [] then some reader else none
  | .closeBrace => if role = .entry ∧ path = [] then reader.closeBrace else none
  | _ => (keyOf? token).map fun key => { reader with expect := .afterKey role path key }

def step (reader : Reader) (token : Token) : Option Reader :=
  match reader.expect with
  | .line =>
    match token with
    | .newline => some reader
    | .openBracket => some { reader with expect := .header }
    | _ => reader.stepKey .pair [] token
  | .lineEnd => reader.stepAfterValue token
  | .header =>
    match token with
    | .openBracket => some { reader with expect := .key .element [] }
    | .space _ => some { reader with expect := .key .table [] }
    | _ => reader.stepKey .table [] token
  | .headerEnd path key =>
    match token with
    | .closeBracket =>
      (reader.entries.openElement? path key).map fun entries =>
        { reader with entries, header := path ++ [key], expect := .lineEnd }
    | _ => none
  | .key role path => reader.stepKey role path token
  | .afterKey role path key =>
    match token with
    | .space _ => some reader
    | .newline => if role = .entry then some { reader with expect := .equals path key } else none
    | .dot => reader.extendKey role path key
    | _ => reader.endKey role path key token
  | .equals path key =>
    match token with
    | .space _ | .newline => some reader
    | _ => reader.endKey .entry path key token
  | .value => reader.stepValue token
  | .scalar text =>
    match token with
    | .atom more => some { reader with expect := .scalar (text ++ more) }
    | .dot => some { reader with expect := .scalar (text ++ ['.']) }
    | .space [' '] =>
      if isDateShaped text then some { reader with expect := .time text }
      else (reader.endScalar text).bind (stepAfterValue · token)
    | _ => (reader.endScalar text).bind (stepAfterValue · token)
  | .time date =>
    match token with
    | .atom (c :: more) =>
      if c.isDigit then some { reader with expect := .scalar (date ++ ' ' :: c :: more) }
      else none
    | _ => (reader.endScalar date).bind (stepAfterValue · token)
  | .separator => reader.stepAfterValue token

def run (reader : Reader) : List Token → Option Reader
  | [] => some reader
  | token :: rest =>
    match reader.step token with
    | none => none
    | some reader => reader.run rest

/-- The entries at the end of the document. -/
def finish (reader : Reader) : Option Entries :=
  let ended? :=
    match reader.expect with
    | .scalar text | .time text => reader.endScalar text
    | _ => some reader
  ended?.bind fun reader =>
    match reader.expect with
    | .line | .lineEnd => some reader.entries
    | _ => none

end Reader

/-- The entries of a document. -/
def parse? (text : List Char) : Option Entries :=
  (tokens? text).bind fun tokens =>
    (Reader.run ⟨[], [], [], .line⟩ tokens).bind Reader.finish

end ShellLaunch.Toml
