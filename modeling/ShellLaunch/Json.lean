/-!
# JSON texts

Values as reports need them, and how they are written: a list or an object that is not
empty has one element per line, two spaces further in than its brackets, and an object's
fields stay in order. Strings are written as they are, except that quotes, backslashes
and control characters of ASCII are escaped.
-/

namespace ShellLaunch

inductive Json where
  | null
  | boolean (value : Bool)
  | number (value : Nat)
  | string (text : String)
  | list (items : List Json)
  | object (fields : List (String × Json))

namespace Json

/-- The value of a string that may be missing. -/
def ofString? : Option String → Json
  | none => null
  | some text => string text

/-- The value of the field with the given name. -/
def get? : Json → String → Option Json
  | object fields, name => (fields.find? (·.1 = name)).map (·.2)
  | _, _ => none

def hexDigit (n : Nat) : Char :=
  if n < 10 then Char.ofNat ('0'.toNat + n) else Char.ofNat ('a'.toNat + (n - 10))

/-- How a character is written inside a string. -/
def escape (c : Char) : List Char :=
  if c = '"' then ['\\', '"']
  else if c = '\\' then ['\\', '\\']
  else if c = '\x08' then ['\\', 'b']
  else if c = '\t' then ['\\', 't']
  else if c = '\n' then ['\\', 'n']
  else if c = '\x0c' then ['\\', 'f']
  else if c = '\r' then ['\\', 'r']
  else if c.toNat < 0x20 then
    ['\\', 'u', '0', '0', hexDigit (c.toNat / 16), hexDigit (c.toNat % 16)]
  else [c]

def quoted (text : String) : List Char :=
  '"' :: text.toList.flatMap escape ++ ['"']

/-- The beginning of a line `depth` levels in. -/
def newLine (depth : Nat) : List Char :=
  '\n' :: List.replicate (2 * depth) ' '

mutual

/-- The text of a value whose brackets are `depth` levels in. -/
def chars (depth : Nat) : Json → List Char
  | null => "null".toList
  | boolean value => (if value then "true" else "false").toList
  | number value => Nat.toDigits 10 value
  | string text => quoted text
  | list items =>
    match items with
    | [] => ['[', ']']
    | item :: rest =>
      '[' :: newLine (depth + 1) ++ item.chars (depth + 1) ++ itemsChars (depth + 1) rest ++
        newLine depth ++ [']']
  | object fields =>
    match fields with
    | [] => ['\x7b', '\x7d']
    | (name, value) :: rest =>
      '\x7b' :: newLine (depth + 1) ++ quoted name ++ [':', ' '] ++ value.chars (depth + 1) ++
        fieldsChars (depth + 1) rest ++ newLine depth ++ ['\x7d']

/-- The text of the items behind the first, each with a comma in front of it. -/
def itemsChars (depth : Nat) : List Json → List Char
  | [] => []
  | item :: rest => ',' :: newLine depth ++ item.chars depth ++ itemsChars depth rest

/-- The text of the fields behind the first, each with a comma in front of it. -/
def fieldsChars (depth : Nat) : List (String × Json) → List Char
  | [] => []
  | (name, value) :: rest =>
    ',' :: newLine depth ++ quoted name ++ [':', ' '] ++ value.chars depth ++
      fieldsChars depth rest

end

def text (value : Json) : String :=
  String.ofList (value.chars 0)

end Json

end ShellLaunch
