import ShellLaunch.Encoding.Fault
import ShellLaunch.Text.Numeral

/-!
# Character references

In serialized text, `&name;` stands for one character: `amp`, `lt`, `gt`, `quot` and
`apos` for the five characters of markup, `#` and a decimal numeral or `#x` and a
hexadecimal one for the character with that code point. A text is decoded once, from
the left; what a reference yields is never read again.
-/

namespace ShellLaunch.Encoding.Entity

open Text (charOfCode? word?)

/-- The character that the name of a reference stands for. -/
def reference? : List Char → Option Char
  | ['a', 'm', 'p'] => some '&'
  | ['l', 't'] => some '<'
  | ['g', 't'] => some '>'
  | ['q', 'u', 'o', 't'] => some '"'
  | ['a', 'p', 'o', 's'] => some '\''
  | '#' :: 'x' :: digits => (word? UInt32.size 16 digits).bind charOfCode?
  | '#' :: 'X' :: digits => (word? UInt32.size 16 digits).bind charOfCode?
  | '#' :: digits => (word? UInt32.size 10 digits).bind charOfCode?
  | _ => none

/-- Decodes the rest of `text`. Inside a reference, `name?` holds the part of its name
that is read, last character first. -/
def decodeRest (text : List Char) (name? : Option (List Char)) :
    List Char → Except ListFault (List Char)
  | [] =>
    match name? with
    | none => .ok []
    | some _ => .error (.unterminatedEntity (String.ofList text))
  | c :: rest =>
    match name? with
    | none =>
      if c = '&' then decodeRest text (some []) rest
      else (decodeRest text none rest).map (c :: ·)
    | some name =>
      if c = ';' then
        match reference? name.reverse with
        | some d => (decodeRest text none rest).map (d :: ·)
        | none => .error (.unknownEntity (String.ofList name.reverse))
      else decodeRest text (some (c :: name)) rest

/-- The text with every reference replaced by its character. -/
def decode (text : List Char) : Except ListFault (List Char) :=
  decodeRest text none text

end ShellLaunch.Encoding.Entity
