import ShellLaunch.Encoding.Command
import ShellLaunch.Encoding.Entity
import ShellLaunch.Encoding.UnitEscape
import ShellLaunch.Text.Blank
import ShellLaunch.Text.Cut

/-!
# Serialized argument lists

An argument list travels as a serialized object: a document whose root is `<Objs` and
which holds one list, `<LST>` to `</LST>`, of strings. A string is `<S>` to `</S>` with
character references and escaped code units inside, or `<S/>` when it is empty. Blanks
between strings are not significant; anything else in the list is refused, and so is
the whole document.
-/

namespace ShellLaunch.Encoding.ArgumentList

open Text (cut? isBlank trimStart)

/-- The string that the text between `<S>` and `</S>` stands for. -/
def decodeItem (text : List Char) : Except Fault String :=
  match Entity.decode text with
  | .error fault => .error (.list fault)
  | .ok text =>
    match UnitEscape.decode text with
    | none => .error .unpairedSurrogate
    | some text => .ok (String.ofList text)

/-- The tag at the start of a text, for messages: up to the first `>`. -/
def tag (s : List Char) : String :=
  match cut? ['>'] s with
  | some (before, _) => String.ofList (before ++ ['>'])
  | none => String.ofList s

/-- The strings in the rest of a list's body. Inside a string, `inside?` holds the part
of it that is read, last character first. -/
def readItems (inside? : Option (List Char)) : List Char → Except Fault (List String)
  | [] =>
    match inside? with
    | none => .ok []
    | some _ => .error (.list .unterminatedItem)
  | c :: rest =>
    match inside? with
    | none =>
      match c, rest with
      | '<', 'S' :: '/' :: '>' :: rest => (readItems none rest).map ("" :: ·)
      | '<', 'S' :: ' ' :: '/' :: '>' :: rest => (readItems none rest).map ("" :: ·)
      | '<', 'S' :: '>' :: rest => readItems (some []) rest
      | c, rest =>
        if isBlank c then readItems none rest
        else .error (.list (.unsupportedItem (tag (c :: rest))))
    | some inside =>
      match c, rest with
      | '<', '/' :: 'S' :: '>' :: rest =>
        match decodeItem inside.reverse with
        | .error fault => .error fault
        | .ok item => (readItems none rest).map (item :: ·)
      | c, rest => readItems (some (c :: inside)) rest

/-- The strings of a serialized document. -/
def parse (document : List Char) : Except Fault (List String) :=
  if !"<Objs".toList.isPrefixOf (trimStart document) then .error (.list .missingRoot)
  else
    match cut? "<LST>".toList document with
    | none => .error (.list .missingList)
    | some (_, rest) =>
      match cut? "</LST>".toList rest with
      | none => .error (.list .unterminatedList)
      | some (body, _) => readItems none body

end ArgumentList

/-- The arguments that an encoded value stands for. -/
def decodeArguments (value : String) : Except Fault (List String) :=
  match decodeCommand value with
  | .error fault => .error fault
  | .ok document => ArgumentList.parse document.toList

end ShellLaunch.Encoding
