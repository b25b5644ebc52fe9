import ShellLaunch.Encoding.Utf16
import ShellLaunch.Text.Numeral

/-!
# Escaped code units

Serialized strings write a UTF-16 code unit that markup cannot hold as `_xHHHH_`, with
four hexadecimal digits. Escapes are units and not characters, so a character outside
the first plane takes two of them. An underscore that begins no complete escape stands
for itself.
-/

namespace ShellLaunch.Encoding.UnitEscape

/-- The unit that the text begins with in escaped form, if it does. -/
def escapedUnit? : List Char → Option UInt16
  | '_' :: 'x' :: a :: b :: c :: d :: '_' :: _ =>
    (Text.digits? 16 [a, b, c, d]).map UInt16.ofNat
  | _ => none

/-- The units of a text from which `skip` characters are still to be dropped, because
they belong to the escape just read. -/
def unitsAfter (skip : Nat) : List Char → List UInt16
  | [] => []
  | c :: rest =>
    match skip with
    | skip + 1 => unitsAfter skip rest
    | 0 =>
      match escapedUnit? (c :: rest) with
      | some unit => unit :: unitsAfter 6 rest
      | none => Utf16.unitsOfChar c ++ unitsAfter 0 rest

/-- The units of a text, with escapes replaced by the units they stand for. -/
def units (text : List Char) : List UInt16 :=
  unitsAfter 0 text

/-- The text with its escapes undone, or `none` where that leaves a surrogate alone. -/
def decode (text : List Char) : Option (List Char) :=
  Utf16.decode (units text)

end ShellLaunch.Encoding.UnitEscape
