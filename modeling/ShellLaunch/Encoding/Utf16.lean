/-!
# UTF-16

A character of the first plane is one 16-bit unit; every other character is a high and
a low surrogate. In bytes, the low half of a unit comes first. Reading refuses a
surrogate that has no partner.
-/

namespace ShellLaunch.Encoding.Utf16

def unitsOfChar (c : Char) : List UInt16 :=
  if c.toNat < 0x10000 then [UInt16.ofNat c.toNat]
  else
    [UInt16.ofNat (0xD800 + (c.toNat - 0x10000) / 0x400),
      UInt16.ofNat (0xDC00 + (c.toNat - 0x10000) % 0x400)]

/-- The units of a text. -/
def encode (s : List Char) : List UInt16 :=
  s.flatMap unitsOfChar

/-- Whether a unit is the first half of a pair. -/
def isHigh (unit : UInt16) : Bool :=
  0xD800 ≤ unit && unit ≤ 0xDBFF

/-- Whether a unit is the second half of a pair. -/
def isLow (unit : UInt16) : Bool :=
  0xDC00 ≤ unit && unit ≤ 0xDFFF

/-- The character that a pair of surrogates stands for. -/
def charOfPair (high low : UInt16) : Char :=
  Char.ofNat (0x10000 + (high.toNat - 0xD800) * 0x400 + (low.toNat - 0xDC00))

/-- The text of some units, or `none` where a surrogate stands alone. -/
def decode : List UInt16 → Option (List Char)
  | [] => some []
  | unit :: rest =>
    if isHigh unit then
      match rest with
      | low :: rest =>
        if isLow low then (decode rest).map (charOfPair unit low :: ·) else none
      | [] => none
    else if isLow unit then none
    else (decode rest).map (Char.ofNat unit.toNat :: ·)

/-- The bytes of some units, low half first. -/
def toBytes (units : List UInt16) : List UInt8 :=
  units.flatMap fun unit => [UInt8.ofNat (unit.toNat % 256), UInt8.ofNat (unit.toNat / 256)]

/-- The units that some bytes hold. A byte left over at the end is dropped. -/
def ofBytes : List UInt8 → List UInt16
  | low :: high :: rest => UInt16.ofNat (low.toNat + 256 * high.toNat) :: ofBytes rest
  | _ => []

end ShellLaunch.Encoding.Utf16
