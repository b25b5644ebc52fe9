/-!
# Base64

The standard alphabet with mandatory canonical padding. Bytes are written in groups
of three as four symbols of six bits; a last group of one or two bytes is written as
two or three symbols and filled up with `=`. The bits of the last symbol that carry
nothing are zero.

Reading refuses everything that writing does not produce. A text with several faults
is refused for the first of them in a fixed order: a stray symbol where one is left
over after the last group, the first foreign symbol in front of the last group, the
faults inside the last group from the left, its length, its padding, and the unused
bits.
-/

namespace ShellLaunch.Encoding.Base64

/-- Why a text is not base64. Offsets count the bytes of the text. -/
inductive Fault where
  | symbol (byte : UInt8) (offset : Nat)
  | length (count : Nat)
  | lastSymbol (byte : UInt8) (offset : Nat)
  | padding
  deriving DecidableEq

def Fault.message : Fault → String
  | .symbol byte offset => s!"Invalid symbol {byte.toNat}, offset {offset}."
  | .length count => s!"Invalid input length: {count}"
  | .lastSymbol byte offset => s!"Invalid last symbol {byte.toNat}, offset {offset}."
  | .padding => "Invalid padding"

def pad : UInt8 := 0x3D

/-- The symbol for six bits. -/
def symbolOf (bits : Nat) : UInt8 :=
  if bits < 26 then UInt8.ofNat (bits + 0x41)
  else if bits < 52 then UInt8.ofNat (bits - 26 + 0x61)
  else if bits < 62 then UInt8.ofNat (bits - 52 + 0x30)
  else if bits = 62 then 0x2B
  else 0x2F

/-- The six bits a symbol stands for: `A` to `Z`, `a` to `z`, `0` to `9`, `+`, `/`. -/
def bits? (symbol : UInt8) : Option Nat :=
  if 0x41 ≤ symbol ∧ symbol ≤ 0x5A then some (symbol.toNat - 0x41)
  else if 0x61 ≤ symbol ∧ symbol ≤ 0x7A then some (symbol.toNat - 0x61 + 26)
  else if 0x30 ≤ symbol ∧ symbol ≤ 0x39 then some (symbol.toNat - 0x30 + 52)
  else if symbol = 0x2B then some 62
  else if symbol = 0x2F then some 63
  else none

/-! ## Writing -/

/-- The base64 text of some bytes, as the bytes of that text. -/
def encode : List UInt8 → List UInt8
  | a :: b :: c :: rest =>
    symbolOf (a.toNat / 4) :: symbolOf (a.toNat % 4 * 16 + b.toNat / 16) ::
      symbolOf (b.toNat % 16 * 4 + c.toNat / 64) :: symbolOf (c.toNat % 64) :: encode rest
  | [a, b] =>
    [symbolOf (a.toNat / 4), symbolOf (a.toNat % 4 * 16 + b.toNat / 16),
      symbolOf (b.toNat % 16 * 4), pad]
  | [a] => [symbolOf (a.toNat / 4), symbolOf (a.toNat % 4 * 16), pad, pad]
  | [] => []

/-! ## Reading -/

/-- Where the last group of a text begins. A text that does not end with a full group
ends with the symbols left over. -/
def lastGroupStart (length : Nat) : Nat :=
  if length % 4 = 0 then length - 4 else length - length % 4

/-- The bits of symbols that stand in front of the last group, the first of them at
`offset`. -/
def readGroups (offset : Nat) : List UInt8 → Except Fault (List Nat)
  | [] => .ok []
  | symbol :: rest =>
    match bits? symbol with
    | none => .error (.symbol symbol offset)
    | some bits => (readGroups (offset + 1) rest).map (bits :: ·)

/-- The last group as read: the bits of its symbols and the number of `=` after them. -/
structure LastGroup where
  bits : List Nat
  padding : Nat

/-- Reads the last group, which begins at `start`. `seen` holds what is read of it so
far. A `=` among the first two symbols or in front of another symbol is foreign. -/
def readLastGroup (start : Nat) (seen : LastGroup) : List UInt8 → Except Fault LastGroup
  | [] => .ok seen
  | symbol :: rest =>
    let offset := start + seen.bits.length + seen.padding
    if symbol = pad then
      if seen.bits.length + seen.padding < 2 then .error (.symbol symbol offset)
      else readLastGroup start { seen with padding := seen.padding + 1 } rest
    else if seen.padding ≠ 0 then .error (.symbol pad (start + seen.bits.length))
    else
      match bits? symbol with
      | none => .error (.symbol symbol offset)
      | some bits => readLastGroup start { seen with bits := seen.bits ++ [bits] } rest

/-- Whether the bits that a short last group does not need are zero. -/
def unusedBitsClear : List Nat → Bool
  | [_, b] => b % 16 == 0
  | [_, _, c] => c % 4 == 0
  | _ => true

/-- The bytes of a text's symbols. -/
def bytesOfBits : List Nat → List UInt8
  | a :: b :: c :: d :: rest =>
    UInt8.ofNat (a * 4 + b / 16) :: UInt8.ofNat (b % 16 * 16 + c / 4) ::
      UInt8.ofNat (c % 4 * 64 + d) :: bytesOfBits rest
  | [a, b, c] => [UInt8.ofNat (a * 4 + b / 16), UInt8.ofNat (b % 16 * 16 + c / 4)]
  | [a, b] => [UInt8.ofNat (a * 4 + b / 16)]
  | _ => []

/-- A symbol left over behind the last full group, if it is foreign and not `=`. -/
def strayLast? (text : List UInt8) : Option Fault :=
  if text.length % 4 = 1 then
    match text.getLast? with
    | some last =>
      if last = pad ∨ (bits? last).isSome then none else some (.symbol last (text.length - 1))
    | none => none
  else none

/-- What is wrong with a last group whose symbols are all in place. -/
def LastGroup.fault? (text : List UInt8) (group : LastGroup) : Option Fault :=
  let start := lastGroupStart text.length
  if text ≠ [] ∧ group.bits.length < 2 then some (.length (start + group.bits.length))
  else if (group.padding + group.bits.length) % 4 ≠ 0 then some .padding
  else if unusedBitsClear group.bits then none
  else
    let offset := start + group.bits.length - 1
    some (.lastSymbol (text.getD offset 0) offset)

def decode (text : List UInt8) : Except Fault (List UInt8) :=
  match strayLast? text with
  | some fault => .error fault
  | none =>
    let start := lastGroupStart text.length
    match readGroups 0 (text.take start) with
    | .error fault => .error fault
    | .ok front =>
      match readLastGroup start ⟨[], 0⟩ (text.drop start) with
      | .error fault => .error fault
      | .ok group =>
        match group.fault? text with
        | some fault => .error fault
        | none => .ok (bytesOfBits (front ++ group.bits))

end ShellLaunch.Encoding.Base64
