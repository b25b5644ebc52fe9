/-!
# TOML values

A table remembers how it came to be, since that decides what may still be added to it.
A number with a fraction or an exponent is kept exactly.
-/

namespace ShellLaunch.Toml

/-- A floating-point number: a decimal number, an infinity, or not a number. -/
inductive Floating where
  /-- The number `digits * 10 ^ exponent`, or its negative. -/
  | decimal (negative : Bool) (digits : Nat) (exponent : Int)
  | infinity (negative : Bool)
  | nan
  deriving DecidableEq

/-- How a table came to be. -/
inductive Origin where
  /-- Under a header of its own. -/
  | header
  /-- From the header of a table inside it. -/
  | implied
  /-- From a dotted key. -/
  | dotted
  /-- Between braces. -/
  | braces
  deriving DecidableEq

inductive Value where
  | string (text : String)
  | integer (value : Int)
  | float (value : Floating)
  | boolean (value : Bool)
  | dateTime (text : String)
  /-- An array; `ofTables` says that its elements are tables under headers. -/
  | array (ofTables : Bool) (items : List Value)
  | table (origin : Origin) (entries : List (String × Value))

/-- The entries of a table, in the order of their first appearance. -/
abbrev Entries := List (String × Value)

namespace Entries

def get? (entries : Entries) (key : String) : Option Value :=
  (entries.find? (·.1 = key)).map (·.2)

/-- Replaces the value at a key, or adds one at the end. `change` is given the value that
is there and can refuse. -/
def alter? (key : String) (change : Option Value → Option Value) : Entries → Option Entries
  | [] => (change none).map fun value => [(key, value)]
  | (other, value) :: rest =>
    if other = key then (change (some value)).map fun value => (key, value) :: rest
    else (alter? key change rest).map ((other, value) :: ·)

/-- Adds a value at a key that is not there. -/
def insert? (entries : Entries) (key : String) (value : Value) : Option Entries :=
  entries.alter? key fun
    | none => some value
    | some _ => none

end Entries

namespace Floating

/-- The least number that overflows a double: halfway from the largest double to two to
the 1024th. What is smaller rounds to a finite double. -/
def overflowBound : Nat := Nat.pow 2 1024 - Nat.pow 2 970

/-- Whether a number is too large for a double. The number of digits settles this for
all but numbers close to the bound. -/
def overflows : Floating → Bool
  | decimal _ digits exponent =>
    let magnitude := ((Nat.toDigits 10 digits).length : Int) + exponent
    if digits = 0 ∨ magnitude ≤ 308 then false
    else if 311 ≤ magnitude then true
    else if 0 ≤ exponent then overflowBound ≤ digits * Nat.pow 10 exponent.toNat
    else overflowBound * Nat.pow 10 (-exponent).toNat ≤ digits
  | _ => false

end Floating

mutual

/-- Whether a value can be taken up by a reader that does not know what it is for: its
integers fit into 128 bits, signed or unsigned, and its numbers into doubles. -/
def Value.isReadable : Value → Bool
  | .integer value =>
    -0x80000000000000000000000000000000 ≤ value && value ≤ 0xFFFFFFFFFFFFFFFFFFFFFFFFFFFFFFFF
  | .float value => !value.overflows
  | .array _ items => areReadable items
  | .table _ entries => entriesReadable entries
  | _ => true

def areReadable : List Value → Bool
  | [] => true
  | item :: items => item.isReadable && areReadable items

def entriesReadable : List (String × Value) → Bool
  | [] => true
  | (_, value) :: entries => value.isReadable && entriesReadable entries

end

end ShellLaunch.Toml
