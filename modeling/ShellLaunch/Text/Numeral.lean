/-!
# Numerals

A numeral is an optional plus sign and at least one digit. It is read into a machine word,
digit by digit, and is refused where it does not fit, so that a long numeral is never
taken for a small one. Of numbers with a fraction or an exponent only the form is told.
-/

namespace ShellLaunch.Text

/-- The value of a digit in the given radix; letters of either case go on after `9`. -/
def digit? (radix : Nat) (c : Char) : Option Nat :=
  let value? :=
    if '0' ≤ c ∧ c ≤ '9' then some (c.toNat - '0'.toNat)
    else if 'a' ≤ c ∧ c ≤ 'z' then some (c.toNat - 'a'.toNat + 10)
    else if 'A' ≤ c ∧ c ≤ 'Z' then some (c.toNat - 'A'.toNat + 10)
    else none
  value?.filter (· < radix)

/-- The value of a text of digits that continues a numeral worth `high`. -/
def digitsAfter? (radix : Nat) (high : Nat) : List Char → Option Nat
  | [] => some high
  | c :: rest =>
    match digit? radix c with
    | some low => digitsAfter? radix (high * radix + low) rest
    | none => none

def digits? (radix : Nat) : List Char → Option Nat
  | [] => none
  | s => digitsAfter? radix 0 s

/-- The value of a text of digits that continues a numeral worth `high`, where all of it
fits into a machine word with `size` values. Reading ends at the digit that makes the value
too large. -/
def wordAfter? (size radix : Nat) (high : Nat) : List Char → Option Nat
  | [] => some high
  | c :: rest =>
    match digit? radix c with
    | some low =>
      if high * radix + low < size then wordAfter? size radix (high * radix + low) rest
      else none
    | none => none

def wordDigits? (size radix : Nat) : List Char → Option Nat
  | [] => none
  | s => wordAfter? size radix 0 s

/-- The value of a numeral, where it fits into a machine word with `size` values. -/
def word? (size radix : Nat) : List Char → Option Nat
  | '+' :: s => wordDigits? size radix s
  | s => wordDigits? size radix s

def charOfCode? (code : Nat) : Option Char :=
  if code.isValidChar then some (Char.ofNat code) else none

/-- The number of hexadecimal digits of an escape by code point, which its letter tells. -/
def codeLength? : Char → Option Nat
  | 'x' => some 2
  | 'u' => some 4
  | 'U' => some 8
  | _ => none

/-- What follows the sign in front of a number, if there is one. -/
def dropSign : List Char → List Char
  | '+' :: s | '-' :: s => s
  | s => s

/-- Whether a text is the exponent of a decimal number: nothing, or the letter `e`, a sign
that can be left out, and digits. -/
def isExponent : List Char → Bool
  | [] => true
  | c :: s => (c == 'e' || c == 'E') && (digits? 10 (dropSign s)).isSome

/-- Whether a text is a decimal number without its sign: digits with a point among, before
or behind them, or without one, and an exponent. -/
def isDecimal (s : List Char) : Bool :=
  match s.span Char.isDigit with
  | (whole, '.' :: s) =>
    let (fraction, exponent) := s.span Char.isDigit
    !(whole.isEmpty && fraction.isEmpty) && isExponent exponent
  | (whole, exponent) => !whole.isEmpty && isExponent exponent

/-- The names of what a number can be other than finite. -/
def nonFiniteNames : List String :=
  ["inf", "infinity", "nan"]

/-- Whether a text is a number: a sign that can be left out, and a decimal number or the
name of one that is not finite, in any ASCII case. -/
def isNumber (s : List Char) : Bool :=
  let s := dropSign s
  isDecimal s || nonFiniteNames.any fun name => name.toList == s.map Char.toLower

end ShellLaunch.Text
