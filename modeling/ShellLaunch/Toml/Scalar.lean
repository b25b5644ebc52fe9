import ShellLaunch.Text.Cut
import ShellLaunch.Text.Numeral
import ShellLaunch.Toml.Value

/-!
# TOML scalars without quotes

Booleans, integers, floating-point numbers and dates with times, each in exactly the
form that TOML gives it.
-/

namespace ShellLaunch.Toml

open Text (cut? digits? split)

/-! ## Numbers -/

/-- The digits of a text that groups them by single underscores between digits. -/
def ungroup? (s : List Char) : Option (List Char) :=
  let groups := split '_' s
  if groups.any List.isEmpty then none else some groups.flatten

/-- The value of grouped digits. -/
def groupedDigits? (radix : Nat) (s : List Char) : Option Nat :=
  (ungroup? s).bind (digits? radix)

/-- The value of the whole part of a decimal number, which has no needless zeros. -/
def whole? : List Char → Option Nat
  | ['0'] => some 0
  | '0' :: _ => none
  | s => groupedDigits? 10 s

/-- A sign and what follows it: whether there is one, whether it is a minus, the rest. -/
def takeSign : List Char → Bool × Bool × List Char
  | '+' :: rest => (true, false, rest)
  | '-' :: rest => (true, true, rest)
  | s => (false, false, s)

def signed (negative : Bool) (n : Nat) : Int :=
  if negative then -(n : Int) else n

/-- The value of an exponent: an optional sign and grouped digits. -/
def exponent? (s : List Char) : Option Int :=
  let (_, negative, digits) := takeSign s
  (groupedDigits? 10 digits).map (signed negative)

/-- What stands in front of the exponent's letter, and the exponent if there is one. -/
def cutExponent (s : List Char) : List Char × Option (List Char) :=
  match cut? ['e'] s with
  | some (front, exponent) => (front, some exponent)
  | none =>
    match cut? ['E'] s with
    | some (front, exponent) => (front, some exponent)
    | none => (s, none)

/-- A decimal number without its sign: an integer, or a floating-point number if it has a
fraction or an exponent. -/
def decimal? (negative : Bool) (s : List Char) : Option Value :=
  let (front, exponentText?) := cutExponent s
  match exponentText?.map exponent? with
  | some none => none
  | exponent =>
    let exponent? := exponent.join
    match cut? ['.'] front with
    | none =>
      match whole? front, exponent? with
      | some n, none => some (.integer (signed negative n))
      | some n, some exponent => some (.float (.decimal negative n exponent))
      | none, _ => none
    | some (whole, fraction) =>
      match whole? whole, ungroup? fraction with
      | some n, some digits =>
        (digits? 10 digits).map fun m =>
          .float (.decimal negative (n * Nat.pow 10 digits.length + m)
            (exponent?.getD 0 - digits.length))
      | _, _ => none

/-- A number. A number with the prefix of its radix has no sign. -/
def number? (s : List Char) : Option Value :=
  let (hasSign, negative, rest) := takeSign s
  match rest with
  | ['i', 'n', 'f'] => some (.float (.infinity negative))
  | ['n', 'a', 'n'] => some (.float .nan)
  | '0' :: 'x' :: digits => if hasSign then none else natural? 16 digits
  | '0' :: 'o' :: digits => if hasSign then none else natural? 8 digits
  | '0' :: 'b' :: digits => if hasSign then none else natural? 2 digits
  | _ => decimal? negative rest
where
  /-- The value of an integer behind the prefix of its radix. -/
  natural? (radix : Nat) (digits : List Char) : Option Value :=
    (groupedDigits? radix digits).map fun n => .integer n

/-! ## Dates and times -/

def pair? (a b : Char) : Option Nat :=
  digits? 10 [a, b]

def daysInMonth (year month : Nat) : Nat :=
  if month = 2 then
    if year % 4 = 0 ∧ (year % 100 ≠ 0 ∨ year % 400 = 0) then 29 else 28
  else if month = 4 ∨ month = 6 ∨ month = 9 ∨ month = 11 then 30
  else 31

def takeDate? : List Char → Option (List Char)
  | y₁ :: y₂ :: y₃ :: y₄ :: '-' :: m₁ :: m₂ :: '-' :: d₁ :: d₂ :: rest =>
    match digits? 10 [y₁, y₂, y₃, y₄], pair? m₁ m₂, pair? d₁ d₂ with
    | some year, some month, some day =>
      if 1 ≤ month ∧ month ≤ 12 ∧ 1 ≤ day ∧ day ≤ daysInMonth year month then some rest
      else none
    | _, _, _ => none
  | _ => none

def takeClock? : List Char → Option (List Char)
  | h₁ :: h₂ :: ':' :: m₁ :: m₂ :: rest =>
    match pair? h₁ h₂, pair? m₁ m₂ with
    | some hour, some minute => if hour ≤ 23 ∧ minute ≤ 59 then some rest else none
    | _, _ => none
  | _ => none

/-- Reads the seconds, if there are any, with a fraction, if there is one. A minute can
have a leap second. -/
def takeSeconds? : List Char → Option (List Char)
  | ':' :: s₁ :: s₂ :: rest =>
    match pair? s₁ s₂ with
    | none => none
    | some second =>
      if 60 < second then none
      else
        match rest with
        | '.' :: fraction =>
          let rest := fraction.dropWhile Char.isDigit
          if rest.length = fraction.length then none else some rest
        | _ => some rest
  | ':' :: _ => none
  | rest => some rest

def takeTime? (s : List Char) : Option (List Char) :=
  (takeClock? s).bind takeSeconds?

/-- Whether a text is an offset from universal time, or empty. -/
def isOffset : List Char → Bool
  | [] => true
  | ['Z'] | ['z'] => true
  | '+' :: clock | '-' :: clock => takeClock? clock == some []
  | _ => false

/-- Whether a text is a date, a time of day, or a date and a time with or without an
offset. -/
def isDateTime (s : List Char) : Bool :=
  match takeDate? s with
  | none => takeTime? s == some []
  | some [] => true
  | some (separator :: rest) =>
    (separator == 'T' || separator == 't' || separator == ' ') && (takeTime? rest).any isOffset

/-- Whether a text is written like a date, so that a time may follow behind a blank. -/
def isDateShaped : List Char → Bool
  | [y₁, y₂, y₃, y₄, '-', m₁, m₂, '-', d₁, d₂] =>
    [y₁, y₂, y₃, y₄, m₁, m₂, d₁, d₂].all Char.isDigit
  | _ => false

/-- The value that a text without quotes stands for. -/
def scalar? (s : List Char) : Option Value :=
  if s = "true".toList then some (.boolean true)
  else if s = "false".toList then some (.boolean false)
  else if isDateTime s then some (.dateTime (String.ofList s))
  else number? s

end ShellLaunch.Toml
