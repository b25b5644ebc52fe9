import ShellLaunch.Toml.Value

/-!
# Building TOML tables

Headers and dotted keys lead through tables that they make on the way. A table has one
place where it is defined: neither a second header nor a dotted key can add to a table
under a header, a header cannot reopen a table from dotted keys, and nothing can add to
a table between braces. Where a path meets an array of tables, it goes on in the last.
-/

namespace ShellLaunch.Toml.Entries

/-- Changes the last element of a list; an empty list is refused. -/
def alterLast? (change : Value → Option Value) : List Value → Option (List Value)
  | [] => none
  | [value] => (change value).map fun value => [value]
  | value :: rest => (alterLast? change rest).map (value :: ·)

/-- Changes the table that a header's path leads to, making implied tables on the way. -/
def alterUnder? (change : Entries → Option Entries) : List String → Entries → Option Entries
  | [], entries => change entries
  | key :: path, entries =>
    entries.alter? key fun
      | none => (alterUnder? change path []).map (.table .implied)
      | some (.table .braces _) => none
      | some (.table origin inner) => (alterUnder? change path inner).map (.table origin)
      | some (.array true items) =>
        (alterLast? (fun
          | .table origin inner => (alterUnder? change path inner).map (.table origin)
          | _ => none) items).map (.array true)
      | some _ => none

/-- Begins a table under a header. A table that is only implied so far becomes defined. -/
def openTable? (path : List String) (key : String) (entries : Entries) : Option Entries :=
  entries.alterUnder? (fun inner =>
    inner.alter? key fun
      | none => some (.table .header [])
      | some (.table .implied entries) => some (.table .header entries)
      | some _ => none) path

/-- Begins a further table of an array of tables. -/
def openElement? (path : List String) (key : String) (entries : Entries) : Option Entries :=
  entries.alterUnder? (fun inner =>
    inner.alter? key fun
      | none => some (.array true [.table .header []])
      | some (.array true items) => some (.array true (items ++ [.table .header []]))
      | some _ => none) path

/-- Adds a value at a dotted key. The tables on the way may be implied ones, but the last
has to come from a dotted key as well. -/
def insertDotted? (value : Value) : List String → String → Entries → Option Entries
  | [], key, entries => entries.insert? key value
  | part :: path, key, entries =>
    entries.alter? part fun
      | none => (insertDotted? value path key []).map (.table .dotted)
      | some (.table .dotted inner) => (insertDotted? value path key inner).map (.table .dotted)
      | some (.table .implied inner) =>
        if path = [] then none
        else (insertDotted? value path key inner).map (.table .implied)
      | some (.array true items) =>
        if path = [] then none
        else
          (alterLast? (fun
            | .table origin inner => (insertDotted? value path key inner).map (.table origin)
            | _ => none) items).map (.array true)
      | some _ => none

end ShellLaunch.Toml.Entries
