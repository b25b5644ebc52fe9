import ShellLaunch.FileTree
import ShellLaunch.Settings.Basic
import ShellLaunch.Toml.Document

/-!
# Loading settings

Settings are read from a TOML document with two sections, `platform` and `logging`. A
section or a key that is left out has its default; other sections and keys are ignored.
A section can also be written as an array, whose elements are its values in order, or as a
date or a time, which has none of its keys.

A file that is missing gives the default settings; one that is there has to be readable
text, well formed and valid.
-/

namespace ShellLaunch

namespace Toml

/-- The fields of a section, looked for by name. -/
def Value.fields? (names : List String) : Value → Option Entries
  | .table _ entries =>
    if entriesReadable (entries.filter fun entry => !names.contains entry.1) then some entries
    else none
  | .array _ items => some (names.zip items)
  | .dateTime _ => some []
  | _ => none

/-- The field with the given name, read by `read`; `default` if it is left out. -/
def Entries.field? {α : Type} (fields : Entries) (name : String) (default : α)
    (read : Value → Option α) : Option α :=
  match fields.get? name with
  | none => some default
  | some value => read value

def Value.bool? : Value → Option Bool
  | .boolean value => some value
  | _ => none

/-- Reads an unsigned integer of 64 bits. -/
def Value.count? : Value → Option Nat
  | .integer value =>
    if 0 ≤ value ∧ value ≤ 0xFFFFFFFFFFFFFFFF then some value.toNat else none
  | _ => none

def Value.text? : Value → Option String
  | .string text => some text
  | _ => none

end Toml

def Overrides.ofToml? (value : Toml.Value) : Option Overrides := do
  let fields ← value.fields? ["windows", "desktop_apartments", "max_pipe_name_length"]
  let windows ← fields.field? "windows" .none fun value => value.bool?.map some
  let desktopApartments ←
    fields.field? "desktop_apartments" .none fun value => value.bool?.map some
  let maxPipeNameLength ←
    fields.field? "max_pipe_name_length" .none fun value => value.count?.map some
  return { windows, desktopApartments, maxPipeNameLength }

namespace Settings

def filterOfToml? (value : Toml.Value) : Option String := do
  let fields ← value.fields? ["filter"]
  fields.field? "filter" defaultFilter Toml.Value.text?

def ofToml? (document : Toml.Entries) : Option Settings := do
  let fields ← (Toml.Value.table .header document).fields? ["platform", "logging"]
  let overrides ← fields.field? "platform" .none Overrides.ofToml?
  let filter ← fields.field? "logging" defaultFilter filterOfToml?
  return { overrides, filter }

def parse? (text : String) : Option Settings :=
  (Toml.parse? text.toList).bind ofToml?

/-- The settings at a path that leads to `found`. -/
def load (path : String) (found : Option Entry) : Except SettingsFault Settings :=
  match found with
  | none => .ok default
  | some .directory => .error (.unreadable path "Is a directory (os error 21)")
  | some (.unreadable reason) => .error (.unreadable path reason)
  | some (.file content) =>
    match String.fromUTF8? content with
    | none => .error (.unreadable path "stream did not contain valid UTF-8")
    | some text =>
      match parse? text with
      | none => .error (.malformed path)
      | some settings =>
        match settings.fault? with
        | some fault => .error fault
        | none => .ok settings

end Settings

end ShellLaunch
