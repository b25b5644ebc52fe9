import ShellLaunch.Encoding.Utf16
import ShellLaunch.Proofs.Json
import ShellLaunch.Proofs.Text.Numeral

/-!
# What is written is JSON

The grammar of JSON texts, for the values that there are here: numbers have neither a sign nor a
fraction or an exponent. Blanks can stand around every element and around every colon, and a
character of a string can be written as itself, with a letter, or by its code units. The text of
a value is one of the ways to write it (`spells_text`).
-/

namespace ShellLaunch.Json

open Encoding (Utf16.unitsOfChar)
open Text (Numeral)

/-! ### The grammar -/

def IsBlank (s : List Char) : Prop :=
  ∀ c ∈ s, c ∈ [' ', '\t', '\n', '\r']

/-- The characters that can be escaped with a letter, and these letters. -/
def letters : List (Char × Char) :=
  [('"', '"'), ('\\', '\\'), ('/', '/'), ('\x08', 'b'), ('\x0c', 'f'), ('\n', 'n'), ('\r', 'r'),
    ('\t', 't')]

/-- A row of escapes, one for each unit. -/
inductive Escapes : List UInt16 → List Char → Prop where
  | nil : Escapes [] []
  | cons {unit : UInt16} {units : List UInt16} {digits rest : List Char}
      (code : Numeral 16 digits unit.toNat) (four : digits.length = 4)
      (others : Escapes units rest) : Escapes (unit :: units) ('\\' :: 'u' :: digits ++ rest)

/-- The ways to write a character inside a string. -/
inductive SpellsChar : Char → List Char → Prop where
  | raw {c : Char} (notQuote : c ≠ '"') (notBackslash : c ≠ '\\') (notControl : 0x20 ≤ c.toNat) :
      SpellsChar c [c]
  | letter {c letter : Char} (known : (c, letter) ∈ letters) : SpellsChar c ['\\', letter]
  | code {c : Char} {written : List Char} (escapes : Escapes (Utf16.unitsOfChar c) written) :
      SpellsChar c written

/-- The ways to write what is between the quotes of a string. -/
inductive SpellsChars : List Char → List Char → Prop where
  | nil : SpellsChars [] []
  | cons {c : Char} {text written rest : List Char} (first : SpellsChar c written)
      (others : SpellsChars text rest) : SpellsChars (c :: text) (written ++ rest)

/-- The ways to write a string with its quotes. -/
inductive SpellsString : String → List Char → Prop where
  | quoted {text : String} {written : List Char} (inside : SpellsChars text.toList written) :
      SpellsString text ('"' :: written ++ ['"'])

/-- Elements with commas between them and blanks around them. -/
inductive Elements {α : Type} (spells : α → List Char → Prop) : List α → List Char → Prop where
  | last {x : α} {before written after : List Char} (blank : IsBlank before)
      (spelled : spells x written) (blank' : IsBlank after) :
      Elements spells [x] (before ++ written ++ after)
  | cons {x : α} {xs : List α} {before written after rest : List Char} (blank : IsBlank before)
      (spelled : spells x written) (blank' : IsBlank after) (others : Elements spells xs rest) :
      Elements spells (x :: xs) (before ++ written ++ after ++ ',' :: rest)

/-- A field is a name, a colon and a value. -/
inductive SpellsField (spells : Json → List Char → Prop) : String × Json → List Char → Prop where
  | colon {name : String} {value : Json} {written before after rest : List Char}
      (named : SpellsString name written) (blank : IsBlank before) (blank' : IsBlank after)
      (spelled : spells value rest) :
      SpellsField spells (name, value) (written ++ before ++ ':' :: after ++ rest)

/-- The ways to write a value. Only the number zero begins with the digit zero. -/
inductive Spells : Json → List Char → Prop where
  | null : Spells .null "null".toList
  | false : Spells (.boolean false) "false".toList
  | true : Spells (.boolean true) "true".toList
  | number {value : Nat} {digits : List Char} (numeral : Numeral 10 digits value)
      (zero : digits.head? = some '0' → digits = ['0']) : Spells (.number value) digits
  | string {text : String} {written : List Char} (spelled : SpellsString text written) :
      Spells (.string text) written
  | emptyList {blanks : List Char} (blank : IsBlank blanks) :
      Spells (.list []) ('[' :: blanks ++ [']'])
  | list {items : List Json} {written : List Char} (elements : Elements Spells items written) :
      Spells (.list items) ('[' :: written ++ [']'])
  | emptyObject {blanks : List Char} (blank : IsBlank blanks) :
      Spells (.object []) ('\x7b' :: blanks ++ ['\x7d'])
  | object {fields : List (String × Json)} {written : List Char}
      (elements : Elements (SpellsField Spells) fields written) :
      Spells (.object fields) ('\x7b' :: written ++ ['\x7d'])

variable {c : Char} {depth : Nat} {α : Type} {spells : α → List Char → Prop}
variable {written : α → List Char}

/-! ### Strings -/

theorem spellsChar_escape_of_mem (member : c ∈ escaped) : SpellsChar c (escape c) := by
  have table : escaped.all fun c =>
      (letters.any fun entry => entry.1 == c && escape c == ['\\', entry.2]) ||
        ((escape c).take 2 == ['\\', 'u'] && ((escape c).drop 2).length == 4 &&
          (Utf16.unitsOfChar c).map (some ·.toNat) ==
            [Text.digits? 16 ((escape c).drop 2)]) := by decide +kernel
  have entry := List.all_eq_true.mp table c member
  rcases Bool.or_eq_true_iff.mp entry with lettered | coded
  · obtain ⟨⟨d, letter⟩, known, same⟩ := List.any_eq_true.mp lettered
    simp only [Bool.and_eq_true, beq_iff_eq] at same
    obtain ⟨rfl, written⟩ := same
    rw [written]
    exact .letter known
  · simp only [Bool.and_eq_true, beq_iff_eq] at coded
    obtain ⟨⟨start, four⟩, units⟩ := coded
    obtain ⟨unit, units_eq, read⟩ := List.map_eq_singleton_iff.mp units
    have code : Numeral 16 ((escape c).drop 2) unit.toNat :=
      (Text.digits?_eq_some_iff (by decide)).mp read.symm
    have written := Escapes.cons code four .nil
    rw [List.append_nil] at written
    rw [← List.take_append_drop 2 (escape c), start]
    refine .code ?_
    rw [units_eq]
    exact written

theorem spellsChar_escape (c : Char) : SpellsChar c (escape c) := by
  by_cases member : c ∈ escaped
  · exact spellsChar_escape_of_mem member
  · rw [escape_of_not_mem member]
    refine .raw ?_ ?_ (le_toNat_of_not_mem member)
    · rintro rfl
      exact member (by decide)
    · rintro rfl
      exact member (by decide)

theorem spellsString_quoted (text : String) : SpellsString text (quoted text) := by
  have inside : ∀ text : List Char, SpellsChars text (text.flatMap escape) := by
    intro text
    induction text with
    | nil => exact .nil
    | cons c text ih => exact .cons (spellsChar_escape c) ih
  exact .quoted (inside text.toList)

/-! ### Numbers -/

theorem numeral_toDigits (n : Nat) : Numeral 10 (Nat.toDigits 10 n) n := by
  have known : ∀ m < 10, (Nat.digitChar m, m) ∈ Text.digitValues := by decide
  induction n using Nat.strongRecOn with
  | ind n ih =>
      rw [Nat.toDigits_eq_if (by decide)]
      split
      next small => exact .digit (known n small) small
      next =>
        have last : n % 10 < 10 := Nat.mod_lt n (by decide)
        have whole := Numeral.concat (ih (n / 10) (by omega)) (known _ last) last
        rwa [Nat.div_add_mod' n 10] at whole

/-- A numeral has no zero in front of other digits. -/
theorem eq_zero_of_head_toDigits {n : Nat} (zero : (Nat.toDigits 10 n).head? = some '0') :
    n = 0 := by
  have digit : ∀ m < 10, Nat.digitChar m = '0' → m = 0 := by decide
  induction n using Nat.strongRecOn with
  | ind n ih =>
      rw [Nat.toDigits_eq_if (by decide)] at zero
      split at zero
      next small => exact digit n small (Option.some.inj zero)
      next large =>
        obtain ⟨first, rest, digits⟩ :=
          List.exists_cons_of_ne_nil (Nat.toDigits_ne_nil : Nat.toDigits 10 (n / 10) ≠ [])
        rw [digits, List.cons_append, List.head?_cons] at zero
        have high : n / 10 = 0 := ih (n / 10) (by omega) (by rw [digits, List.head?_cons, zero])
        omega

/-! ### Brackets -/

theorem isBlank_nil : IsBlank [] := nofun

theorem isBlank_newLine (depth : Nat) : IsBlank (newLine depth) := by
  intro c member
  rcases List.mem_cons.mp member with rfl | space
  · decide
  · rw [List.eq_of_mem_replicate space]
    decide

/-- The lines between brackets are elements, each with a new line in front of it. -/
theorem elements_lines {x : α} {xs : List α} (spelled : ∀ y ∈ x :: xs, spells y (written y)) :
    Elements spells (x :: xs) (newLine (depth + 1) ++ written x ++
      (xs.flatMap (line (depth + 1) written) ++ newLine depth)) := by
  induction xs generalizing x with
  | nil => exact .last (isBlank_newLine _) (spelled x List.mem_cons_self) (isBlank_newLine _)
  | cons y ys ih =>
      obtain ⟨first, others⟩ := List.forall_mem_cons.mp spelled
      have rest := Elements.cons (isBlank_newLine (depth + 1)) first isBlank_nil (ih others)
      simpa [line] using rest

/-! ### Values -/

theorem spellsField_fieldChars {field : String × Json}
    (spelled : Spells field.2 (field.2.chars depth)) :
    SpellsField Spells field (fieldChars depth field) := by
  have space : IsBlank [' '] := by simp [IsBlank]
  have whole := SpellsField.colon (spellsString_quoted field.1) isBlank_nil space spelled
  simpa [fieldChars] using whole

theorem spells_chars (value : Json) : ∀ depth, Spells value (value.chars depth) := by
  induction value using induct with
  | null => exact fun _ => .null
  | boolean value =>
      intro depth
      cases value with
      | false => exact .false
      | true => exact .true
  | number value =>
      intro depth
      refine .number (numeral_toDigits value) ?_
      intro zero
      obtain rfl := eq_zero_of_head_toDigits zero
      rfl
  | string text => exact fun _ => .string (spellsString_quoted text)
  | list items spelled =>
      intro depth
      rw [chars_list]
      cases items with
      | nil => exact .emptyList isBlank_nil
      | cons item items =>
          have each : ∀ other ∈ item :: items, Spells other (other.chars (depth + 1)) :=
            fun other member => spelled other member (depth + 1)
          simpa [bracketed] using Spells.list (elements_lines each)
  | object fields spelled =>
      intro depth
      rw [chars_object]
      cases fields with
      | nil => exact .emptyObject isBlank_nil
      | cons field fields =>
          have each : ∀ other ∈ field :: fields,
              SpellsField Spells other (fieldChars (depth + 1) other) :=
            fun other member => spellsField_fieldChars (spelled other member (depth + 1))
          simpa [bracketed] using Spells.object (elements_lines each)

/-- The text of a value is a way to write it. -/
theorem spells_text (value : Json) : Spells value value.text.toList := by
  rw [text, String.toList_ofList]
  exact spells_chars value 0

end ShellLaunch.Json
