import ShellLaunch.Encoding.UnitEscape
import ShellLaunch.Proofs.Encoding.Utf16
import ShellLaunch.Proofs.Text.Numeral

/-!
# Spellings with escaped code units

A character can be written as itself or by its code units, one escape for each. An underscore
that begins what looks like an escape has to be escaped itself; any other can stay, also in
front of an escape. All spellings of a text have the units of that text.
-/

namespace ShellLaunch.Encoding.UnitEscape

open Text (Numeral)

variable {text written rest digits : List Char} {c : Char} {unit : UInt16} {units : List UInt16}

/-- A row of escapes, one for each unit. -/
inductive Escapes : List UInt16 → List Char → Prop where
  | nil : Escapes [] []
  | cons {unit : UInt16} {units : List UInt16} {digits rest : List Char}
      (code : Numeral 16 digits unit.toNat) (four : digits.length = 4)
      (others : Escapes units rest) :
      Escapes (unit :: units) ('_' :: 'x' :: (digits ++ '_' :: rest))

/-- The ways to write a text with escapes. Any character can be escaped; an underscore that
would stand in front of an `x` has to be. -/
inductive Spells : List Char → List Char → Prop where
  | nil : Spells [] []
  | raw {c : Char} {text written : List Char} (bare : c = '_' → written.head? ≠ some 'x')
      (others : Spells text written) : Spells (c :: text) (c :: written)
  | escaped {c : Char} {text escape written : List Char}
      (code : Escapes (Utf16.unitsOfChar c) escape) (others : Spells text written) :
      Spells (c :: text) (escape ++ written)

theorem unitsAfter_escape (code : Numeral 16 digits unit.toNat) (four : digits.length = 4)
    (rest : List Char) :
    unitsAfter 0 ('_' :: 'x' :: (digits ++ '_' :: rest)) = unit :: unitsAfter 0 rest := by
  match digits, four with
  | [a, b, c, d], _ =>
      have read : escapedUnit? ('_' :: 'x' :: a :: b :: c :: d :: '_' :: rest) = some unit := by
        rw [escapedUnit?, Text.digits?_of_numeral code, Option.map_some, UInt16.ofNat_toNat]
      simp only [List.cons_append, List.nil_append]
      rw [unitsAfter, read]
      rfl

theorem unitsAfter_raw (bare : c = '_' → rest.head? ≠ some 'x') :
    unitsAfter 0 (c :: rest) = Utf16.unitsOfChar c ++ unitsAfter 0 rest := by
  have none : escapedUnit? (c :: rest) = none := by
    rw [escapedUnit?]
    rintro a b c d rest same
    obtain ⟨rfl, rfl⟩ := List.cons.inj same
    exact bare rfl rfl
  rw [unitsAfter, none]

theorem unitsAfter_escapes (h : Escapes units text) (rest : List Char) :
    unitsAfter 0 (text ++ rest) = units ++ unitsAfter 0 rest := by
  induction h with
  | nil => rfl
  | cons code four _ ih =>
      simp only [List.cons_append, List.append_assoc]
      rw [unitsAfter_escape code four, ih]

/-- A spelling has the units of the text. -/
theorem units_of_spells (h : Spells text written) :
    UnitEscape.units written = Utf16.encode text := by
  induction h with
  | nil => rfl
  | raw bare _ ih =>
      rw [UnitEscape.units, unitsAfter_raw bare, ← UnitEscape.units, ih]
      rfl
  | escaped code _ ih =>
      rw [UnitEscape.units, unitsAfter_escapes code, ← UnitEscape.units, ih]
      rfl

theorem decode_of_spells (h : Spells text written) : decode written = some text := by
  rw [decode, units_of_spells h, Utf16.decode_encode]

theorem Escapes.of_digits (digits : List Char) (unit : UInt16)
    (code : Text.digits? 16 digits = some unit.toNat) (four : digits.length = 4)
    (others : Escapes units rest) :
    Escapes (unit :: units) ('_' :: 'x' :: (digits ++ '_' :: rest)) :=
  .cons ((Text.digits?_eq_some_iff (by decide)).mp code) four others

theorem escapes_underscore : Escapes (Utf16.unitsOfChar '_') "_x005F_".toList :=
  .of_digits ['0', '0', '5', 'F'] 0x5F rfl rfl .nil

/-- A spelling begins with an `x` only where the text does. -/
theorem Spells.head?_eq_x (h : Spells text written) (first : written.head? = some 'x') :
    text.head? = some 'x' := by
  induction h with
  | nil => exact first
  | raw => exact first
  | @escaped c text escape written code _ ih =>
      generalize unitsOf : Utf16.unitsOfChar c = units at code
      cases code with
      | nil => exact (Utf16.unitsOfChar_ne_nil c unitsOf).elim
      | cons => exact absurd first (by simp)

/-- An underscore can stay that no `x` follows in the text. -/
theorem Spells.raw_of_text (bare : c = '_' → text.head? ≠ some 'x') (others : Spells text written) :
    Spells (c :: text) (c :: written) :=
  .raw (fun same first => bare same (others.head?_eq_x first)) others

theorem exists_spells (text : List Char) : ∃ written, Spells text written := by
  induction text with
  | nil => exact ⟨[], .nil⟩
  | cons c text ih =>
      obtain ⟨written, spelled⟩ := ih
      by_cases bare : c = '_' → text.head? ≠ some 'x'
      · exact ⟨_, .raw_of_text bare spelled⟩
      · obtain ⟨rfl, -⟩ := Classical.not_imp.mp bare
        exact ⟨_, .escaped escapes_underscore spelled⟩

end ShellLaunch.Encoding.UnitEscape
