import ShellLaunch.Encoding.ArgumentList
import ShellLaunch.Proofs.Encoding.UnitEscape
import ShellLaunch.Proofs.Text.Boundary
import ShellLaunch.Proofs.Text.Cut

/-!
# Escapes are found by search

Escaped units are found faster by a search for the two characters that an escape begins with
than by a look at each character. The search leaves everything in front of them as it is, cuts
the text behind them by positions in bytes and goes on behind the escape, or, where there is
none, behind the two characters. It comes to the same units as a scan from character to
character (`search?_eq`), and no cut it takes goes through a character.
-/

namespace ShellLaunch.Encoding.UnitEscape

open Text (Numeral cut? behind? between? byteSize isBoundary)

variable {text before after tail rest digits : List Char} {c : Char} {unit : UInt16}
  {units : List UInt16}

/-! ### The scan -/

/-- The text begins with an escape of the unit, and `rest` stands behind the escape. -/
def Begins (unit : UInt16) (rest text : List Char) : Prop :=
  ∃ digits, text = '_' :: 'x' :: (digits ++ '_' :: rest) ∧ digits.length = 4 ∧
    Numeral 16 digits unit.toNat

/-- The units of a text, found from left to right: that of an escape where one begins, and
otherwise those of the character. -/
inductive Scan : List Char → List UInt16 → Prop where
  | nil : Scan [] []
  | escape {unit : UInt16} {rest text : List Char} {units : List UInt16}
      (begins : Begins unit rest text) (others : Scan rest units) : Scan text (unit :: units)
  | char {c : Char} {rest : List Char} {units : List UInt16}
      (none : ∀ unit behind, ¬ Begins unit behind (c :: rest)) (others : Scan rest units) :
      Scan (c :: rest) (Utf16.unitsOfChar c ++ units)

/-- Four digits are worth less than a unit can hold. -/
theorem digits?_map_ofNat_eq_some_iff (four : digits.length = 4) :
    (Text.digits? 16 digits).map UInt16.ofNat = some unit ↔ Numeral 16 digits unit.toNat := by
  rw [Option.map_eq_some_iff]
  constructor
  · rintro ⟨value, read, rfl⟩
    have numeral := (Text.digits?_eq_some_iff (by decide)).mp read
    have small := numeral.lt_pow
    rw [four] at small
    rwa [UInt16.toNat_ofNat_of_lt' small]
  · intro numeral
    exact ⟨unit.toNat, Text.digits?_of_numeral numeral, UInt16.ofNat_toNat⟩

theorem escapedUnit?_eq_some_iff :
    escapedUnit? text = some unit ↔ ∃ rest, Begins unit rest text := by
  constructor
  · intro h
    unfold escapedUnit? at h
    split at h
    next a b c d rest =>
      exact ⟨rest, [a, b, c, d], rfl, rfl, (digits?_map_ofNat_eq_some_iff rfl).mp h⟩
    next => cases h
  · rintro ⟨rest, digits, rfl, four, numeral⟩
    match digits, four with
    | [a, b, c, d], four => exact (digits?_map_ofNat_eq_some_iff four).mpr numeral

theorem unitsAfter_of_begins (begins : Begins unit rest text) :
    unitsAfter 0 text = unit :: unitsAfter 0 rest := by
  obtain ⟨digits, rfl, four, numeral⟩ := begins
  exact unitsAfter_escape numeral four rest

theorem unitsAfter_of_not_begins (none : ∀ unit behind, ¬ Begins unit behind (c :: rest)) :
    unitsAfter 0 (c :: rest) = Utf16.unitsOfChar c ++ unitsAfter 0 rest := by
  have unread : escapedUnit? (c :: rest) = Option.none := by
    rw [Option.eq_none_iff_forall_ne_some]
    intro unit read
    obtain ⟨behind, begins⟩ := escapedUnit?_eq_some_iff.mp read
    exact none unit behind begins
  rw [unitsAfter, unread]

theorem Scan.eq_units (h : Scan text units) : units = UnitEscape.units text := by
  rw [UnitEscape.units]
  induction h with
  | nil => rfl
  | escape begins _ ih => rw [unitsAfter_of_begins begins, ih]
  | char none _ ih => rw [unitsAfter_of_not_begins none, ih]

theorem Begins.length_lt (h : Begins unit rest text) : rest.length < text.length := by
  obtain ⟨digits, rfl, -, -⟩ := h
  simp only [List.length_cons, List.length_append]
  omega

theorem scan_units (text : List Char) : Scan text (UnitEscape.units text) := by
  induction size : text.length using Nat.strongRecOn generalizing text with
  | ind n ih =>
      subst size
      cases text with
      | nil => exact .nil
      | cons c rest =>
          rw [UnitEscape.units]
          by_cases escaped : ∃ unit behind, Begins unit behind (c :: rest)
          · obtain ⟨unit, behind, begins⟩ := escaped
            rw [unitsAfter_of_begins begins]
            exact .escape begins (ih behind.length begins.length_lt behind rfl)
          · simp only [not_exists] at escaped
            rw [unitsAfter_of_not_begins escaped]
            exact .char escaped (ih rest.length (Nat.lt_succ_self _) rest rfl)

/-! ### The search -/

/-- The unit that a text escapes which begins with the start of an escape. It is looked for
at fixed positions, and there is none where a character lies across one. -/
def unitAt? (tail : List Char) : Option UInt16 :=
  match between? 2 6 tail, between? 6 7 tail with
  | some hex, some ['_'] => (Text.digits? 16 hex).map UInt16.ofNat
  | _, _ => none

/-- Where the search goes on in a text that begins with the start of an escape, and the units
it finds up to there. There is none where it would have to cut through a character. -/
def advance? (tail : List Char) : Option (List UInt16 × List Char) :=
  match unitAt? tail with
  | some unit => (behind? 7 tail).map ([unit], ·)
  | none => (behind? 2 tail).map (Utf16.encode ['_', 'x'], ·)

theorem length_lt_of_advance? (h : advance? tail = some (units, rest)) :
    rest.length < tail.length := by
  have shorter : ∀ {n : Nat} {found : List UInt16}, n ≠ 0 →
      (behind? n tail).map (found, ·) = some (units, rest) → rest.length < tail.length := by
    intro n found positive h
    obtain ⟨back, cut, same⟩ := Option.map_eq_some_iff.mp h
    obtain ⟨-, rfl⟩ := Prod.mk.inj same
    obtain ⟨front, rfl, size⟩ := Text.behind?_eq_some_iff.mp cut
    have front_ne : front ≠ [] := fun nil => positive (size ▸ Text.byteSize_eq_zero_iff.mpr nil)
    rw [List.length_append]
    exact Nat.lt_add_of_pos_left (List.length_pos_iff.mpr front_ne)
  unfold advance? at h
  split at h
  · exact shorter (by decide) h
  · exact shorter (by decide) h

/-- The units of a text by search, or `none` if the search cuts through a character. -/
def search? (text : List Char) : Option (List UInt16) :=
  match _found : cut? ['_', 'x'] text with
  | none => some (Utf16.encode text)
  | some (before, after) =>
    match _next : advance? ('_' :: 'x' :: after) with
    | none => none
    | some (units, rest) => (search? rest).map (Utf16.encode before ++ units ++ ·)
  termination_by text.length
  decreasing_by
    have whole := congrArg List.length (Text.eq_append_of_cut? _found)
    have shorter := length_lt_of_advance? _next
    simp only [List.length_append, List.length_cons, List.length_nil] at whole shorter
    omega

/-- What is read as an escape is cut out between characters. -/
theorem isBoundary_of_unitAt? (h : unitAt? tail = some unit) :
    isBoundary 6 tail = true ∧ isBoundary 7 tail = true := by
  unfold unitAt? at h
  split at h
  next cutHex cutClose => exact (Option.ite_none_right_eq_some.mp cutClose).1.2
  next => cases h

/-- Four digits take four bytes, so an escape takes seven. -/
theorem unitAt?_of_begins (begins : Begins unit rest tail) :
    unitAt? tail = some unit ∧ behind? 7 tail = some rest := by
  obtain ⟨digits, rfl, four, numeral⟩ := begins
  have size : byteSize digits = 4 := (Text.byteSize_of_ascii numeral.ascii).trans four
  have marked : byteSize ('_' :: 'x' :: digits) = 6 := by
    rw [byteSize, byteSize, size]
    rfl
  have hex : between? 2 6 ('_' :: 'x' :: (digits ++ '_' :: rest)) = some digits :=
    Text.between?_eq_some_iff.mpr ⟨['_', 'x'], '_' :: rest, rfl, rfl, by rw [size]⟩
  have close : between? 6 7 ('_' :: 'x' :: (digits ++ '_' :: rest)) = some ['_'] :=
    Text.between?_eq_some_iff.mpr ⟨'_' :: 'x' :: digits, rest, rfl, marked, rfl⟩
  constructor
  · rw [unitAt?, hex, close]
    exact (digits?_map_ofNat_eq_some_iff four).mpr numeral
  · refine Text.behind?_eq_some_iff.mpr ⟨'_' :: 'x' :: (digits ++ ['_']), by simp, ?_⟩
    rw [← List.cons_append, ← List.cons_append, Text.byteSize_append, marked]
    rfl

theorem begins_of_unitAt? (h : unitAt? ('_' :: 'x' :: after) = some unit) :
    ∃ rest, Begins unit rest ('_' :: 'x' :: after) := by
  unfold unitAt? at h
  split at h
  next hex cutHex cutClose =>
    obtain ⟨front, back, whole, two, six⟩ := Text.between?_eq_some_iff.mp cutHex
    obtain ⟨-, rfl⟩ :=
      Text.append_inj_of_byteSize (show ['_', 'x'] ++ after = _ from whole) two.symm
    obtain ⟨value, read, -⟩ := Option.map_eq_some_iff.mp h
    have numeral := (Text.digits?_eq_some_iff (by decide)).mp read
    have size := Text.byteSize_of_ascii numeral.ascii
    have four : hex.length = 4 := by omega
    obtain ⟨front, rest, whole, six, -⟩ := Text.between?_eq_some_iff.mp cutClose
    have marked : byteSize ('_' :: 'x' :: hex) = 6 := by
      rw [byteSize, byteSize, size, four]
      rfl
    obtain ⟨-, rfl⟩ :=
      Text.append_inj_of_byteSize (show '_' :: 'x' :: hex ++ back = _ from whole)
        (marked.trans six.symm)
    exact ⟨rest, hex, rfl, four, (digits?_map_ofNat_eq_some_iff four).mp h⟩
  next => cases h

/-- Nothing is lost where the search goes on, and it can always go on. -/
theorem advance?_eq (after : List Char) :
    ∃ units rest, advance? ('_' :: 'x' :: after) = some (units, rest) ∧
      unitsAfter 0 ('_' :: 'x' :: after) = units ++ unitsAfter 0 rest := by
  cases read : unitAt? ('_' :: 'x' :: after) with
  | some unit =>
      obtain ⟨rest, begins⟩ := begins_of_unitAt? read
      refine ⟨[unit], rest, ?_, unitsAfter_of_begins begins⟩
      simp only [advance?, read, (unitAt?_of_begins begins).2, Option.map_some]
  | none =>
      have none : ∀ unit rest, ¬ Begins unit rest ('_' :: 'x' :: after) := by
        intro unit rest begins
        cases read.symm.trans (unitAt?_of_begins begins).1
      have cut : behind? 2 ('_' :: 'x' :: after) = some after :=
        Text.behind?_append ['_', 'x'] after
      refine ⟨Utf16.encode ['_', 'x'], after, ?_, ?_⟩
      · simp only [advance?, read, cut, Option.map_some]
      · rw [unitsAfter_of_not_begins none, unitsAfter_raw (by simp)]
        rfl

/-- Where no escape starts, the units are those of the characters. -/
theorem unitsAfter_append (free : ¬ ['_', 'x'] <:+: before) (bare : tail.head? ≠ some 'x') :
    unitsAfter 0 (before ++ tail) = Utf16.encode before ++ unitsAfter 0 tail := by
  induction before with
  | nil => rfl
  | cons c before ih =>
      rw [List.infix_cons_iff, not_or] at free
      have raw : c = '_' → (before ++ tail).head? ≠ some 'x' := by
        rintro rfl
        cases before with
        | nil => exact bare
        | cons d before => simpa using fun same : d = 'x' => free.1 (by simp [same])
      rw [List.cons_append, unitsAfter_raw raw, ih free.2, ← List.append_assoc]
      rfl

/-- Where the mark of an escape is found, the text goes on behind what is read there. -/
theorem units_of_cut? (found : cut? ['_', 'x'] text = some (before, after)) :
    UnitEscape.units text = Utf16.encode before ++ unitsAfter 0 ('_' :: 'x' :: after) := by
  have whole := Text.eq_append_of_cut? found
  rw [List.append_assoc] at whole
  rw [UnitEscape.units, whole]
  exact unitsAfter_append (Text.not_infix_of_cut? found) (by simp)

theorem units_of_not_infix (free : ¬ ['_', 'x'] <:+: text) :
    UnitEscape.units text = Utf16.encode text := by
  have units : unitsAfter 0 (text ++ []) = Utf16.encode text ++ unitsAfter 0 [] :=
    unitsAfter_append free (by simp)
  rwa [List.append_nil, unitsAfter, List.append_nil] at units

theorem search?_of_missing (missing : cut? ['_', 'x'] text = none) :
    search? text = some (Utf16.encode text) := by
  rw [search?]
  split
  next => rfl
  next found => cases missing.symm.trans found

theorem search?_of_found (found : cut? ['_', 'x'] text = some (before, after))
    (next : advance? ('_' :: 'x' :: after) = some (units, rest)) :
    search? text = (search? rest).map (Utf16.encode before ++ units ++ ·) := by
  rw [search?]
  split
  next missing => cases found.symm.trans missing
  next same =>
    obtain ⟨rfl, rfl⟩ := Prod.mk.inj (Option.some.inj (found.symm.trans same))
    split
    next stuck => cases next.symm.trans stuck
    next same =>
      obtain ⟨rfl, rfl⟩ := Prod.mk.inj (Option.some.inj (next.symm.trans same))
      rfl

/-- The search never cuts through a character, and finds what the scan finds. -/
theorem search?_eq (text : List Char) : search? text = some (UnitEscape.units text) := by
  induction text using search?.induct with
  | case1 text missing =>
      rw [search?_of_missing missing, units_of_not_infix (Text.cut?_eq_none_iff.mp missing)]
  | case2 text before after found stuck =>
      obtain ⟨units, rest, next, -⟩ := advance?_eq after
      cases stuck.symm.trans next
  | case3 text before after found units rest next ih =>
      obtain ⟨_, _, same, here⟩ := advance?_eq after
      obtain ⟨rfl, rfl⟩ := Prod.mk.inj (Option.some.inj (next.symm.trans same))
      rw [search?_of_found found next, ih, units_of_cut? found, here, Option.map_some,
        List.append_assoc]
      rfl

/-- What decoding a text has to do with the units that a scan of it finds. The search finds the
same, and none of the positions at which it cuts is inside a character. -/
structure FollowsScan (text : List Char) (scanned : List UInt16) : Prop where
  scan : Scan text scanned
  unique : ∀ other, Scan text other → other = scanned
  search : search? text = some scanned
  cuts : ∀ before after, text = before ++ '_' :: 'x' :: after →
    isBoundary 2 ('_' :: 'x' :: after) = true ∧
      (unitAt? ('_' :: 'x' :: after) ≠ none →
        isBoundary 6 ('_' :: 'x' :: after) = true ∧ isBoundary 7 ('_' :: 'x' :: after) = true)
  decodes : ∀ decoded, decode text = some decoded ↔ Utf16.encode decoded = scanned
  refuses : decode text = none ↔ Utf16.HasUnpairedSurrogate scanned
  fault : ∀ written, Entity.decode written = .ok text →
    (ArgumentList.decodeItem written = .error .unpairedSurrogate ↔
      Utf16.HasUnpairedSurrogate scanned)

/-- Decoding is a scan from left to right. -/
theorem decode_follows_scan (text : List Char) : ∃ scanned, FollowsScan text scanned := by
  refine ⟨UnitEscape.units text, scan_units text, fun _ => Scan.eq_units, search?_eq text, ?cuts,
    fun decoded => ?decodes, Utf16.decode_eq_none_iff, ?fault⟩
  case cuts =>
    intro before after _
    refine ⟨Text.isBoundary_append ['_', 'x'] after, ?_⟩
    intro found
    obtain ⟨unit, read⟩ := Option.ne_none_iff_exists'.mp found
    exact isBoundary_of_unitAt? read
  case decodes =>
    rw [decode, Utf16.decode_eq_some_iff, eq_comm]
  case fault =>
    intro written references
    rw [← Utf16.decode_eq_none_iff, ← decode]
    simp only [ArgumentList.decodeItem, references]
    cases decode text <;> simp

example : decode "_x_x0041__é".toList = some "_xA_é".toList := by decide +kernel

end ShellLaunch.Encoding.UnitEscape
