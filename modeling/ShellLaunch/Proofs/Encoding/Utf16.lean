import ShellLaunch.Encoding.Utf16

/-!
# UTF-16 is canonical

A text has one form in units, and units that are not the form of a text have a surrogate
without a partner (`decode_eq_none_iff`). In bytes a unit takes two, so an even number of
bytes is always the form of some units.
-/

namespace ShellLaunch.Encoding.Utf16

variable {units rest : List UInt16} {text : List Char}

/-! ### Surrogates -/

theorem isHigh_iff {unit : UInt16} :
    isHigh unit = true ↔ 0xD800 ≤ unit.toNat ∧ unit.toNat ≤ 0xDBFF := by
  simp [isHigh, UInt16.le_iff_toNat_le]

theorem isLow_iff {unit : UInt16} :
    isLow unit = true ↔ 0xDC00 ≤ unit.toNat ∧ unit.toNat ≤ 0xDFFF := by
  simp [isLow, UInt16.le_iff_toNat_le]

theorem isLow_of_isHigh {unit : UInt16} (h : isHigh unit = true) : isLow unit = false := by
  rw [Bool.eq_false_iff, ne_eq, isLow_iff]
  have := isHigh_iff.mp h
  omega

theorem isHigh_of_isLow {unit : UInt16} (h : isLow unit = true) : isHigh unit = false := by
  rw [Bool.eq_false_iff, ne_eq, isHigh_iff]
  have := isLow_iff.mp h
  omega

/-- A surrogate stands alone: the first half of a pair that no second half follows, or a
second half that no first half precedes. -/
def HasUnpairedSurrogate (units : List UInt16) : Prop :=
  ∃ before unit after, units = before ++ unit :: after ∧
    (isHigh unit = true ∧ (∀ next ∈ after.head?, isLow next = false) ∨
      isLow unit = true ∧ (∀ previous ∈ before.getLast?, isHigh previous = false))

/-! ### Characters -/

theorem toNat_ofNat {code : Nat} (valid : code.isValidChar) : (Char.ofNat code).toNat = code := by
  rw [Char.ofNat, dif_pos valid]
  rfl

/-- A character of the first plane is no surrogate. -/
theorem unitsOfChar_of_lt {c : Char} (h : c.toNat < 0x10000) :
    ∃ unit, unitsOfChar c = [unit] ∧ isHigh unit = false ∧ isLow unit = false ∧
      Char.ofNat unit.toNat = c := by
  have toNat : (UInt16.ofNat c.toNat).toNat = c.toNat := UInt16.toNat_ofNat_of_lt' h
  have valid : c.toNat < 0xD800 ∨ 0xDFFF < c.toNat ∧ c.toNat < 0x110000 := c.valid
  refine ⟨UInt16.ofNat c.toNat, if_pos h, ?_, ?_, ?_⟩
  · rw [Bool.eq_false_iff, ne_eq, isHigh_iff]
    omega
  · rw [Bool.eq_false_iff, ne_eq, isLow_iff]
    omega
  · rw [toNat, Char.ofNat_toNat]

/-- Any other character is a pair of surrogates. -/
theorem unitsOfChar_of_le {c : Char} (h : 0x10000 ≤ c.toNat) :
    ∃ high low, unitsOfChar c = [high, low] ∧ isHigh high = true ∧ isLow low = true ∧
      charOfPair high low = c := by
  have valid : c.toNat < 0xD800 ∨ 0xDFFF < c.toNat ∧ c.toNat < 0x110000 := c.valid
  have high : (UInt16.ofNat (0xD800 + (c.toNat - 0x10000) / 0x400)).toNat =
      0xD800 + (c.toNat - 0x10000) / 0x400 :=
    UInt16.toNat_ofNat_of_lt' (show _ < 0x10000 by omega)
  have low : (UInt16.ofNat (0xDC00 + (c.toNat - 0x10000) % 0x400)).toNat =
      0xDC00 + (c.toNat - 0x10000) % 0x400 :=
    UInt16.toNat_ofNat_of_lt' (show _ < 0x10000 by omega)
  refine ⟨_, _, if_neg (by omega), ?_, ?_, ?_⟩
  · rw [isHigh_iff]
    omega
  · rw [isLow_iff]
    omega
  · have code : 0x10000 + (0xD800 + (c.toNat - 0x10000) / 0x400 - 0xD800) * 0x400 +
        (0xDC00 + (c.toNat - 0x10000) % 0x400 - 0xDC00) = c.toNat := by
      omega
    rw [charOfPair, high, low, code, Char.ofNat_toNat]

theorem unitsOfChar_ne_nil (c : Char) : unitsOfChar c ≠ [] := by
  rw [unitsOfChar]
  split <;> exact List.cons_ne_nil _ _

theorem unitsOfChar_ofNat {unit : UInt16} (high : isHigh unit = false) (low : isLow unit = false) :
    unitsOfChar (Char.ofNat unit.toNat) = [unit] := by
  rw [Bool.eq_false_iff, ne_eq, isHigh_iff] at high
  rw [Bool.eq_false_iff, ne_eq, isLow_iff] at low
  have lt := unit.toNat_lt
  have toNat : (Char.ofNat unit.toNat).toNat = unit.toNat :=
    toNat_ofNat (show _ < 0xD800 ∨ _ by omega)
  rw [unitsOfChar, toNat, if_pos (by omega), UInt16.ofNat_toNat]

theorem unitsOfChar_charOfPair {high low : UInt16} (hhigh : isHigh high = true)
    (hlow : isLow low = true) : unitsOfChar (charOfPair high low) = [high, low] := by
  rw [isHigh_iff] at hhigh
  rw [isLow_iff] at hlow
  have toNat : (charOfPair high low).toNat =
      0x10000 + (high.toNat - 0xD800) * 0x400 + (low.toNat - 0xDC00) :=
    toNat_ofNat (show _ < 0xD800 ∨ _ by omega)
  rw [unitsOfChar, toNat, if_neg (by omega),
    show 0xD800 + (0x10000 + (high.toNat - 0xD800) * 0x400 + (low.toNat - 0xDC00) - 0x10000) /
      0x400 = high.toNat by omega,
    show 0xDC00 + (0x10000 + (high.toNat - 0xD800) * 0x400 + (low.toNat - 0xDC00) - 0x10000) %
      0x400 = low.toNat by omega, UInt16.ofNat_toNat, UInt16.ofNat_toNat]

/-! ### Texts -/

theorem decode_plain {unit : UInt16} (high : isHigh unit = false) (low : isLow unit = false)
    (rest : List UInt16) :
    decode (unit :: rest) = (decode rest).map (Char.ofNat unit.toNat :: ·) := by
  rw [decode.eq_def]
  simp only [high, low, Bool.false_eq_true, if_false]

theorem decode_pair {high low : UInt16} (hhigh : isHigh high = true) (hlow : isLow low = true)
    (rest : List UInt16) :
    decode (high :: low :: rest) = (decode rest).map (charOfPair high low :: ·) := by
  rw [decode.eq_def]
  simp only [hhigh, hlow, if_true]

theorem decode_unitsOfChar (c : Char) (rest : List UInt16) :
    decode (unitsOfChar c ++ rest) = (decode rest).map (c :: ·) := by
  by_cases h : c.toNat < 0x10000
  · obtain ⟨unit, units_eq, high, low, c_eq⟩ := unitsOfChar_of_lt h
    rw [units_eq, List.singleton_append, decode_plain high low, c_eq]
  · obtain ⟨high, low, units_eq, hhigh, hlow, c_eq⟩ := unitsOfChar_of_le (Nat.le_of_not_lt h)
    rw [units_eq, List.cons_append, List.singleton_append, decode_pair hhigh hlow, c_eq]

/-- Every text is read back from its units. -/
theorem decode_encode (text : List Char) : decode (encode text) = some text := by
  induction text with
  | nil => rfl
  | cons c rest ih =>
      rw [encode, List.flatMap_cons, decode_unitsOfChar, ← encode, ih]
      rfl

/-- Only the units of a text are read as it. -/
theorem encode_of_decode (h : decode units = some text) : encode text = units := by
  fun_induction decode units generalizing text with
  | case1 =>
      cases h
      rfl
  | case2 high hhigh low rest hlow ih =>
      obtain ⟨others, hrest, rfl⟩ := Option.map_eq_some_iff.mp h
      rw [encode, List.flatMap_cons, unitsOfChar_charOfPair hhigh hlow, ← encode, ih hrest]
      rfl
  | case3 | case4 | case5 => cases h
  | case6 unit rest high low ih =>
      obtain ⟨others, hrest, rfl⟩ := Option.map_eq_some_iff.mp h
      rw [encode, List.flatMap_cons, unitsOfChar_ofNat (by simpa using high) (by simpa using low),
        ← encode, ih hrest]
      rfl

theorem decode_eq_some_iff : decode units = some text ↔ units = encode text := by
  constructor
  · intro h
    exact (encode_of_decode h).symm
  · rintro rfl
    exact decode_encode text

/-! ### Surrogates that stand alone -/

theorem HasUnpairedSurrogate.append (h : HasUnpairedSurrogate units) (front : List UInt16)
    (closed : ∀ unit ∈ front.getLast?, isHigh unit = false) :
    HasUnpairedSurrogate (front ++ units) := by
  obtain ⟨before, unit, after, rfl, alone⟩ := h
  refine ⟨front ++ before, unit, after, by rw [List.append_assoc], alone.imp_right ?_⟩
  rintro ⟨low, first⟩
  refine ⟨low, ?_⟩
  intro previous last
  rw [List.getLast?_append] at last
  cases before with
  | nil => exact closed previous last
  | cons => exact first previous (by simpa using last)

/-- A unit that is no surrogate has no part in it. -/
theorem hasUnpairedSurrogate_plain {unit : UInt16} (high : isHigh unit = false)
    (low : isLow unit = false) :
    HasUnpairedSurrogate (unit :: rest) ↔ HasUnpairedSurrogate rest := by
  constructor
  · rintro ⟨before, other, after, units_eq, alone⟩
    cases before with
    | nil =>
        obtain ⟨rfl, rfl⟩ := List.cons.inj units_eq
        simp [high, low] at alone
    | cons first before =>
        obtain ⟨rfl, rfl⟩ := List.cons.inj units_eq
        refine ⟨before, other, after, rfl, alone.imp_right ?_⟩
        rintro ⟨isLow, first⟩
        refine ⟨isLow, ?_⟩
        intro previous last
        exact first previous (by rw [List.getLast?_cons, Option.mem_def.mp last]; rfl)
  · intro alone
    exact alone.append [unit] (by simpa using high)

/-- Nor has a pair. -/
theorem hasUnpairedSurrogate_pair {high low : UInt16} (hhigh : isHigh high = true)
    (hlow : isLow low = true) :
    HasUnpairedSurrogate (high :: low :: rest) ↔ HasUnpairedSurrogate rest := by
  have notLow := isLow_of_isHigh hhigh
  have notHigh := isHigh_of_isLow hlow
  constructor
  · rintro ⟨before, other, after, units_eq, alone⟩
    match before with
    | [] =>
        obtain ⟨rfl, rfl⟩ := List.cons.inj units_eq
        simp [notLow, hlow] at alone
    | [first] =>
        obtain ⟨rfl, tail_eq⟩ := List.cons.inj units_eq
        obtain ⟨rfl, rfl⟩ := List.cons.inj tail_eq
        simp [notHigh, hhigh] at alone
    | first :: second :: before =>
        obtain ⟨rfl, tail_eq⟩ := List.cons.inj units_eq
        obtain ⟨rfl, rfl⟩ := List.cons.inj tail_eq
        refine ⟨before, other, after, rfl, alone.imp_right ?_⟩
        rintro ⟨isLow, first⟩
        refine ⟨isLow, ?_⟩
        intro previous last
        refine first previous ?_
        rw [List.getLast?_cons_cons, List.getLast?_cons, Option.mem_def.mp last]
        rfl
  · intro alone
    exact alone.append [high, low] (by simpa using notHigh)

/-- Units are refused where a surrogate stands alone, and nowhere else. -/
theorem decode_eq_none_iff : decode units = none ↔ HasUnpairedSurrogate units := by
  fun_induction decode units with
  | case1 => simp [HasUnpairedSurrogate]
  | case2 high hhigh low rest hlow ih =>
      rw [Option.map_eq_none_iff, ih, hasUnpairedSurrogate_pair hhigh hlow]
  | case3 high hhigh next rest hlow =>
      refine iff_of_true rfl ⟨[], high, next :: rest, rfl, .inl ⟨hhigh, ?_⟩⟩
      simpa using hlow
  | case4 high hhigh => exact iff_of_true rfl ⟨[], high, [], rfl, .inl ⟨hhigh, by simp⟩⟩
  | case5 unit rest high low => exact iff_of_true rfl ⟨[], unit, rest, rfl, .inr ⟨low, by simp⟩⟩
  | case6 unit rest high low ih =>
      rw [Option.map_eq_none_iff, ih,
        hasUnpairedSurrogate_plain (by simpa using high) (by simpa using low)]

/-! ### Bytes -/

theorem ofBytes_toBytes (units : List UInt16) : ofBytes (toBytes units) = units := by
  induction units with
  | nil => rfl
  | cons unit rest ih =>
      have lt := unit.toNat_lt
      have low : (UInt8.ofNat (unit.toNat % 256)).toNat = unit.toNat % 256 :=
        UInt8.toNat_ofNat_of_lt' (show _ < 256 by omega)
      have high : (UInt8.ofNat (unit.toNat / 256)).toNat = unit.toNat / 256 :=
        UInt8.toNat_ofNat_of_lt' (show _ < 256 by omega)
      have toBytes_eq : toBytes (unit :: rest) = UInt8.ofNat (unit.toNat % 256) ::
        UInt8.ofNat (unit.toNat / 256) :: toBytes rest := rfl
      rw [toBytes_eq, ofBytes, ih, low, high,
        show unit.toNat % 256 + 256 * (unit.toNat / 256) = unit.toNat by omega, UInt16.ofNat_toNat]

theorem toBytes_ofBytes {bytes : List UInt8} (even : bytes.length % 2 = 0) :
    toBytes (ofBytes bytes) = bytes := by
  fun_induction ofBytes bytes with
  | case1 low high rest ih =>
      have hlow := low.toNat_lt
      have hhigh := high.toNat_lt
      have unit : (UInt16.ofNat (low.toNat + 256 * high.toNat)).toNat =
          low.toNat + 256 * high.toNat :=
        UInt16.toNat_ofNat_of_lt' (show _ < 65536 by omega)
      have rest_even : rest.length % 2 = 0 := by
        simp only [List.length_cons] at even
        omega
      rw [toBytes, List.flatMap_cons, unit, ← toBytes, ih rest_even,
        show (low.toNat + 256 * high.toNat) % 256 = low.toNat by omega,
        show (low.toNat + 256 * high.toNat) / 256 = high.toNat by omega, UInt8.ofNat_toNat,
        UInt8.ofNat_toNat]
      rfl
  | case2 bytes short =>
      match bytes with
      | [] => rfl
      | [byte] => cases even
      | low :: high :: rest => exact (short low high rest rfl).elim

theorem length_toBytes (units : List UInt16) : (toBytes units).length = 2 * units.length := by
  induction units with
  | nil => rfl
  | cons unit rest ih =>
      rw [toBytes, List.flatMap_cons, List.length_append, ← toBytes, ih]
      simp only [List.length_cons, List.length_nil]
      omega

end ShellLaunch.Encoding.Utf16
