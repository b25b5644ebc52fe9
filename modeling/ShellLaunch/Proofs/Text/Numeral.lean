import ShellLaunch.Text.Numeral

/-!
# What a numeral is worth

A digit that is put behind a numeral moves the others up one place. That is all there is to
the value of a numeral (`Numeral`), and it is what reading finds (`digits?_eq_some_iff`). Reading
into a machine word finds the same, as long as it fits (`word?_eq`).
-/

namespace ShellLaunch.Text

variable {radix high value : Nat} {c : Char} {digits : List Char}

/-- The digits and their values. Letters go on after `9`, in either case. -/
def digitValues : List (Char × Nat) :=
  "0123456789abcdef".toList.zipIdx ++ "ABCDEF".toList.zipIdx 10

/-- The value of a numeral without a bound: an optional plus sign, then one or more digits. -/
def numeral? (radix : Nat) : List Char → Option Nat
  | '+' :: s => digits? radix s
  | s => digits? radix s

/-- A text of one or more digits, and its value. -/
inductive Numeral (radix : Nat) : List Char → Nat → Prop where
  | digit {c : Char} {value : Nat} (known : (c, value) ∈ digitValues) (small : value < radix) :
      Numeral radix [c] value
  | concat {digits : List Char} {c : Char} {high low : Nat} (front : Numeral radix digits high)
      (known : (c, low) ∈ digitValues) (small : low < radix) :
      Numeral radix (digits ++ [c]) (high * radix + low)

theorem digit?_of_mem (known : (c, value) ∈ digitValues) (small : value < radix) :
    digit? radix c = some value := by
  have all : ∀ digit ∈ digitValues, digit? 16 digit.1 = some digit.2 := by decide
  have widest := all _ known
  simp only [digit?, Option.filter_eq_some_iff, decide_eq_true_eq] at widest ⊢
  exact ⟨widest.1, small⟩

theorem digitsAfter?_concat {start : Nat} (front : digitsAfter? radix start digits = some high)
    (last : digit? radix c = some value) :
    digitsAfter? radix start (digits ++ [c]) = some (high * radix + value) := by
  induction digits generalizing start with
  | nil =>
      obtain rfl : start = high := Option.some.inj front
      simp only [List.nil_append, digitsAfter?, last]
  | cons d digits ih =>
      rw [digitsAfter?] at front
      rw [List.cons_append, digitsAfter?]
      cases first : digit? radix d with
      | none => simp [first] at front
      | some low => exact ih (by simpa only [first] using front)

namespace Numeral

theorem mem_digits (h : Numeral radix digits value) :
    ∀ c ∈ digits, ∃ low < radix, (c, low) ∈ digitValues := by
  induction h with
  | digit known small => simpa using ⟨_, small, known⟩
  | concat _ known small ih =>
      intro c member
      rcases List.mem_append.mp member with front | last
      · exact ih c front
      · obtain rfl := List.mem_singleton.mp last
        exact ⟨_, small, known⟩

theorem isAlphanum (h : Numeral radix digits value) : ∀ c ∈ digits, c.isAlphanum = true := by
  have all : ∀ digit ∈ digitValues, digit.1.isAlphanum = true := by decide
  intro c member
  obtain ⟨low, -, known⟩ := h.mem_digits c member
  exact all _ known

theorem ascii (h : Numeral radix digits value) : ∀ c ∈ digits, c.toNat < 128 := by
  have all : ∀ digit ∈ digitValues, digit.1.toNat < 128 := by decide
  intro c member
  obtain ⟨low, -, known⟩ := h.mem_digits c member
  exact all _ known

theorem isDigit (h : Numeral 10 digits value) : ∀ c ∈ digits, c.isDigit = true := by
  have all : ∀ digit ∈ digitValues, digit.2 < 10 → digit.1.isDigit = true := by decide
  intro c member
  obtain ⟨low, small, known⟩ := h.mem_digits c member
  exact all _ known small

theorem lt_pow (h : Numeral radix digits value) : value < Nat.pow radix digits.length := by
  induction h with
  | digit _ small => exact Nat.lt_of_lt_of_eq small (Nat.pow_one radix).symm
  | @concat digits _ high low _ _ small ih =>
      rw [List.length_append, List.length_singleton]
      calc high * radix + low < high * radix + radix := Nat.add_lt_add_left small _
        _ = (high + 1) * radix := (Nat.succ_mul high radix).symm
        _ ≤ Nat.pow radix digits.length * radix := Nat.mul_le_mul_right radix ih

theorem ne_nil (h : Numeral radix digits value) : digits ≠ [] := by
  cases h with
  | digit => exact List.cons_ne_nil _ _
  | concat => exact List.append_ne_nil_of_right_ne_nil _ (List.cons_ne_nil _ _)

end Numeral

theorem digits?_of_numeral (h : Numeral radix digits value) :
    digits? radix digits = some value := by
  have read : digitsAfter? radix 0 digits = some value := by
    induction h with
    | digit known small =>
        simp only [digitsAfter?, digit?_of_mem known small, Nat.zero_mul, Nat.zero_add]
    | concat _ known small ih => exact digitsAfter?_concat ih (digit?_of_mem known small)
  rw [digits?, read]
  exact h.ne_nil

theorem mem_of_digit? (radix_le : radix ≤ 16) (h : digit? radix c = some value) :
    (c, value) ∈ digitValues ∧ value < radix := by
  have all : ∀ n < 128, ∀ value ∈ digit? 16 (Char.ofNat n),
      (Char.ofNat n, value) ∈ digitValues := by
    decide +kernel
  have below : ∀ {last : Char}, c ≤ last → last.toNat < 128 → c.toNat < 128 :=
    fun le lt => Nat.lt_of_le_of_lt le lt
  simp only [digit?, Option.filter_eq_some_iff, decide_eq_true_eq] at h
  obtain ⟨read, small⟩ := h
  have widest : digit? 16 c = some value := by
    simp only [digit?, Option.filter_eq_some_iff, decide_eq_true_eq]
    exact ⟨read, Nat.lt_of_lt_of_le small radix_le⟩
  have ascii : c.toNat < 128 := by
    split at read
    next range => exact below range.2 (by decide)
    split at read
    next range => exact below range.2 (by decide)
    split at read
    next range => exact below range.2 (by decide)
    cases read
  have known := all c.toNat ascii value
  rw [Char.ofNat_toNat] at known
  exact ⟨known widest, small⟩

theorem Numeral.append {rest : List Char} (front : Numeral radix digits high)
    (radix_le : radix ≤ 16) (h : digitsAfter? radix high rest = some value) :
    Numeral radix (digits ++ rest) value := by
  induction rest generalizing digits high with
  | nil =>
      obtain rfl : high = value := Option.some.inj h
      rwa [List.append_nil]
  | cons c rest ih =>
      rw [digitsAfter?] at h
      split at h
      next low first =>
        obtain ⟨known, small⟩ := mem_of_digit? radix_le first
        have longer := ih (front.concat known small) h
        rwa [List.append_assoc] at longer
      next => cases h

theorem digits?_eq_some_iff (radix_le : radix ≤ 16) :
    digits? radix digits = some value ↔ Numeral radix digits value := by
  constructor
  · intro read
    cases digits with
    | nil => cases read
    | cons c digits =>
        rw [digits?, digitsAfter?] at read
        split at read
        next low first =>
          obtain ⟨known, small⟩ := mem_of_digit? radix_le first
          rw [Nat.zero_mul, Nat.zero_add] at read
          exact (Numeral.digit known small).append radix_le read
        next => cases read
        exact List.cons_ne_nil c digits
  · exact digits?_of_numeral

theorem numeral?_of_numeral (h : Numeral radix digits value) :
    numeral? radix digits = some value := by
  rw [numeral?]
  · exact digits?_of_numeral h
  · rintro rest rfl
    exact absurd (h.isAlphanum '+' List.mem_cons_self) (by decide)

/-- A numeral, in front of which a plus sign can stand. -/
inductive SignedNumeral (radix : Nat) : List Char → Nat → Prop where
  | plain {digits : List Char} {value : Nat} (numeral : Numeral radix digits value) :
      SignedNumeral radix digits value
  | plus {digits : List Char} {value : Nat} (numeral : Numeral radix digits value) :
      SignedNumeral radix ('+' :: digits) value

theorem SignedNumeral.isAlphanum {written : List Char} (h : SignedNumeral radix written value) :
    ∀ c ∈ written, c = '+' ∨ c.isAlphanum = true := by
  cases h with
  | plain numeral => exact fun c member => .inr (numeral.isAlphanum c member)
  | plus numeral =>
      exact List.forall_mem_cons.mpr
        ⟨.inl rfl, fun c member => .inr (numeral.isAlphanum c member)⟩

theorem numeral?_eq_some_iff {written : List Char} (radix_le : radix ≤ 16) :
    numeral? radix written = some value ↔ SignedNumeral radix written value := by
  constructor
  · intro read
    unfold numeral? at read
    split at read
    next digits => exact .plus ((digits?_eq_some_iff radix_le).mp read)
    next => exact .plain ((digits?_eq_some_iff radix_le).mp read)
  · intro h
    cases h with
    | plain numeral => exact numeral?_of_numeral numeral
    | plus numeral => exact digits?_of_numeral numeral

/-! ### Machine words -/

/-- More digits do not make a numeral smaller. -/
theorem le_of_digitsAfter? (h : digitsAfter? radix high digits = some value) : high ≤ value := by
  induction digits generalizing high with
  | nil => exact Nat.le_of_eq (Option.some.inj h)
  | cons c digits ih =>
      rw [digitsAfter?] at h
      split at h
      next low first =>
        simp only [digit?, Option.filter_eq_some_iff, decide_eq_true_eq] at first
        have positive : 0 < radix := Nat.zero_lt_of_lt first.2
        calc high ≤ high * radix := Nat.le_mul_of_pos_right high positive
          _ ≤ high * radix + low := Nat.le_add_right _ low
          _ ≤ value := ih h
      next => cases h

/-- Digits that are read into a word have their value, if it fits. A digit that makes the value
too large cannot be made up for by those behind it. -/
theorem wordAfter?_eq {size : Nat} (fits : high < size) :
    wordAfter? size radix high digits = (digitsAfter? radix high digits).filter (· < size) := by
  induction digits generalizing high with
  | nil => simp [wordAfter?, digitsAfter?, Option.filter, fits]
  | cons c digits ih =>
      rw [wordAfter?, digitsAfter?]
      cases digit? radix c with
      | none => rfl
      | some low =>
          by_cases small : high * radix + low < size
          · simp only [small, if_true]
            exact ih small
          · simp only [small, if_false]
            symm
            rw [Option.filter_eq_none_iff]
            intro value read
            have grown : high * radix + low ≤ value := le_of_digitsAfter? read
            simp only [decide_eq_true_eq]
            omega

theorem wordDigits?_eq {size : Nat} (positive : 0 < size) (digits : List Char) :
    wordDigits? size radix digits = (digits? radix digits).filter (· < size) := by
  cases digits with
  | nil => rfl
  | cons c digits => exact wordAfter?_eq positive

/-- A numeral of any length is read into a word as long as its value fits. -/
theorem word?_eq {size : Nat} (positive : 0 < size) (written : List Char) :
    word? size radix written = (numeral? radix written).filter (· < size) := by
  unfold word?
  split
  next digits => exact wordDigits?_eq positive digits
  next unsigned =>
    rw [numeral?.eq_2 radix written unsigned]
    exact wordDigits?_eq positive written

/-- The bound of a word makes no difference where numbers beyond it are of no use. -/
theorem word?_bind {α : Type} {size : Nat} {use : Nat → Option α} (positive : 0 < size)
    (beyond : ∀ value, size ≤ value → use value = none) (written : List Char) :
    (word? size radix written).bind use = (numeral? radix written).bind use := by
  rw [word?_eq positive]
  cases numeral? radix written with
  | none => rfl
  | some value =>
      by_cases fits : value < size
      · simp [Option.filter, fits]
      · simp [Option.filter, fits, beyond value (Nat.le_of_not_lt fits)]

end ShellLaunch.Text
