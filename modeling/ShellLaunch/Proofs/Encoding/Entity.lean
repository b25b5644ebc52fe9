import ShellLaunch.Encoding.Entity
import ShellLaunch.Proofs.Text.Numeral

/-!
# Spellings with character references

A character can be written as itself or as a reference, which may have several names: the one
that is known for it, and the numerals of its code point. A `<` is never written as itself, so
that a written text holds no tags.
-/

namespace ShellLaunch.Encoding.Entity

open Text (Numeral)

variable {text written name : List Char} {c : Char}

/-- The characters that have a name. -/
def names : List (String × Char) :=
  [("amp", '&'), ("lt", '<'), ("gt", '>'), ("quot", '"'), ("apos", '\'')]

/-- What can stand between `&` and `;` for a character. -/
inductive Reference : Char → List Char → Prop where
  | named {name : String} {c : Char} (known : (name, c) ∈ names) : Reference c name.toList
  | decimal {c : Char} {digits : List Char} (code : Numeral 10 digits c.toNat) :
      Reference c ('#' :: digits)
  | hexadecimal {c mark : Char} {digits : List Char} (marked : mark = 'x' ∨ mark = 'X')
      (code : Numeral 16 digits c.toNat) : Reference c ('#' :: mark :: digits)

/-- The ways to write a text with references. There can be one for any character, and for the
two that markup is made of there has to be one. -/
inductive Spells : List Char → List Char → Prop where
  | nil : Spells [] []
  | raw {c : Char} {text written : List Char} (notReference : c ≠ '&') (notTag : c ≠ '<')
      (others : Spells text written) : Spells (c :: text) (c :: written)
  | reference {c : Char} {text name written : List Char} (named : Reference c name)
      (others : Spells text written) : Spells (c :: text) ('&' :: (name ++ ';' :: written))

/-- What is no markup can be written as it is. -/
theorem Spells.raws (front : List Char) (plain : ∀ c ∈ front, c ≠ '&' ∧ c ≠ '<')
    (others : Spells text written) : Spells (front ++ text) (front ++ written) := by
  induction front with
  | nil => exact others
  | cons c front ih =>
      obtain ⟨⟨notReference, notTag⟩, later⟩ := List.forall_mem_cons.mp plain
      exact .raw notReference notTag (ih later)

theorem charOfCode?_toNat (c : Char) : Text.charOfCode? c.toNat = some c := by
  have valid : c.toNat.isValidChar := c.valid
  rw [Text.charOfCode?, if_pos valid, Char.ofNat_toNat]

/-- The bound of a word does not matter, since the code points end below it. -/
theorem word?_bind_charOfCode? (radix : Nat) (numeral : List Char) :
    (Text.word? UInt32.size radix numeral).bind Text.charOfCode? =
      (Text.numeral? radix numeral).bind Text.charOfCode? := by
  refine Text.word?_bind (by decide) ?_ numeral
  intro code far
  refine if_neg ?_
  rintro (low | ⟨-, high⟩)
  · exact absurd (Nat.lt_of_lt_of_le low (by decide)) (Nat.not_lt_of_le far)
  · exact absurd (Nat.lt_of_lt_of_le high (by decide)) (Nat.not_lt_of_le far)

theorem reference?_of_reference (h : Reference c name) : reference? name = some c := by
  cases h with
  | named known =>
      have all : ∀ entry ∈ names, reference? entry.1.toList = some entry.2 := by decide
      exact all _ known
  | decimal code =>
      rw [reference?, word?_bind_charOfCode?, Text.numeral?_of_numeral code]
      · exact charOfCode?_toNat c
      · rintro rest rfl
        exact absurd (code.isDigit 'x' List.mem_cons_self) (by decide)
      · rintro rest rfl
        exact absurd (code.isDigit 'X' List.mem_cons_self) (by decide)
  | hexadecimal marked code =>
      rcases marked with rfl | rfl <;>
        rw [reference?, word?_bind_charOfCode?, Text.numeral?_of_numeral code]
      · exact charOfCode?_toNat c
      · exact charOfCode?_toNat c

/-- A name ends in front of its semicolon and is no tag. -/
theorem Reference.ne_of_mem (h : Reference c name) : ∀ d ∈ name, d ≠ ';' ∧ d ≠ '<' := by
  have digit : ∀ {d : Char}, d.isAlphanum = true → d ≠ ';' ∧ d ≠ '<' := by
    intro d alphanumeric
    constructor <;> rintro rfl <;> exact absurd alphanumeric (by decide)
  cases h with
  | named known =>
      have all : ∀ entry ∈ names, ∀ d ∈ entry.1.toList, d ≠ ';' ∧ d ≠ '<' := by simp [names]
      exact all _ known
  | decimal code =>
      refine List.forall_mem_cons.mpr ⟨by decide, ?_⟩
      exact fun d member => digit (code.isAlphanum d member)
  | hexadecimal marked code =>
      refine List.forall_mem_cons.mpr ⟨by decide, List.forall_mem_cons.mpr ⟨?_, ?_⟩⟩
      · rcases marked with rfl | rfl <;> decide
      · exact fun d member => digit (code.isAlphanum d member)

/-- Reading a name runs to its semicolon. -/
theorem decodeRest_name {inside : List Char} (text rest : List Char) (free : ∀ d ∈ name, d ≠ ';')
    (known : reference? (inside.reverse ++ name) = some c) :
    decodeRest text (some inside) (name ++ ';' :: rest) =
      (decodeRest text none rest).map (c :: ·) := by
  induction name generalizing inside with
  | nil =>
      rw [List.append_nil] at known
      rw [List.nil_append, decodeRest]
      simp only [if_true, known]
  | cons d name ih =>
      obtain ⟨here, later⟩ := List.forall_mem_cons.mp free
      rw [List.cons_append, decodeRest]
      simp only [here, if_false]
      exact ih later (by simpa using known)

theorem decode_of_spells (h : Spells text written) : decode written = .ok text := by
  suffices read : ∀ whole, decodeRest whole none written = .ok text from read written
  intro whole
  induction h with
  | nil => rfl
  | raw notReference _ _ ih =>
      rw [decodeRest]
      simp only [notReference, if_false, ih]
      rfl
  | reference named _ ih =>
      have free := fun d member => (named.ne_of_mem d member).1
      rw [decodeRest]
      simp only [if_true]
      rw [decodeRest_name whole _ free (reference?_of_reference named), ih]
      rfl

/-- Only tags begin with `<` in a written text. -/
theorem Spells.not_mem (h : Spells text written) : '<' ∉ written := by
  induction h with
  | nil => exact List.not_mem_nil
  | raw _ notTag _ ih => simpa [notTag.symm] using ih
  | reference named _ ih =>
      have free : '<' ∉ _ := fun member => (named.ne_of_mem '<' member).2 rfl
      simpa [free] using ih

theorem exists_spells (text : List Char) : ∃ written, Spells text written := by
  induction text with
  | nil => exact ⟨[], .nil⟩
  | cons c text ih =>
      obtain ⟨written, spelled⟩ := ih
      by_cases ampersand : c = '&'
      · subst ampersand
        exact ⟨_, .reference (.named (show ("amp", '&') ∈ names by decide)) spelled⟩
      by_cases less : c = '<'
      · subst less
        exact ⟨_, .reference (.named (show ("lt", '<') ∈ names by decide)) spelled⟩
      · exact ⟨_, .raw ampersand less spelled⟩

end ShellLaunch.Encoding.Entity
