import Mathlib.Data.List.Infix
import ShellLaunch.Encoding.ArgumentList
import ShellLaunch.Proofs.Encoding.Entity
import ShellLaunch.Proofs.Encoding.Utf16
import ShellLaunch.Proofs.Result
import ShellLaunch.Proofs.Text.Cut

/-!
# References are decoded exactly

A text is written with references by writing each of its characters as itself or as a reference
to it; only `&` cannot be itself. What is written so is decoded to that text, and nothing else
is decoded at all: a text that is not written so has a first `&` at which it goes wrong, since
no semicolon follows or no character has the name in front of the semicolon (`decode_exact`).

The code of a character is a natural number, so a numeral whose value is too large, or is the code
of a surrogate, is that of no reference. The machine word that numerals are read into makes no
difference to that (`word?_bind_charOfCode?`).
-/

namespace ShellLaunch.Encoding.Entity

open Text (cut? charOfCode? SignedNumeral)

variable {text value written front rest name whole : List Char} {c : Char}

/-! ### Names -/

/-- What can stand between `&` and `;`, and the character that it is the name of. -/
inductive Denotes : List Char → Char → Prop where
  | named {name : String} {c : Char} (known : (name, c) ∈ names) : Denotes name.toList c
  | decimal {numeral : List Char} {c : Char} (code : SignedNumeral 10 numeral c.toNat) :
      Denotes ('#' :: numeral) c
  | hexadecimal {mark : Char} {numeral : List Char} {c : Char} (marked : mark = 'x' ∨ mark = 'X')
      (code : SignedNumeral 16 numeral c.toNat) : Denotes ('#' :: mark :: numeral) c

theorem charOfCode?_eq_some_iff {code : Nat} : charOfCode? code = some c ↔ c.toNat = code := by
  constructor
  · intro h
    obtain ⟨valid, same⟩ := Option.ite_none_right_eq_some.mp h
    rw [← Option.some.inj same]
    exact Utf16.toNat_ofNat valid
  · rintro rfl
    exact charOfCode?_toNat c

theorem bind_charOfCode?_eq_some_iff {radix : Nat} {numeral : List Char} (radix_le : radix ≤ 16) :
    (Text.word? UInt32.size radix numeral).bind charOfCode? = some c ↔
      SignedNumeral radix numeral c.toNat := by
  rw [word?_bind_charOfCode?, Option.bind_eq_some_iff, ← Text.numeral?_eq_some_iff radix_le]
  constructor
  · rintro ⟨code, read, denotes⟩
    rwa [charOfCode?_eq_some_iff.mp denotes]
  · intro read
    exact ⟨c.toNat, read, charOfCode?_toNat c⟩

theorem denotes_of_reference? (h : reference? name = some c) : Denotes name c := by
  have known : ∀ {name : String} {d : Char}, (name, d) ∈ names → some d = some c →
      Denotes name.toList c := by
    intro name d known same
    obtain rfl := Option.some.inj same
    exact .named known
  unfold reference? at h
  split at h
  · exact known (show ("amp", '&') ∈ names by decide) h
  · exact known (show ("lt", '<') ∈ names by decide) h
  · exact known (show ("gt", '>') ∈ names by decide) h
  · exact known (show ("quot", '"') ∈ names by decide) h
  · exact known (show ("apos", '\'') ∈ names by decide) h
  · exact .hexadecimal (.inl rfl) ((bind_charOfCode?_eq_some_iff (by decide)).mp h)
  · exact .hexadecimal (.inr rfl) ((bind_charOfCode?_eq_some_iff (by decide)).mp h)
  · exact .decimal ((bind_charOfCode?_eq_some_iff (by decide)).mp h)
  · cases h

theorem reference?_of_denotes (h : Denotes name c) : reference? name = some c := by
  cases h with
  | named known => exact reference?_of_reference (.named known)
  | @decimal numeral _ code =>
      cases code with
      | plain numeral => exact reference?_of_reference (.decimal numeral)
      | plus numeral => exact (bind_charOfCode?_eq_some_iff (by decide)).mpr (.plus numeral)
  | @hexadecimal mark numeral _ marked code =>
      rcases marked with rfl | rfl
      · exact (bind_charOfCode?_eq_some_iff (by decide)).mpr code
      · exact (bind_charOfCode?_eq_some_iff (by decide)).mpr code

theorem reference?_eq_some_iff : reference? name = some c ↔ Denotes name c :=
  ⟨denotes_of_reference?, reference?_of_denotes⟩

theorem reference?_eq_none_iff : reference? name = none ↔ ∀ c, ¬ Denotes name c := by
  simp only [← reference?_eq_some_iff, Option.eq_none_iff_forall_ne_some, ne_eq]

/-- A name ends in front of its semicolon. -/
theorem Denotes.not_mem (h : Denotes name c) : ';' ∉ name := by
  have noDigit : ∀ {radix value : Nat} {numeral : List Char},
      SignedNumeral radix numeral value → ';' ∉ numeral := by
    intro radix value numeral code member
    rcases code.isAlphanum ';' member with plus | alphanumeric
    · exact absurd plus (by decide)
    · exact absurd alphanumeric (by decide)
  cases h with
  | named known =>
      have all : ∀ entry ∈ names, ';' ∉ entry.1.toList := by decide
      exact all _ known
  | decimal code => simp [noDigit code]
  | hexadecimal marked code => rcases marked with rfl | rfl <;> simp [noDigit code]

/-! ### Written texts -/

/-- The ways to write a text with references: any character can be a reference, `&` has to be
one, and every other character can be itself. -/
inductive Writes : List Char → List Char → Prop where
  | nil : Writes [] []
  | plain {c : Char} {text written : List Char} (notReference : c ≠ '&')
      (others : Writes text written) : Writes (c :: text) (c :: written)
  | reference {c : Char} {text name written : List Char} (denotes : Denotes name c)
      (others : Writes text written) : Writes (c :: text) ('&' :: (name ++ ';' :: written))

/-- Why a text is not written so: behind what is, an `&` has no semicolon after it, or no
character has the name that stands there. The text is a rest of the `whole`, which a message
quotes. -/
inductive Refused (whole written : List Char) : ListFault → Prop where
  | unterminated {front rest text : List Char} (split : written = front ++ '&' :: rest)
      (read : Writes text front) (endless : ';' ∉ rest) :
      Refused whole written (.unterminatedEntity (String.ofList whole))
  | unknown {front name rest text : List Char}
      (split : written = front ++ '&' :: (name ++ ';' :: rest)) (read : Writes text front)
      (first : ';' ∉ name) (unknown : ∀ c, ¬ Denotes name c) :
      Refused whole written (.unknownEntity (String.ofList name))

theorem Writes.append {others more : List Char} (h : Writes text front)
    (also : Writes others more) : Writes (text ++ others) (front ++ more) := by
  induction h with
  | nil => exact also
  | plain notReference _ ih => exact .plain notReference ih
  | reference denotes _ ih =>
      rw [List.cons_append, List.cons_append, List.append_assoc, List.cons_append]
      exact .reference denotes ih

/-! ### Decoding -/

theorem cut?_semicolon_iff {s behind : List Char} :
    cut? [';'] s = some (name, behind) ↔ s = name ++ ';' :: behind ∧ ';' ∉ name := by
  rw [Text.cut?_eq_some_iff List.not_mem_nil, List.singleton_infix_iff, List.append_assoc]
  rfl

/-- Reading a name runs to the first semicolon. -/
theorem decodeRest_inside (whole inside s : List Char) :
    decodeRest whole (some inside) s =
      match cut? [';'] s with
      | none => .error (.unterminatedEntity (String.ofList whole))
      | some (name, rest) =>
        match reference? (inside.reverse ++ name) with
        | none => .error (.unknownEntity (String.ofList (inside.reverse ++ name)))
        | some c => (decodeRest whole none rest).map (c :: ·) := by
  induction s generalizing inside with
  | nil => rfl
  | cons d s ih =>
      rw [decodeRest]
      by_cases ends : d = ';'
      · subst ends
        have here : cut? [';'] (';' :: s) = some ([], s) :=
          cut?_semicolon_iff.mpr ⟨rfl, List.not_mem_nil⟩
        simp only [here, if_true, List.append_nil]
        cases reference? inside.reverse <;> rfl
      · have later : [';'].isPrefixOf (d :: s) = false := by
          simpa [List.isPrefixOf] using Ne.symm ends
        rw [cut?, later]
        simp only [ends, if_false, ih]
        cases cut? [';'] s <;> simp

theorem decodeRest_plain (notReference : c ≠ '&') (whole rest : List Char) :
    decodeRest whole none (c :: rest) = (decodeRest whole none rest).map (c :: ·) := by
  rw [decodeRest]
  exact if_neg notReference

theorem decodeRest_reference (whole s : List Char) :
    decodeRest whole none ('&' :: s) =
      match cut? [';'] s with
      | none => .error (.unterminatedEntity (String.ofList whole))
      | some (name, rest) =>
        match reference? name with
        | none => .error (.unknownEntity (String.ofList name))
        | some c => (decodeRest whole none rest).map (c :: ·) :=
  decodeRest_inside whole [] s

/-- What decoding comes to. -/
inductive Outcome (whole written : List Char) : Except ListFault (List Char) → Prop where
  | text {text : List Char} (writes : Writes text written) : Outcome whole written (.ok text)
  | refused {fault : ListFault} (refused : Refused whole written fault) :
      Outcome whole written (.error fault)

/-- Behind what is written well, a text comes to what the rest of it comes to. -/
theorem Outcome.prepend {result : Except ListFault (List Char)} (h : Outcome whole rest result)
    (read : Writes text front) : Outcome whole (front ++ rest) (result.map (text ++ ·)) := by
  cases h with
  | text writes => exact .text (read.append writes)
  | refused refused =>
      refine .refused ?_
      cases refused with
      | unterminated split also endless =>
          exact .unterminated (by rw [split, List.append_assoc]) (read.append also) endless
      | unknown split also first unknown =>
          exact .unknown (by rw [split, List.append_assoc]) (read.append also) first unknown

theorem decodeRest_outcome (whole written : List Char) :
    Outcome whole written (decodeRest whole none written) := by
  induction size : written.length using Nat.strongRecOn generalizing written with
  | ind n ih =>
      have shorter : ∀ rest : List Char, rest.length < written.length →
          Outcome whole rest (decodeRest whole none rest) := by
        intro rest less
        exact ih rest.length (size ▸ less) rest rfl
      cases written with
      | nil => exact .text .nil
      | cons c rest =>
          by_cases ampersand : c = '&'
          · subst ampersand
            rw [decodeRest_reference]
            cases cut : cut? [';'] rest with
            | none =>
                rw [Text.cut?_eq_none_iff, List.singleton_infix_iff] at cut
                exact .refused (.unterminated rfl .nil cut)
            | some parts =>
                obtain ⟨rfl, first⟩ := cut?_semicolon_iff.mp cut
                cases denoted : reference? parts.1 with
                | none =>
                    simp only [denoted]
                    exact .refused (.unknown rfl .nil first (reference?_eq_none_iff.mp denoted))
                | some d =>
                    have here := Writes.reference (denotes_of_reference? denoted) .nil
                    have behind := (shorter parts.2 (by simp; omega)).prepend here
                    simpa [denoted] using behind
          · rw [decodeRest_plain ampersand]
            exact (shorter rest (by simp)).prepend (.plain ampersand .nil)

/-- What is written well is decoded whatever follows it. -/
theorem decodeRest_append (h : Writes text front) (whole rest : List Char) :
    decodeRest whole none (front ++ rest) = (decodeRest whole none rest).map (text ++ ·) := by
  induction h with
  | nil =>
      rw [List.nil_append]
      cases decodeRest whole none rest <;> rfl
  | plain notReference _ ih =>
      rw [List.cons_append, decodeRest_plain notReference, ih]
      cases decodeRest whole none rest <;> rfl
  | reference denotes _ ih =>
      rw [List.cons_append, List.append_assoc, List.cons_append, decodeRest_reference,
        cut?_semicolon_iff.mpr ⟨rfl, denotes.not_mem⟩]
      simp only [reference?_of_denotes denotes, ih]
      cases decodeRest whole none rest <;> rfl

theorem decode_of_writes (h : Writes text written) : decode written = .ok text := by
  have decoded := decodeRest_append h written []
  rw [List.append_nil] at decoded
  rw [decode, decoded]
  exact congrArg Except.ok (List.append_nil text)

theorem decodeRest_of_refused {fault : ListFault} (h : Refused whole written fault) :
    decodeRest whole none written = .error fault := by
  cases h with
  | unterminated split read endless =>
      have cut := Text.cut?_eq_none_iff.mpr ((List.singleton_infix_iff _ _).not.mpr endless)
      rw [split, decodeRest_append read, decodeRest_reference, cut]
      rfl
  | unknown split read first unknown =>
      rw [split, decodeRest_append read, decodeRest_reference,
        cut?_semicolon_iff.mpr ⟨rfl, first⟩]
      simp only [reference?_eq_none_iff.mpr unknown]
      rfl

theorem decode_eq_ok_iff : decode written = .ok text ↔ Writes text written := by
  constructor
  · intro decoded
    have outcome := decodeRest_outcome written written
    rw [← decode, decoded] at outcome
    cases outcome with
    | text writes => exact writes
  · exact decode_of_writes

theorem decode_eq_error_iff {fault : ListFault} :
    decode written = .error fault ↔ Refused written written fault := by
  constructor
  · intro decoded
    have outcome := decodeRest_outcome written written
    rw [← decode, decoded] at outcome
    cases outcome with
    | refused refused => exact refused
  · exact decodeRest_of_refused

/-- A text is decoded to the text that it is a way to write, and to nothing else. Where it is
none, it is refused for what is wrong at one place, and the list that it stands in is malformed. -/
theorem decode_exact (written : List Char) :
    (∀ text, decode written = .ok text ↔ Writes text written) ∧
      (∀ fault, decode written = .error fault ↔ Refused written written fault) ∧
      ((∀ text, ¬ Writes text written) ↔
        ∃ fault, Refused written written fault ∧
          ArgumentList.decodeItem written = .error (.list fault)) := by
  refine ⟨fun _ => decode_eq_ok_iff, fun _ => decode_eq_error_iff, ?_⟩
  constructor
  · intro unwritten
    cases decoded : decode written with
    | ok text => exact absurd (decode_eq_ok_iff.mp decoded) (unwritten text)
    | error fault =>
        refine ⟨fault, decode_eq_error_iff.mp decoded, ?_⟩
        simp only [ArgumentList.decodeItem, decoded]
  · rintro ⟨fault, refused, -⟩ text writes
    cases (decode_of_writes writes).symm.trans (decodeRest_of_refused refused)

example : decode "&amp;lt;&#x+0041;".toList = .ok "&lt;A".toList := by decide +kernel

end ShellLaunch.Encoding.Entity
