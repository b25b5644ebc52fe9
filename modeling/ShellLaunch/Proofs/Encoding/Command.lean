import ShellLaunch.Encoding.Command
import ShellLaunch.Proofs.Encoding.Base64
import ShellLaunch.Proofs.Encoding.Utf16

/-!
# Encoded commands are read in one way

An encoded value is the base64 text of some bytes or it is not, and the bytes are an even
number with all surrogates paired or they are not. Each of the four outcomes of reading a
value stands for one of these cases.
-/

namespace ShellLaunch.Encoding

open Utf16 (HasUnpairedSurrogate)

variable {value : String} {bytes : List UInt8}

/-! ### Base64 as text -/

def Base64.text (bytes : List UInt8) : String :=
  String.ofList ((Base64.encode bytes).map fun byte => Char.ofNat byte.toNat)

theorem Base64.encode_ascii (bytes : List UInt8) :
    ∀ byte ∈ Base64.encode bytes, byte.toNat < 128 := by
  have symbol : ∀ b < 64, (Base64.symbolOf b).toNat < 128 := by decide
  intro byte member
  rw [Base64.encode_eq_written] at member
  rcases List.mem_append.mp member with member | member
  · obtain ⟨b, member, same⟩ := List.mem_map.mp member
    rw [← same]
    exact symbol b ((Base64.canonical_sextets bytes).small b member)
  · rw [List.eq_of_mem_replicate member]
    decide

/-- An ASCII text has one byte for each character. -/
theorem utf8_ofList_of_ascii (ascii : ∀ byte ∈ bytes, byte.toNat < 128) :
    (String.ofList (bytes.map fun byte => Char.ofNat byte.toNat)).toUTF8.data.toList = bytes := by
  have single : ∀ n < 128, String.utf8EncodeChar (Char.ofNat n) = [UInt8.ofNat n] := by
    decide +kernel
  rw [String.toUTF8_eq_toByteArray, String.toByteArray_ofList, List.utf8Encode,
    List.toList_data_toByteArray]
  induction bytes with
  | nil => rfl
  | cons byte rest ih =>
      rw [List.map_cons, List.flatMap_cons, single _ (ascii byte List.mem_cons_self),
        UInt8.ofNat_toNat, ih fun other member => ascii other (List.mem_cons_of_mem _ member)]
      rfl

/-- The bytes of a value are base64 if and only if the value is. -/
theorem utf8_eq_encode_iff :
    value.toUTF8.data.toList = Base64.encode bytes ↔ value = Base64.text bytes := by
  have text_bytes : (Base64.text bytes).toUTF8.data.toList = Base64.encode bytes :=
    utf8_ofList_of_ascii (Base64.encode_ascii bytes)
  constructor
  · intro h
    rw [← text_bytes] at h
    exact String.toByteArray_inj.mp (ByteArray.ext (Array.toList_inj.mp h))
  · rintro rfl
    exact text_bytes

/-! ### The four outcomes -/

theorem encodeCommand_eq_text (command : String) :
    encodeCommand command = Base64.text (Utf16.toBytes (Utf16.encode command.toList)) := rfl

theorem decodeCommand_text (bytes : List UInt8) :
    decodeCommand (Base64.text bytes) =
      if bytes.length % 2 ≠ 0 then .error (.oddLength bytes.length)
      else
        match Utf16.decode (Utf16.ofBytes bytes) with
        | none => .error .unpairedSurrogate
        | some command => .ok (String.ofList command) := by
  have read : Base64.decode (Base64.text bytes).toUTF8.data.toList = .ok bytes :=
    Base64.decode_eq_ok_iff.mpr (utf8_eq_encode_iff.mpr rfl)
  unfold decodeCommand
  exact read ▸ rfl

theorem decodeCommand_of_odd (odd : bytes.length % 2 = 1) :
    decodeCommand (Base64.text bytes) = .error (.oddLength bytes.length) := by
  rw [decodeCommand_text, if_pos (by omega)]

theorem decodeCommand_of_unpaired (even : bytes.length % 2 = 0)
    (alone : HasUnpairedSurrogate (Utf16.ofBytes bytes)) :
    decodeCommand (Base64.text bytes) = .error .unpairedSurrogate := by
  rw [decodeCommand_text, if_neg (by omega), Utf16.decode_eq_none_iff.mpr alone]

/-- Every command is recovered. -/
theorem decodeCommand_encodeCommand (command : String) :
    decodeCommand (encodeCommand command) = .ok command := by
  rw [encodeCommand_eq_text, decodeCommand_text,
    if_neg (by rw [Utf16.length_toBytes]; omega), Utf16.ofBytes_toBytes, Utf16.decode_encode]
  simp only [String.ofList_toList]

example : encodeCommand "abbra" = "YQBiAGIAcgBhAA==" := by decide +kernel

theorem decodeCommand_of_not_text (foreign : ∀ bytes, value ≠ Base64.text bytes) :
    ∃ fault, decodeCommand value = .error (.base64 fault) := by
  obtain ⟨fault, refused⟩ := Base64.exists_fault_iff.mpr fun bytes written =>
    foreign bytes (utf8_eq_encode_iff.mp written)
  exact ⟨fault, by rw [decodeCommand, refused]⟩

/-- The base64 texts of even length in bytes without a lone surrogate are the encoded
commands. -/
theorem exists_encodeCommand (even : bytes.length % 2 = 0)
    (paired : ¬ HasUnpairedSurrogate (Utf16.ofBytes bytes)) :
    ∃ command, Base64.text bytes = encodeCommand command := by
  rw [← Utf16.decode_eq_none_iff, ← ne_eq, Option.ne_none_iff_exists'] at paired
  obtain ⟨command, read⟩ := paired
  refine ⟨String.ofList command, ?_⟩
  rw [encodeCommand_eq_text, String.toList_ofList, ← Utf16.decode_eq_some_iff.mp read,
    Utf16.toBytes_ofBytes even]

/-- What reading a value comes to, told by what the value is. -/
inductive CommandOutcome : String → Except Fault String → Prop where
  | command (command : String) : CommandOutcome (encodeCommand command) (.ok command)
  | odd {bytes : List UInt8} (odd : bytes.length % 2 = 1) :
      CommandOutcome (Base64.text bytes) (.error (.oddLength bytes.length))
  | unpaired {bytes : List UInt8} (even : bytes.length % 2 = 0)
      (alone : HasUnpairedSurrogate (Utf16.ofBytes bytes)) :
      CommandOutcome (Base64.text bytes) (.error .unpairedSurrogate)
  | foreign {value : String} (foreign : ∀ bytes, value ≠ Base64.text bytes)
      (fault : Base64.Fault) : CommandOutcome value (.error (.base64 fault))

theorem decodeCommand_outcome (value : String) : CommandOutcome value (decodeCommand value) := by
  by_cases text : ∃ bytes, value = Base64.text bytes
  · obtain ⟨bytes, rfl⟩ := text
    rcases Nat.mod_two_eq_zero_or_one bytes.length with even | odd
    · by_cases alone : HasUnpairedSurrogate (Utf16.ofBytes bytes)
      · rw [decodeCommand_of_unpaired even alone]
        exact .unpaired even alone
      · obtain ⟨command, same⟩ := exists_encodeCommand even alone
        rw [same, decodeCommand_encodeCommand]
        exact .command command
    · rw [decodeCommand_of_odd odd]
      exact .odd odd
  · have foreign : ∀ bytes, value ≠ Base64.text bytes := fun bytes same => text ⟨bytes, same⟩
    obtain ⟨fault, refused⟩ := decodeCommand_of_not_text foreign
    rw [refused]
    exact .foreign foreign fault

theorem decodeCommand_eq_ok_iff {command : String} :
    decodeCommand value = .ok command ↔ value = encodeCommand command := by
  constructor
  · intro read
    have outcome := decodeCommand_outcome value
    rw [read] at outcome
    cases outcome
    rfl
  · rintro rfl
    exact decodeCommand_encodeCommand command

/-- No two values stand for one command. -/
theorem eq_of_decodeCommand {other command : String} (h : decodeCommand value = .ok command)
    (also : decodeCommand other = .ok command) : value = other := by
  rw [decodeCommand_eq_ok_iff.mp h, decodeCommand_eq_ok_iff.mp also]

theorem decodeCommand_eq_odd_iff {n : Nat} :
    decodeCommand value = .error (.oddLength n) ↔
      ∃ bytes, bytes.length = n ∧ n % 2 = 1 ∧ value = Base64.text bytes := by
  constructor
  · intro refused
    have outcome := decodeCommand_outcome value
    rw [refused] at outcome
    cases outcome with
    | odd odd => exact ⟨_, rfl, odd, rfl⟩
  · rintro ⟨bytes, rfl, odd, rfl⟩
    exact decodeCommand_of_odd odd

theorem decodeCommand_eq_unpaired_iff :
    decodeCommand value = .error .unpairedSurrogate ↔
      ∃ bytes, bytes.length % 2 = 0 ∧ HasUnpairedSurrogate (Utf16.ofBytes bytes) ∧
        value = Base64.text bytes := by
  constructor
  · intro refused
    have outcome := decodeCommand_outcome value
    rw [refused] at outcome
    cases outcome with
    | unpaired even alone => exact ⟨_, even, alone, rfl⟩
  · rintro ⟨bytes, even, alone, rfl⟩
    exact decodeCommand_of_unpaired even alone

theorem decodeCommand_foreign_iff :
    (∃ fault, decodeCommand value = .error (.base64 fault)) ↔
      ∀ bytes, value ≠ Base64.text bytes := by
  constructor
  · rintro ⟨fault, refused⟩
    have outcome := decodeCommand_outcome value
    rw [refused] at outcome
    cases outcome with
    | foreign foreign => exact foreign
  · exact decodeCommand_of_not_text

/-- A command is never refused for a list. -/
theorem decodeCommand_ne_list (fault : ListFault) : decodeCommand value ≠ .error (.list fault) := by
  intro refused
  have outcome := decodeCommand_outcome value
  rw [refused] at outcome
  cases outcome

/-- Reading a value undoes the base64 text of the UTF-16 bytes of a command, and refuses
everything else for one of three reasons: an odd number of bytes, a lone surrogate in an even
number of them, or a text that is not the base64 of any bytes. -/
theorem decodeCommand_exact (value : String) :
    (∀ command, decodeCommand value = .ok command ↔
        value = Base64.text (Utf16.toBytes (Utf16.encode command.toList))) ∧
      (∀ n, decodeCommand value = .error (.oddLength n) ↔
        ∃ bytes, bytes.length = n ∧ n % 2 = 1 ∧ value = Base64.text bytes) ∧
      (decodeCommand value = .error .unpairedSurrogate ↔
        ∃ bytes, bytes.length % 2 = 0 ∧ HasUnpairedSurrogate (Utf16.ofBytes bytes) ∧
          value = Base64.text bytes) ∧
      ((∃ fault, decodeCommand value = .error (.base64 fault)) ↔
        ∀ bytes, value ≠ Base64.text bytes) ∧
      ∀ fault, decodeCommand value ≠ .error (.list fault) :=
  ⟨fun _ => decodeCommand_eq_ok_iff, fun _ => decodeCommand_eq_odd_iff,
    decodeCommand_eq_unpaired_iff, decodeCommand_foreign_iff, decodeCommand_ne_list⟩

end ShellLaunch.Encoding
