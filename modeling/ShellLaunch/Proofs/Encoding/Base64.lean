import ShellLaunch.Encoding.Base64
import ShellLaunch.Proofs.Result

/-!
# Base64 is canonical

Reading undoes writing, and only what is written is read. Both go over the bits between text
and bytes: `sextets` cuts bytes into pieces of six bits, and `written` is the text of such
pieces. A list of pieces stands for bytes if it is `Canonical`, which is what a reader has to
check; `canonical_of_decode` and `decode_written` say that it checks this and nothing else.
-/

namespace ShellLaunch.Encoding.Base64

variable {text bytes : List UInt8} {bits more : List Nat}

/-! ### The alphabet -/

theorem bits?_symbolOf {b : Nat} (small : b < 64) : bits? (symbolOf b) = some b := by
  revert b
  decide

theorem symbolOf_ne_pad {b : Nat} (small : b < 64) : symbolOf b ≠ pad := by
  revert b
  decide

/-- A symbol of the alphabet stands for six bits, and no other symbol stands for them. -/
theorem symbolOf_of_bits? {symbol : UInt8} {b : Nat} (h : bits? symbol = some b) :
    b < 64 ∧ symbolOf b = symbol := by
  have every : ∀ n < 256, (bits? (UInt8.ofNat n)).all fun b =>
      decide (b < 64) && symbolOf b == UInt8.ofNat n := by
    decide +kernel
  have this := every symbol.toNat symbol.toNat_lt
  rw [UInt8.ofNat_toNat, h] at this
  simpa using this

/-! ### Pieces of six bits -/

/-- Every piece has six bits. -/
def Small (bits : List Nat) : Prop :=
  ∀ b ∈ bits, b < 64

/-- The pieces of six bits of some bytes. The bits that are missing at the end are zero. -/
def sextets : List UInt8 → List Nat
  | a :: b :: c :: rest =>
    a.toNat / 4 :: (a.toNat % 4 * 16 + b.toNat / 16) ::
      (b.toNat % 16 * 4 + c.toNat / 64) :: c.toNat % 64 :: sextets rest
  | [a, b] => [a.toNat / 4, a.toNat % 4 * 16 + b.toNat / 16, b.toNat % 16 * 4]
  | [a] => [a.toNat / 4, a.toNat % 4 * 16]
  | [] => []

/-- The text of pieces of six bits: their symbols, filled up to a full group. -/
def written (bits : List Nat) : List UInt8 :=
  bits.map symbolOf ++ List.replicate ((4 - bits.length % 4) % 4) pad

/-- The pieces are those of some bytes: a single one is not left over at the end, and the
bits that are left over are zero. -/
structure Canonical (bits : List Nat) : Prop where
  small : Small bits
  length : bits.length % 4 ≠ 1
  unused : unusedBitsClear (bits.drop (bits.length / 4 * 4)) = true

theorem encode_eq_written (bytes : List UInt8) : encode bytes = written (sextets bytes) := by
  fun_induction encode bytes with
  | case1 a b c rest ih =>
      have padding : (4 - (sextets (a :: b :: c :: rest)).length % 4) % 4 =
          (4 - (sextets rest).length % 4) % 4 := by
        simp only [sextets, List.length_cons]
        omega
      rw [ih, written, written, padding]
      rfl
  | case2 | case3 | case4 => rfl

theorem small_cons {b : Nat} : Small (b :: bits) ↔ b < 64 ∧ Small bits :=
  List.forall_mem_cons

/-- A full group has no bits left over, so what follows it decides. -/
theorem canonical_group {a b c d : Nat} :
    Canonical (a :: b :: c :: d :: bits) ↔
      (a < 64 ∧ b < 64 ∧ c < 64 ∧ d < 64) ∧ Canonical bits := by
  have groups : (a :: b :: c :: d :: bits).length / 4 * 4 = bits.length / 4 * 4 + 4 := by
    simp only [List.length_cons]
    omega
  have length : (a :: b :: c :: d :: bits).length % 4 = bits.length % 4 := by
    simp only [List.length_cons]
    omega
  have drop : (a :: b :: c :: d :: bits).drop (bits.length / 4 * 4 + 4) =
      bits.drop (bits.length / 4 * 4) := rfl
  constructor
  · rintro ⟨small, notOne, unused⟩
    rw [groups, drop] at unused
    rw [length] at notOne
    simp only [small_cons] at small
    obtain ⟨ha, hb, hc, hd, rest⟩ := small
    exact ⟨⟨ha, hb, hc, hd⟩, rest, notOne, unused⟩
  · rintro ⟨⟨ha, hb, hc, hd⟩, small, notOne, unused⟩
    refine ⟨?_, ?_, ?_⟩
    · simp only [small_cons]
      exact ⟨ha, hb, hc, hd, small⟩
    · rwa [length]
    · rwa [groups, drop]

theorem canonical_sextets (bytes : List UInt8) : Canonical (sextets bytes) := by
  fun_induction sextets bytes with
  | case1 a b c rest ih =>
      have ha := a.toNat_lt
      have hb := b.toNat_lt
      have hc := c.toNat_lt
      exact canonical_group.mpr ⟨by omega, ih⟩
  | case2 a b =>
      have ha := a.toNat_lt
      have hb := b.toNat_lt
      refine ⟨?_, by simp, by simp [unusedBitsClear]⟩
      simp only [small_cons]
      exact ⟨by omega, by omega, by omega, by simp [Small]⟩
  | case3 a =>
      have ha := a.toNat_lt
      refine ⟨?_, by simp, by simp [unusedBitsClear]⟩
      simp only [small_cons]
      exact ⟨by omega, by omega, by simp [Small]⟩
  | case4 => exact ⟨by simp [Small], by simp, rfl⟩

/-- Joining the pieces gives the bytes back. -/
theorem bytesOfBits_sextets (bytes : List UInt8) : bytesOfBits (sextets bytes) = bytes := by
  -- The bytes of one group, of which a shorter last group lacks some.
  have first (a b : UInt8) :
      UInt8.ofNat (a.toNat / 4 * 4 + (a.toNat % 4 * 16 + b.toNat / 16) / 16) = a := by
    have hb := b.toNat_lt
    rw [show a.toNat / 4 * 4 + (a.toNat % 4 * 16 + b.toNat / 16) / 16 = a.toNat by omega,
      UInt8.ofNat_toNat]
  have second (a b c : UInt8) :
      UInt8.ofNat ((a.toNat % 4 * 16 + b.toNat / 16) % 16 * 16 +
        (b.toNat % 16 * 4 + c.toNat / 64) / 4) = b := by
    have hb := b.toNat_lt
    have hc := c.toNat_lt
    rw [show (a.toNat % 4 * 16 + b.toNat / 16) % 16 * 16 +
        (b.toNat % 16 * 4 + c.toNat / 64) / 4 = b.toNat by omega, UInt8.ofNat_toNat]
  have third (b c : UInt8) :
      UInt8.ofNat ((b.toNat % 16 * 4 + c.toNat / 64) % 4 * 64 + c.toNat % 64) = c := by
    have hc := c.toNat_lt
    rw [show (b.toNat % 16 * 4 + c.toNat / 64) % 4 * 64 + c.toNat % 64 = c.toNat by omega,
      UInt8.ofNat_toNat]
  fun_induction sextets bytes with
  | case1 a b c rest ih => rw [bytesOfBits, first, second, third, ih]
  | case2 a b => simpa [bytesOfBits, first] using second a b 0
  | case3 a => simpa [bytesOfBits] using first a 0
  | case4 => rfl

/-- Pieces that stand for bytes are the pieces of these bytes. -/
theorem sextets_bytesOfBits (h : Canonical bits) : sextets (bytesOfBits bits) = bits := by
  have toNat {n : Nat} (fits : n < 256) : (UInt8.ofNat n).toNat = n :=
    UInt8.toNat_ofNat_of_lt' fits
  fun_induction bytesOfBits bits with
  | case1 a b c d rest ih =>
      obtain ⟨⟨ha, hb, hc, hd⟩, rest⟩ := canonical_group.mp h
      rw [sextets, ih rest, toNat (by omega), toNat (by omega), toNat (by omega)]
      simp only [List.cons.injEq, and_true]
      omega
  | case2 a b c =>
      obtain ⟨ha, hb, hc, -⟩ : a < 64 ∧ b < 64 ∧ c < 64 ∧ Small [] := by
        simpa only [small_cons] using h.small
      have unused : c % 4 = 0 := by simpa [unusedBitsClear] using h.unused
      rw [sextets, toNat (by omega), toNat (by omega)]
      simp only [List.cons.injEq, and_true]
      omega
  | case3 a b =>
      obtain ⟨ha, hb, -⟩ : a < 64 ∧ b < 64 ∧ Small [] := by
        simpa only [small_cons] using h.small
      have unused : b % 16 = 0 := by simpa [unusedBitsClear] using h.unused
      rw [sextets, toNat (by omega)]
      simp only [List.cons.injEq, and_true]
      omega
  | case4 bits fourOrMore three two =>
      match bits with
      | [] => rfl
      | [b] => exact absurd rfl h.length
      | [a, b] => exact (two a b rfl).elim
      | [a, b, c] => exact (three a b c rfl).elim
      | a :: b :: c :: d :: rest => exact (fourOrMore a b c d rest rfl).elim

/-! ### Reading symbols -/

theorem readGroups_eq_ok_iff {offset : Nat} :
    readGroups offset text = .ok bits ↔ text = bits.map symbolOf ∧ Small bits := by
  induction text generalizing offset bits with
  | nil =>
      rw [readGroups]
      constructor
      · rintro ⟨⟩
        exact ⟨rfl, by simp [Small]⟩
      · rintro ⟨empty, -⟩
        rw [List.map_eq_nil_iff.mp empty.symm]
  | cons symbol rest ih =>
      rw [readGroups]
      constructor
      · intro h
        cases known : bits? symbol with
        | none =>
            rw [known] at h
            cases h
        | some b =>
            rw [known] at h
            obtain ⟨others, hrest, rfl⟩ := Except.map_eq_ok_iff.mp h
            obtain ⟨rfl, small⟩ := ih.mp hrest
            obtain ⟨hb, rfl⟩ := symbolOf_of_bits? known
            exact ⟨rfl, small_cons.mpr ⟨hb, small⟩⟩
      · rintro ⟨symbols, small⟩
        cases bits with
        | nil => cases symbols
        | cons b others =>
            obtain ⟨rfl, rfl⟩ := List.cons.inj symbols
            obtain ⟨hb, small⟩ := small_cons.mp small
            rw [bits?_symbolOf hb]
            exact Except.map_eq_ok_iff.mpr ⟨others, ih.mpr ⟨rfl, small⟩, rfl⟩

/-- What is read of a last group is what stands there: symbols, then padding. -/
theorem readLastGroup_of_ok {start : Nat} {seen group : LastGroup}
    (h : readLastGroup start seen text = .ok group) :
    ∃ more count, text = more.map symbolOf ++ List.replicate count pad ∧ Small more ∧
      group = ⟨seen.bits ++ more, seen.padding + count⟩ ∧ (seen.padding ≠ 0 → more = []) := by
  induction text generalizing seen with
  | nil =>
      rw [readLastGroup] at h
      cases h
      exact ⟨[], 0, rfl, by simp [Small], by simp, fun _ => rfl⟩
  | cons symbol rest ih =>
      simp only [readLastGroup] at h
      split at h
      next isPad =>
        split at h
        · cases h
        obtain ⟨more, count, rfl, small, rfl, nothing⟩ := ih h
        obtain rfl : more = [] := nothing (Nat.succ_ne_zero _)
        refine ⟨[], count + 1, ?_, by simp [Small], ?_, fun _ => rfl⟩
        · rw [isPad]
          rfl
        · simp only [List.append_nil, Nat.add_assoc, Nat.add_comm 1 count]
      next =>
        split at h
        · cases h
        next unpadded =>
          have unpadded : seen.padding = 0 := Decidable.not_not.mp unpadded
          cases known : bits? symbol with
          | none =>
              rw [known] at h
              cases h
          | some b =>
              rw [known] at h
              obtain ⟨more, count, rfl, small, rfl, -⟩ := ih h
              obtain ⟨hb, rfl⟩ := symbolOf_of_bits? known
              refine ⟨b :: more, count, rfl, small_cons.mpr ⟨hb, small⟩, ?_, ?_⟩
              · simp
              · intro padded
                exact absurd unpadded padded

theorem readLastGroup_padding (start : Nat) {padding : Nat} (enough : 2 ≤ bits.length)
    (count : Nat) :
    readLastGroup start ⟨bits, padding⟩ (List.replicate count pad) =
      .ok ⟨bits, padding + count⟩ := by
  induction count generalizing padding with
  | zero => rfl
  | succ count ih =>
      rw [List.replicate_succ, readLastGroup, if_pos rfl, if_neg (by simp only; omega), ih,
        Nat.add_assoc, Nat.add_comm 1 count]

theorem readLastGroup_symbols (start : Nat) (small : Small more) (rest : List UInt8) :
    readLastGroup start ⟨bits, 0⟩ (more.map symbolOf ++ rest) =
      readLastGroup start ⟨bits ++ more, 0⟩ rest := by
  induction more generalizing bits with
  | nil => simp
  | cons b more ih =>
      obtain ⟨hb, small⟩ := small_cons.mp small
      rw [List.map_cons, List.cons_append, readLastGroup, if_neg (symbolOf_ne_pad hb),
        if_neg (by simp), bits?_symbolOf hb]
      simp only
      rw [ih small, List.append_assoc, List.singleton_append]

/-! ### Reading a text -/

theorem lastGroupStart_le (n : Nat) : lastGroupStart n ≤ n := by
  unfold lastGroupStart
  split <;> omega

theorem fault?_eq_none_iff {group : LastGroup} :
    group.fault? text = none ↔
      (text = [] ∨ 2 ≤ group.bits.length) ∧ (group.padding + group.bits.length) % 4 = 0 ∧
        unusedBitsClear group.bits = true := by
  simp only [LastGroup.fault?]
  split
  next short =>
    constructor
    · intro h
      cases h
    · rintro ⟨empty | enough, -⟩
      · exact absurd empty short.1
      · omega
  next enough =>
    have enough : text = [] ∨ 2 ≤ group.bits.length := by
      by_cases empty : text = []
      · exact .inl empty
      · exact .inr (Nat.le_of_not_lt fun short => enough ⟨empty, short⟩)
    split
    next padding => simp [padding]
    next padding =>
      have padding := Decidable.not_not.mp padding
      split
      next clear => simp [enough, padding, clear]
      next unclear => simp [unclear]

/-- A text is read in two parts, the last group and what stands in front of it. -/
theorem decode_eq_ok_iff_parts :
    decode text = .ok bytes ↔
      strayLast? text = none ∧
        ∃ front group, readGroups 0 (text.take (lastGroupStart text.length)) = .ok front ∧
          readLastGroup (lastGroupStart text.length) ⟨[], 0⟩
            (text.drop (lastGroupStart text.length)) = .ok group ∧
          group.fault? text = none ∧ bytesOfBits (front ++ group.bits) = bytes := by
  simp only [decode]
  cases strayLast? text with
  | some => simp
  | none =>
      cases readGroups 0 (text.take (lastGroupStart text.length)) with
      | error => simp
      | ok front =>
          cases readLastGroup (lastGroupStart text.length) ⟨[], 0⟩
              (text.drop (lastGroupStart text.length)) with
          | error => simp
          | ok group => cases faulty : group.fault? text <;> simp [faulty]

theorem unusedBitsClear_of_full (full : bits.length % 4 = 0) : unusedBitsClear bits = true := by
  unfold unusedBitsClear
  split
  · cases full
  · cases full
  · rfl

/-- Where the last group is in order, the groups in front of it are full. -/
theorem lengths_of_lastGroup {n front last padding : Nat} (hfront : front = lastGroupStart n)
    (hlast : last + padding = n - lastGroupStart n) (enough : n = 0 ∨ 2 ≤ last)
    (groups : (padding + last) % 4 = 0) :
    front % 4 = 0 ∧ last ≠ 1 ∧ last ≤ 4 ∧ padding = (4 - (front + last) % 4) % 4 := by
  rw [← hfront] at hlast
  rw [lastGroupStart] at hfront
  split at hfront <;> omega

theorem canonical_append {last : List Nat} (front_small : Small bits) (last_small : Small last)
    (full : bits.length % 4 = 0) (one : last.length ≠ 1) (most : last.length ≤ 4)
    (clear : unusedBitsClear last = true) : Canonical (bits ++ last) where
  small := by
    intro b member
    rcases List.mem_append.mp member with member | member
    · exact front_small b member
    · exact last_small b member
  length := by
    rw [List.length_append]
    omega
  unused := by
    rw [List.length_append]
    by_cases four : last.length = 4
    · rw [List.drop_of_length_le (by rw [List.length_append]; omega)]
      rfl
    · rw [show (bits.length + last.length) / 4 * 4 = bits.length by omega, List.drop_left]
      exact clear

/-- What is accepted is the text of canonical pieces. -/
theorem canonical_of_decode (h : decode text = .ok bytes) :
    ∃ bits, Canonical bits ∧ text = written bits ∧ bytesOfBits bits = bytes := by
  obtain ⟨-, front, group, hfront, hgroup, faultless, rfl⟩ := decode_eq_ok_iff_parts.mp h
  obtain ⟨enough, groups, clear⟩ := fault?_eq_none_iff.mp faultless
  obtain ⟨take_eq, smallFront⟩ := readGroups_eq_ok_iff.mp hfront
  obtain ⟨last, padding, drop_eq, smallLast, rfl, -⟩ := readLastGroup_of_ok hgroup
  simp only [List.nil_append, Nat.zero_add] at enough groups clear ⊢
  have frontLength : front.length = lastGroupStart text.length := by
    have length := congrArg List.length take_eq
    rw [List.length_take, List.length_map, Nat.min_eq_left (lastGroupStart_le _)] at length
    exact length.symm
  have lastLength : last.length + padding = text.length - lastGroupStart text.length := by
    have length := congrArg List.length drop_eq
    rw [List.length_drop, List.length_append, List.length_map, List.length_replicate] at length
    exact length.symm
  obtain ⟨full, one, most, padding_eq⟩ :=
    lengths_of_lastGroup frontLength lastLength (enough.imp_left List.length_eq_zero_iff.mpr) groups
  refine ⟨front ++ last, canonical_append smallFront smallLast full one most clear, ?_, rfl⟩
  rw [written, List.length_append, ← padding_eq, List.map_append, List.append_assoc, ← take_eq,
    ← drop_eq, List.take_append_drop]

theorem length_written (h : Canonical bits) :
    (written bits).length = (bits.length + 3) / 4 * 4 := by
  have notOne := h.length
  rw [written, List.length_append, List.length_map, List.length_replicate]
  omega

/-- The text of canonical pieces is accepted. -/
theorem decode_written (h : Canonical bits) : decode (written bits) = .ok (bytesOfBits bits) := by
  have notOne := h.length
  have length := length_written h
  have start : lastGroupStart (written bits).length = (bits.length - 1) / 4 * 4 := by
    rw [length, lastGroupStart, if_pos (by omega)]
    omega
  rw [decode_eq_ok_iff_parts, start]
  generalize hk : (bits.length - 1) / 4 * 4 = k
  have le : k ≤ bits.length := by omega
  refine ⟨?_, bits.take k, ⟨bits.drop k, (4 - bits.length % 4) % 4⟩, ?_, ?_, ?_, ?_⟩
  · rw [strayLast?, if_neg (by omega)]
  · rw [readGroups_eq_ok_iff, written, List.take_append_of_le_length (by simpa using le),
      List.map_take]
    exact ⟨rfl, fun b member => h.small b (List.mem_of_mem_take member)⟩
  · rw [written, List.drop_append_of_le_length (by simpa using le), ← List.map_drop,
      readLastGroup_symbols _ fun b member => h.small b (List.mem_of_mem_drop member)]
    rcases Nat.eq_zero_or_pos bits.length with none | some
    · rw [List.length_eq_zero_iff.mp none]
      rfl
    · rw [List.nil_append, readLastGroup_padding _ (by rw [List.length_drop]; omega), Nat.zero_add]
  · rw [fault?_eq_none_iff]
    refine ⟨?_, ?_, ?_⟩
    · rcases Nat.eq_zero_or_pos bits.length with none | some
      · exact .inl (List.length_eq_zero_iff.mp (by omega))
      · exact .inr (by simp only [List.length_drop]; omega)
    · simp only [List.length_drop]
      omega
    · by_cases full : bits.length % 4 = 0
      · exact unusedBitsClear_of_full (by rw [List.length_drop]; omega)
      · rw [show k = bits.length / 4 * 4 by omega]
        exact h.unused
  · simp only [List.take_append_drop]

/-- Reading accepts what writing produces and nothing else. -/
theorem decode_eq_ok_iff : decode text = .ok bytes ↔ text = encode bytes := by
  constructor
  · intro h
    obtain ⟨bits, canonical, rfl, rfl⟩ := canonical_of_decode h
    rw [encode_eq_written, sextets_bytesOfBits canonical]
  · rintro rfl
    rw [encode_eq_written, decode_written (canonical_sextets bytes), bytesOfBits_sextets]

/-- A text that is not accepted is refused with a fault. -/
theorem exists_fault_iff :
    (∃ fault, decode text = .error fault) ↔ ∀ bytes, text ≠ encode bytes := by
  constructor
  · rintro ⟨fault, refused⟩ bytes written
    rw [decode_eq_ok_iff.mpr written] at refused
    cases refused
  · intro unwritten
    cases read : decode text with
    | ok bytes => exact absurd (decode_eq_ok_iff.mp read) (unwritten bytes)
    | error fault => exact ⟨fault, rfl⟩

end ShellLaunch.Encoding.Base64
