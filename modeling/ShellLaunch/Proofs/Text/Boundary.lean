import ShellLaunch.Text.Cut

/-!
# Cuts between characters

A position is counted in bytes, so it can lie inside a character. A checked cut is one that
refuses such a position, and one behind the end of the text: where it gives a result, the text
falls apart there (`behind?_eq_some_iff`, `between?_eq_some_iff`).
-/

namespace ShellLaunch.Text

variable {s front back : List Char} {n first last : Nat}

theorem byteSize_append (front back : List Char) :
    byteSize (front ++ back) = byteSize front + byteSize back := by
  induction front with
  | nil => rw [List.nil_append, byteSize, Nat.zero_add]
  | cons c front ih => rw [List.cons_append, byteSize, byteSize, ih, Nat.add_assoc]

theorem byteSize_eq_zero_iff : byteSize s = 0 ↔ s = [] := by
  cases s with
  | nil => exact iff_of_true rfl rfl
  | cons c s =>
      have positive := c.utf8Size_pos
      refine iff_of_false ?_ (List.cons_ne_nil c s)
      rw [byteSize]
      omega

/-- A text of ASCII characters has as many bytes as characters. -/
theorem byteSize_of_ascii (ascii : ∀ c ∈ s, c.toNat < 128) : byteSize s = s.length := by
  induction s with
  | nil => rfl
  | cons c s ih =>
      obtain ⟨small, others⟩ := List.forall_mem_cons.mp ascii
      have first : c.utf8Size = 1 :=
        Char.utf8Size_eq_one_iff.mpr (UInt32.le_iff_toNat_le.mpr (Nat.le_of_lt_succ small))
      rw [byteSize, first, ih others, List.length_cons, Nat.add_comm]

/-- Of two beginnings of a text, the one with fewer bytes is a beginning of the other. -/
theorem exists_append_of_byteSize_le {more rest : List Char} (same : front ++ back = more ++ rest)
    (shorter : byteSize front ≤ byteSize more) : ∃ between, more = front ++ between := by
  rcases List.append_eq_append_iff.mp same with ⟨between, more_eq, -⟩ | ⟨between, rfl, -⟩
  · exact ⟨between, more_eq⟩
  · rw [byteSize_append] at shorter
    obtain rfl : between = [] := byteSize_eq_zero_iff.mp (by omega)
    exact ⟨[], by simp⟩

/-- A text is cut at a position in one way. -/
theorem append_inj_of_byteSize {more rest : List Char} (same : front ++ back = more ++ rest)
    (size : byteSize front = byteSize more) : front = more ∧ back = rest := by
  obtain ⟨between, rfl⟩ := exists_append_of_byteSize_le same (Nat.le_of_eq size)
  rw [byteSize_append] at size
  obtain rfl : between = [] := byteSize_eq_zero_iff.mp (by omega)
  rw [List.append_nil] at same
  exact ⟨(List.append_nil front).symm, List.append_cancel_left same⟩

/-- Whether a position is in the text or at its end, and not inside a character. -/
def isBoundary : Nat → List Char → Bool
  | 0, _ => true
  | _ + 1, [] => false
  | n + 1, c :: s => decide (c.utf8Size ≤ n + 1) && isBoundary (n + 1 - c.utf8Size) s

theorem isBoundary_append (front back : List Char) :
    isBoundary (byteSize front) (front ++ back) = true := by
  induction front with
  | nil => rw [byteSize, isBoundary]
  | cons c front ih =>
      obtain ⟨n, size⟩ : ∃ n, byteSize (c :: front) = n + 1 :=
        Nat.exists_eq_succ_of_ne_zero (mt byteSize_eq_zero_iff.mp (List.cons_ne_nil c front))
      rw [byteSize] at size
      have others : n + 1 - c.utf8Size = byteSize front := by omega
      have fits : c.utf8Size ≤ n + 1 := by omega
      rw [byteSize, size, List.cons_append, isBoundary, others, ih, decide_eq_true fits]
      rfl

theorem isBoundary_iff :
    isBoundary n s = true ↔ ∃ front back, s = front ++ back ∧ byteSize front = n := by
  constructor
  · intro h
    induction n, s using isBoundary.induct with
    | case1 s => exact ⟨[], s, rfl, rfl⟩
    | case2 n => cases h
    | case3 n c s ih =>
        rw [isBoundary, Bool.and_eq_true, decide_eq_true_iff] at h
        obtain ⟨front, back, rfl, size⟩ := ih h.2
        refine ⟨c :: front, back, rfl, ?_⟩
        rw [byteSize, size]
        omega
  · rintro ⟨front, back, rfl, rfl⟩
    exact isBoundary_append front back

/-- What stands behind a position, if the text can be cut there. -/
def behind? (n : Nat) (s : List Char) : Option (List Char) :=
  if isBoundary n s then some (dropBytes n s) else none

/-- What stands between two positions, if the text can be cut at both. -/
def between? (first last : Nat) (s : List Char) : Option (List Char) :=
  if first ≤ last ∧ isBoundary first s ∧ isBoundary last s then some (slice first last s) else none

theorem behind?_append (front back : List Char) :
    behind? (byteSize front) (front ++ back) = some back := by
  rw [behind?, if_pos (isBoundary_append front back), dropBytes_append]

theorem behind?_eq_some_iff :
    behind? n s = some back ↔ ∃ front, s = front ++ back ∧ byteSize front = n := by
  constructor
  · intro h
    obtain ⟨boundary, dropped⟩ := Option.ite_none_right_eq_some.mp h
    obtain ⟨front, rest, rfl, rfl⟩ := isBoundary_iff.mp boundary
    rw [dropBytes_append, Option.some.injEq] at dropped
    exact ⟨front, by rw [dropped], rfl⟩
  · rintro ⟨front, rfl, rfl⟩
    exact behind?_append front back

theorem between?_eq_some_iff {part : List Char} :
    between? first last s = some part ↔
      ∃ front back, s = front ++ (part ++ back) ∧ byteSize front = first ∧
        first + byteSize part = last := by
  constructor
  · intro h
    obtain ⟨⟨ordered, begins, ends⟩, cut⟩ := Option.ite_none_right_eq_some.mp h
    obtain ⟨front, rest, rfl, rfl⟩ := isBoundary_iff.mp begins
    obtain ⟨more, back, same, rfl⟩ := isBoundary_iff.mp ends
    obtain ⟨between, rfl⟩ := exists_append_of_byteSize_le same ordered
    rw [List.append_assoc] at same
    obtain rfl := List.append_cancel_left same
    rw [byteSize_append, slice_append, Option.some.injEq] at cut
    exact ⟨front, back, by rw [cut], rfl, by rw [byteSize_append, cut]⟩
  · rintro ⟨front, back, rfl, rfl, rfl⟩
    have ends := isBoundary_append (front ++ part) back
    rw [byteSize_append, List.append_assoc] at ends
    rw [between?, if_pos ⟨Nat.le_add_right _ _, isBoundary_append _ _, ends⟩, slice_append]

end ShellLaunch.Text
