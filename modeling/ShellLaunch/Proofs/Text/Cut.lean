import ShellLaunch.Text.Cut

/-!
# The first occurrence of a mark

A text is cut in front of the first occurrence of a mark. A mark whose first character does
not come again in it cannot overlap with itself, so a text that holds such a mark is cut in
one way only: what stands before the mark is free of it (`cut?_eq_some_iff`).
-/

namespace ShellLaunch.Text

variable {start : Char} {tail mark s before behind : List Char}

/-- What holds no `start` has no part in a mark that begins with it. -/
theorem infix_append_iff (foreign : start ∉ before) :
    start :: tail <:+: before ++ s ↔ start :: tail <:+: s := by
  induction before with
  | nil => rfl
  | cons c before ih =>
      rw [List.mem_cons, not_or] at foreign
      rw [List.cons_append, List.infix_cons_iff, ih foreign.2, List.cons_prefix_cons]
      exact or_iff_right fun same => foreign.1 same.1

/-- What holds no `start` ends in front of it. -/
theorem prefix_append_iff (foreign : start ∉ mark) :
    mark <+: before ++ start :: behind ↔ mark <+: before := by
  induction mark generalizing before with
  | nil => simp
  | cons c mark ih =>
      rw [List.mem_cons, not_or] at foreign
      cases before with
      | nil => simpa using fun same : c = start => absurd same.symm foreign.1
      | cons d before =>
          rw [List.cons_append, List.cons_prefix_cons, List.cons_prefix_cons, ih foreign.2]

theorem cut?_eq_none_iff : cut? mark s = none ↔ ¬ mark <:+: s := by
  induction s with
  | nil =>
      rw [cut?, List.infix_nil]
      cases mark <;> simp
  | cons c rest ih =>
      rw [cut?, List.infix_cons_iff, ← List.isPrefixOf_iff_prefix]
      by_cases here : mark.isPrefixOf (c :: rest) = true
      · simp [here]
      · rw [if_neg here, Option.map_eq_none_iff, ih]
        simp [here]

theorem occursIn_iff : occursIn mark s = true ↔ mark <:+: s := by
  rw [occursIn, Option.isSome_iff_ne_none, Ne, cut?_eq_none_iff, Classical.not_not]

/-- No mark begins in front of the first place where one is found. -/
theorem not_infix_of_cut? (h : cut? (start :: tail) s = some (before, behind)) :
    ¬ start :: tail <:+: before := by
  induction s generalizing before with
  | nil => cases h
  | cons c rest ih =>
      rw [cut?] at h
      split at h
      next =>
        obtain ⟨rfl, -⟩ : before = [] ∧ _ := by simpa [eq_comm] using h
        simp
      next later =>
        obtain ⟨⟨before', behind'⟩, hrest, heq⟩ := Option.map_eq_some_iff.mp h
        obtain ⟨rfl, rfl⟩ : c :: before' = before ∧ behind' = behind := by simpa using heq
        rw [eq_append_of_cut? hrest] at later
        rw [List.infix_cons_iff, not_or]
        refine ⟨fun early => later (List.isPrefixOf_iff_prefix.mpr ?_), ih hrest⟩
        rw [List.append_assoc, ← List.cons_append]
        exact early.trans (List.prefix_append _ _)

/-- A mark that does not overlap with itself is found behind any text that is free of it. -/
theorem cut?_append (once : start ∉ tail) (free : ¬ start :: tail <:+: before) :
    cut? (start :: tail) (before ++ start :: (tail ++ behind)) = some (before, behind) := by
  induction before with
  | nil =>
      have here : (start :: tail).isPrefixOf (start :: (tail ++ behind)) = true :=
        List.isPrefixOf_iff_prefix.mpr (List.prefix_append (start :: tail) behind)
      rw [List.nil_append, cut?, if_pos here]
      simp
  | cons c before ih =>
      rw [List.infix_cons_iff, not_or] at free
      -- a mark that begins here would have to reach into the one behind `before`
      have later : ¬ (start :: tail).isPrefixOf (c :: (before ++ start :: (tail ++ behind))) := by
        rw [List.isPrefixOf_iff_prefix, List.cons_prefix_cons, prefix_append_iff once,
          ← List.cons_prefix_cons]
        exact free.1
      rw [List.cons_append, cut?, if_neg later, ih free.2]
      rfl

theorem cut?_eq_some_iff (once : start ∉ tail) :
    cut? (start :: tail) s = some (before, behind) ↔
      s = before ++ start :: tail ++ behind ∧ ¬ start :: tail <:+: before := by
  constructor
  · intro h
    exact ⟨eq_append_of_cut? h, not_infix_of_cut? h⟩
  · rintro ⟨rfl, free⟩
    rw [List.append_assoc]
    exact cut?_append once free

end ShellLaunch.Text
