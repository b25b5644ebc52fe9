import ShellLaunch.Text.Cut

/-!
# The parts of a text

The parts between separators hold none themselves, and parts put together again with
separators in front are found again.
-/

namespace ShellLaunch.Text

variable {separator : Char} {front s part : List Char} {parts : List (List Char)}

theorem split_separator (separator : Char) (s : List Char) :
    split separator (separator :: s) = [] :: split separator s := by
  rw [split, List.foldr_cons, if_pos rfl, ← split]

theorem split_cons {c : Char} (other : c ≠ separator) (h : split separator s = part :: parts) :
    split separator (c :: s) = (c :: part) :: parts := by
  rw [split, List.foldr_cons, if_neg other, ← split, h]

theorem exists_split (separator : Char) (s : List Char) :
    ∃ part parts, split separator s = part :: parts := by
  induction s with
  | nil => exact ⟨[], [], rfl⟩
  | cons c s ih =>
      obtain ⟨part, parts, found⟩ := ih
      by_cases same : c = separator
      · subst same
        exact ⟨_, _, split_separator c s⟩
      · exact ⟨_, _, split_cons same found⟩

/-- What holds no separator belongs to the first part. -/
theorem split_append (free : separator ∉ front) (h : split separator s = part :: parts) :
    split separator (front ++ s) = (front ++ part) :: parts := by
  induction front with
  | nil => exact h
  | cons c front ih =>
      rw [List.mem_cons, not_or] at free
      exact split_cons (Ne.symm free.1) (ih free.2)

/-- The parts on both sides of a separator are those of both sides. -/
theorem split_append_separator (separator : Char) (front s : List Char) :
    split separator (front ++ separator :: s) = split separator front ++ split separator s := by
  induction front with
  | nil => exact split_separator separator s
  | cons c front ih =>
      obtain ⟨part, parts, found⟩ := exists_split separator front
      by_cases same : c = separator
      · subst same
        rw [List.cons_append, split_separator, split_separator, ih, List.cons_append]
      · rw [found, List.cons_append] at ih
        rw [List.cons_append, split_cons same ih, split_cons same found, List.cons_append]

theorem not_mem_of_mem_split (member : part ∈ split separator s) : separator ∉ part := by
  induction s generalizing part with
  | nil =>
      obtain rfl := List.mem_singleton.mp member
      exact List.not_mem_nil
  | cons c s ih =>
      by_cases same : c = separator
      · subst same
        rw [split_separator, List.mem_cons] at member
        rcases member with rfl | later
        · exact List.not_mem_nil
        · exact ih later
      · obtain ⟨first, parts, found⟩ := exists_split separator s
        rw [found] at ih
        rw [split_cons same found, List.mem_cons] at member
        rcases member with rfl | later
        · rw [List.mem_cons, not_or]
          exact ⟨Ne.symm same, ih List.mem_cons_self⟩
        · exact ih (List.mem_cons_of_mem first later)

end ShellLaunch.Text
