/-!
# Cutting a text

A text is cut in two at the first place where a mark occurs in it, or into parts at
every place where a separating character stands. A piece can also be cut out of it by
positions, which are counted in bytes of UTF-8.
-/

namespace ShellLaunch.Text

/-- What stands before and behind the first occurrence of `mark`, or `none` where it
does not occur. -/
def cut? (mark : List Char) : List Char → Option (List Char × List Char)
  | [] => if mark.isEmpty then some ([], []) else none
  | c :: rest =>
    if mark.isPrefixOf (c :: rest) then some ([], (c :: rest).drop mark.length)
    else (cut? mark rest).map fun (before, behind) => (c :: before, behind)

/-- Cutting takes away the mark and nothing else. -/
theorem eq_append_of_cut? {mark s before behind : List Char}
    (h : cut? mark s = some (before, behind)) : s = before ++ mark ++ behind := by
  induction s generalizing before with
  | nil =>
    rw [cut?] at h
    split at h
    next hmark =>
      obtain ⟨rfl, rfl⟩ : before = [] ∧ behind = [] := by simpa [eq_comm] using h
      simp [List.isEmpty_iff.mp hmark]
    next => exact absurd h (by simp)
  | cons c rest ih =>
    rw [cut?] at h
    split at h
    next hmark =>
      obtain ⟨tail, htail⟩ := List.isPrefixOf_iff_prefix.mp hmark
      obtain ⟨rfl, rfl⟩ : before = [] ∧ behind = (c :: rest).drop mark.length := by
        simpa [eq_comm] using h
      simp [← htail]
    next =>
      obtain ⟨⟨before', behind'⟩, hrest, heq⟩ := Option.map_eq_some_iff.mp h
      obtain ⟨rfl, rfl⟩ : c :: before' = before ∧ behind' = behind := by simpa using heq
      rw [ih hrest]
      simp

def occursIn (part s : List Char) : Bool :=
  (cut? part s).isSome

/-- The parts of a text between the places where `separator` stands, empty parts
included. There is always one part more than there are such places. -/
def split (separator : Char) (s : List Char) : List (List Char) :=
  s.foldr (fun c parts =>
    if c = separator then [] :: parts
    else
      match parts with
      | part :: parts => (c :: part) :: parts
      | [] => [[c]]) [[]]

/-! ## Positions in bytes -/

def byteSize : List Char → Nat
  | [] => 0
  | c :: s => c.utf8Size + byteSize s

/-- The text without its first bytes. A character that the cut goes through is left out. -/
def dropBytes : Nat → List Char → List Char
  | 0, s => s
  | _ + 1, [] => []
  | n + 1, c :: s => dropBytes (n + 1 - c.utf8Size) s

/-- The first bytes of a text. A character that the cut goes through is left out. -/
def takeBytes : Nat → List Char → List Char
  | 0, _ => []
  | _ + 1, [] => []
  | n + 1, c :: s => if c.utf8Size ≤ n + 1 then c :: takeBytes (n + 1 - c.utf8Size) s else []

/-- The text between two positions. -/
def slice (first last : Nat) (s : List Char) : List Char :=
  takeBytes (last - first) (dropBytes first s)

theorem dropBytes_append (before s : List Char) :
    dropBytes (byteSize before) (before ++ s) = s := by
  induction before with
  | nil => simp [byteSize, dropBytes]
  | cons c before ih =>
    obtain ⟨n, hn⟩ : ∃ n, c.utf8Size + byteSize before = n + 1 :=
      ⟨c.utf8Size + byteSize before - 1, by have := c.utf8Size_pos; omega⟩
    have hsize : byteSize (c :: before) = n + 1 := hn
    have hrest : n + 1 - c.utf8Size = byteSize before := by omega
    rw [hsize, List.cons_append, dropBytes, hrest, ih]

theorem takeBytes_append (s behind : List Char) :
    takeBytes (byteSize s) (s ++ behind) = s := by
  induction s with
  | nil => simp [byteSize, takeBytes]
  | cons c s ih =>
    obtain ⟨n, hn⟩ : ∃ n, c.utf8Size + byteSize s = n + 1 :=
      ⟨c.utf8Size + byteSize s - 1, by have := c.utf8Size_pos; omega⟩
    have hsize : byteSize (c :: s) = n + 1 := hn
    have hrest : n + 1 - c.utf8Size = byteSize s := by omega
    have hfits : c.utf8Size ≤ n + 1 := by omega
    rw [hsize, List.cons_append, takeBytes, if_pos hfits, hrest, ih]

/-- The positions at the two ends of a part cut that part out. -/
theorem slice_append (before s behind : List Char) :
    slice (byteSize before) (byteSize before + byteSize s) (before ++ (s ++ behind)) = s := by
  rw [slice, dropBytes_append, Nat.add_sub_cancel_left, takeBytes_append]

end ShellLaunch.Text
