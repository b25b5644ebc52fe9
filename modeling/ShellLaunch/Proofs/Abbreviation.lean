import ShellLaunch.Proofs.Spelling
import ShellLaunch.Proofs.Text.Boundary

/-!
# Abbreviations are unambiguous

Many names of switches begin alike, and any text can be a key. But a key that stands for two
switches would be a beginning of both their names, long enough for either, or else an alias of
one of them. The first cannot be, since no two names agree as far as the longer of their
shortest abbreviations; the second is a question about the few aliases. So a key stands for one
switch at most, and neither the order of the table nor more letters of a name make a difference.
-/

namespace ShellLaunch.Switch

variable {platform : Platform} {table : List Switch} {s t : Switch} {key : List Char}

/-! ### Keys -/

/-- The key is a beginning of the switch's name that is long enough to stand for it. The
length is counted in bytes. -/
def IsAbbreviation (s : Switch) (key : List Char) : Prop :=
  s.spec.minPrefix ≤ Text.byteSize key ∧ key <+: s.name

/-- Names are made of small ASCII letters. -/
theorem name_letters (s : Switch) :
    ∀ c ∈ s.name, c.toNat < 128 ∧ c.toLower = c ∧ isDash c = false := by
  have letters : all.all (fun s => s.name.all fun c =>
      decide (c.toNat < 128) && c.toLower == c && !isDash c) = true := by
    decide +kernel
  intro c member
  have letter := List.all_eq_true.mp (List.all_eq_true.mp letters s (mem_all s)) c member
  simpa [and_assoc] using letter

theorem map_toLower_name (s : Switch) : s.name.map Char.toLower = s.name := by
  have small := fun c member => (name_letters s c member).2.1
  rw [List.map_congr_left small, List.map_id']

/-- A beginning of a name has as many bytes as characters. -/
theorem byteSize_beginning (h : key <+: s.name) : Text.byteSize key = key.length :=
  Text.byteSize_of_ascii fun c member => (name_letters s c (h.subset member)).1

/-- A key stands for a switch as an abbreviation of its name or as one of its aliases. -/
theorem hasKey_iff :
    s.hasKey key = true ↔ s.IsAbbreviation key ∨ ∃ name ∈ s.spec.aliases, name.toList = key := by
  have abbreviated : s.IsAbbreviation key ↔ s.spec.minPrefix ≤ key.length ∧ key <+: s.name :=
    and_congr_left fun isPrefix => by rw [byteSize_beginning isPrefix]
  rw [abbreviated]
  simp [hasKey]

theorem isAbbreviation_name (s : Switch) : s.IsAbbreviation s.name := by
  have short : ∀ s ∈ all, s.spec.minPrefix ≤ s.name.length := by decide +kernel
  refine ⟨?_, List.prefix_rfl⟩
  rw [byteSize_beginning List.prefix_rfl]
  exact short s (mem_all s)

/-- More letters of the name make a longer abbreviation. -/
theorem IsAbbreviation.longer {longer : List Char} (h : s.IsAbbreviation key)
    (continues : key <+: longer) (isPrefix : longer <+: s.name) : s.IsAbbreviation longer := by
  refine ⟨?_, isPrefix⟩
  have enough := h.1
  rw [byteSize_beginning h.2] at enough
  rw [byteSize_beginning isPrefix]
  exact Nat.le_trans enough continues.length_le

/-! ### The table -/

/-- Two names part before the end of the longer one of their shortest abbreviations. -/
theorem eq_of_take_name
    (h : s.name.take (max s.spec.minPrefix t.spec.minPrefix) =
      t.name.take (max s.spec.minPrefix t.spec.minPrefix)) : s = t := by
  have parted : ∀ s ∈ all, ∀ t ∈ all, s.name.take (max s.spec.minPrefix t.spec.minPrefix) =
      t.name.take (max s.spec.minPrefix t.spec.minPrefix) → s = t := by
    decide +kernel
  exact parted s (mem_all s) t (mem_all t) h

/-- An alias stands for no other switch. -/
theorem eq_of_alias {name : String} (known : name ∈ t.spec.aliases)
    (h : s.hasKey name.toList = true) : s = t := by
  have apart : ∀ s ∈ all, ∀ t ∈ all, ∀ name ∈ t.spec.aliases, s.hasKey name.toList = true →
      s = t := by
    decide +kernel
  exact apart s (mem_all s) t (mem_all t) name known h

theorem eq_of_isAbbreviation (h : s.IsAbbreviation key) (also : t.IsAbbreviation key) :
    s = t := by
  have long : max s.spec.minPrefix t.spec.minPrefix ≤ key.length := by
    rw [← byteSize_beginning h.2]
    exact Nat.max_le.mpr ⟨h.1, also.1⟩
  obtain ⟨rest, name_eq⟩ := h.2
  obtain ⟨rest', name_eq'⟩ := also.2
  apply eq_of_take_name
  rw [← name_eq, ← name_eq', List.take_append_of_le_length long, List.take_append_of_le_length long]

/-- A key stands for one switch at most, on whatever platform. -/
theorem eq_of_hasKey (h : s.hasKey key = true) (also : t.hasKey key = true) : s = t := by
  rcases hasKey_iff.mp also with abbreviation | ⟨name, known, rfl⟩
  · rcases hasKey_iff.mp h with other | ⟨name, known, rfl⟩
    · exact eq_of_isAbbreviation other abbreviation
    · exact (eq_of_alias known also).symm
  · exact eq_of_alias known h

/-! ### Looking up -/

theorem fits_of_findKey? (h : findKey? table platform key = some s) :
    s.isAvailable platform = true ∧ s.hasKey key = true := by
  have fits := List.find?_some h
  exact Bool.and_eq_true_iff.mp fits

/-- What is found in a table does not depend on its order. -/
theorem findKey?_eq_some_iff :
    findKey? table platform key = some s ↔
      s ∈ table ∧ s.isAvailable platform = true ∧ s.hasKey key = true := by
  constructor
  · intro found
    exact ⟨List.mem_of_find?_eq_some found, fits_of_findKey? found⟩
  · rintro ⟨member, fits⟩
    have found : (findKey? table platform key).isSome = true :=
      List.find?_isSome.mpr ⟨s, member, Bool.and_eq_true_iff.mpr fits⟩
    obtain ⟨t, found⟩ := Option.isSome_iff_exists.mp found
    rw [found, eq_of_hasKey (fits_of_findKey? found).2 fits.2]

theorem findKey?_perm (same : table.Perm all) :
    findKey? table platform = findKey? all platform := by
  funext key
  apply Option.ext
  intro s
  rw [findKey?_eq_some_iff, findKey?_eq_some_iff, same.mem_iff]

/-- A token spells the one available switch that its key stands for. -/
theorem lookup?_eq_some_iff {token : String} (keyed : key? platform token = some key) :
    lookup? platform token = some s ↔ s.isAvailable platform = true ∧ s.hasKey key = true := by
  rw [lookup?, keyed, Option.bind_some, findKey?_eq_some_iff]
  exact and_iff_right (mem_all s)

theorem followsLead_name (s : Switch) : FollowsLead s.name := by
  cases letters : s.name with
  | nil =>
      have named : ∀ s ∈ all, s.name ≠ [] := by decide +kernel
      exact absurd letters (named s (mem_all s))
  | cons c rest => exact ⟨c, rest, rfl, (name_letters s c (by simp [letters])).2.2⟩

/-- A dash with the letters of a name behind it spells the switch, in whatever case. -/
theorem lookup?_of_letters {letters : List Char} (available : s.isAvailable platform = true)
    (named : letters.map Char.toLower = s.name) :
    lookup? platform (String.ofList ('-' :: letters)) = some s := by
  have small : ∀ c ∈ s.name, c.toNat < 128 := fun c member => (name_letters s c member).1
  have lower_name := map_toLower_name s
  have same : letters.map Char.toLower = s.name.map Char.toLower := named.trans lower_name.symm
  have follows : FollowsLead letters := (followsLead_name s).of_map_toLower_eq small same
  have key : Text.lower letters = s.name := by
    rw [Text.lower_eq_of_map_toLower_eq small same, Text.lower_of_ascii small, lower_name]
  have keyed := key?_of_lead (.dash (by decide) : Lead platform ['-']) follows
  rw [key] at keyed
  exact (lookup?_eq_some_iff keyed).mpr ⟨available, hasKey_iff.mpr (.inl (isAbbreviation_name s))⟩

theorem lookup?_name (available : s.isAvailable platform = true) :
    lookup? platform ("-" ++ s.spec.name) = some s := by
  have name_eq : "-" ++ s.spec.name = String.ofList ('-' :: s.name) := by
    rw [← String.toList_inj]
    simp [name]
  rw [name_eq]
  exact lookup?_of_letters available (map_toLower_name s)

/-- The table says one thing at most of any key. -/
structure Unambiguous (platform : Platform) : Prop where
  /-- No key, whatever it is, stands for two of the available switches. -/
  unique : ∀ key : List Char,
    (all.filter fun s => s.isAvailable platform && s.hasKey key).length ≤ 1
  /-- The order of the table makes no difference. -/
  order : ∀ {table : List Switch}, table.Perm all → ∀ token : String,
    (key? platform token).bind (findKey? table platform) = lookup? platform token
  /-- An abbreviation that is known goes on to mean the same with more letters of the name. -/
  completed : ∀ {s selected : Switch} {token completion : String} {key longer : List Char},
    key? platform token = some key → key? platform completion = some longer →
    s.IsAbbreviation key → key <+: longer → longer <+: s.name →
    lookup? platform token = some selected →
      selected = s ∧ lookup? platform completion = some s
  /-- The name of a switch and its form for users are known for that switch. -/
  named : ∀ {s : Switch}, s.isAvailable platform = true →
    lookup? platform ("-" ++ s.spec.name) = some s ∧ lookup? platform s.spec.display = some s

theorem unambiguous (platform : Platform) : Unambiguous platform where
  unique := by
    intro key
    have distinct : all.Nodup := by decide +kernel
    have once := distinct.filter fun s => s.isAvailable platform && s.hasKey key
    have fits : ∀ s ∈ all.filter fun s => s.isAvailable platform && s.hasKey key,
        s.hasKey key = true := fun s member =>
      (Bool.and_eq_true_iff.mp (List.mem_filter.mp member).2).2
    generalize all.filter (fun s => s.isAvailable platform && s.hasKey key) = found at once fits
    cases found with
    | nil => exact Nat.zero_le 1
    | cons s found =>
        cases found with
        | nil => exact Nat.le_refl 1
        | cons t others =>
            have same : s = t := eq_of_hasKey (fits s (by simp)) (fits t (by simp))
            simp [same] at once
  order := by
    intro table same token
    rw [findKey?_perm same, lookup?]
  completed := by
    intro s selected token completion key longer keyed keyed' abbreviation continues isPrefix found
    obtain ⟨available, stands⟩ := (lookup?_eq_some_iff keyed).mp found
    obtain rfl : selected = s := eq_of_hasKey stands (hasKey_iff.mpr (.inl abbreviation))
    have completed := hasKey_iff.mpr (.inl (abbreviation.longer continues isPrefix))
    exact ⟨rfl, (lookup?_eq_some_iff keyed').mpr ⟨available, completed⟩⟩
  named := by
    intro s available
    have displayed : ∀ s ∈ all, s.spec.display.toList = '-' :: s.spec.display.toList.tail ∧
        s.spec.display.toList.tail.map Char.toLower = s.name := by
      decide +kernel
    obtain ⟨display_eq, shown⟩ := displayed s (mem_all s)
    rw [← String.ofList_toList (s := s.spec.display), display_eq]
    exact ⟨lookup?_name available, lookup?_of_letters available shown⟩

/-- The shortest abbreviation of a switch whose name begins like three others, and a longer one
that is written differently. -/
theorem unambiguous_sample :
    lookup? .unix "-noe" = some (.flag .noExit) ∧
      lookup? .unix "——NoExi" = some (.flag .noExit) := by
  have short : key? .unix "-noe" = some "noe".toList := by decide +kernel
  have long : key? .unix "——NoExi" = some "noexi".toList := by decide +kernel
  have abbreviation : (Switch.flag .noExit).IsAbbreviation "noe".toList :=
    ⟨by decide +kernel, by decide +kernel⟩
  have found : lookup? .unix "-noe" = some (.flag .noExit) := by decide +kernel
  exact ⟨found, ((unambiguous .unix).completed short long abbreviation (by decide +kernel)
    (by decide +kernel) found).2⟩

end ShellLaunch.Switch
