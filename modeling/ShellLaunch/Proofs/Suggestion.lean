import ShellLaunch.Proofs.Abbreviation
import ShellLaunch.Proofs.Diagnosis
import ShellLaunch.Proofs.Text.Cut

/-!
# Suggestions can be followed

A token that looks like a switch and is none comes back with the names of the switches that it
resembles. They are read off the table from its beginning to its end, and only those switches
are named that the platform has. A dash in front of such a name spells the switch, so whoever
follows a suggestion does not fail in the same way again.
-/

namespace ShellLaunch

namespace Switch

variable {platform : Platform} {s : Switch} {key : List Char} {token name : String}

/-- The switch is one that could have been meant by the key. -/
structure Resembles (platform : Platform) (key : List Char) (s : Switch) : Prop where
  long : 2 ≤ key.length
  available : s.isAvailable platform = true
  occurs : key <:+: s.name

theorem mem_suggestions_of_key (keyed : key? platform token = some key) :
    name ∈ suggestions platform token ↔
      ∃ s : Switch, s.Resembles platform key ∧ s.spec.name = name := by
  simp only [suggestions, keyed]
  split
  next short =>
    constructor
    · nofun
    · rintro ⟨s, resembles, -⟩
      exact absurd resembles.long (Nat.not_le_of_lt short)
  next long =>
    simp only [List.mem_map, List.mem_filter, Bool.and_eq_true, Text.occursIn_iff]
    constructor
    · rintro ⟨s, ⟨-, available, occurs⟩, named⟩
      exact ⟨s, ⟨Nat.le_of_not_lt long, available, occurs⟩, named⟩
    · rintro ⟨s, resembles, named⟩
      exact ⟨s, ⟨mem_all s, resembles.available, resembles.occurs⟩, named⟩

/-- A token without a key has no suggestions. -/
theorem mem_suggestions_iff :
    name ∈ suggestions platform token ↔
      ∃ (key : List Char) (s : Switch), key? platform token = some key ∧
        s.Resembles platform key ∧ s.spec.name = name := by
  cases keyed : key? platform token with
  | none => simp [suggestions, keyed]
  | some key =>
      rw [mem_suggestions_of_key keyed]
      simp

/-- What is suggested stands in the order of the table. -/
theorem suggestions_sublist (platform : Platform) (token : String) :
    (suggestions platform token).Sublist (all.map fun s => s.spec.name) := by
  rw [suggestions]
  split
  · exact List.nil_sublist _
  · split
    · exact List.nil_sublist _
    · exact List.filter_sublist.map _

theorem nodup_names : (all.map fun s => s.spec.name).Nodup := by
  decide +kernel

/-- A name that is suggested can be given. -/
theorem lookup?_of_mem_suggestions (h : name ∈ suggestions platform token) :
    ∃ s, s.spec.name = name ∧ s.isAvailable platform = true ∧
      lookup? platform ("-" ++ name) = some s := by
  obtain ⟨key, s, -, resembles, rfl⟩ := mem_suggestions_iff.mp h
  exact ⟨s, rfl, resembles.available, lookup?_name resembles.available⟩

end Switch

namespace Host

variable {host : Host} {args : List String} {token : String} {names : List String}

/-- What is not recognized spells no switch, and has the suggestions for it. -/
theorem not_found_of_unrecognizedSwitch
    (h : (host.resolve args).error = some (.unrecognizedSwitch token names)) :
    Switch.lookup? host.platform token = none ∧
      names = Switch.suggestions host.platform token := by
  obtain ⟨place, -, -, -, -, unknown, -, suggested⟩ := exists_place h
  exact ⟨unknown, suggested⟩

/-- What a host suggests in place of a token. -/
structure Suggests (host : Host) : Prop where
  /-- Suggestions stand in the order of the table. -/
  order : ∀ token : String,
    (Switch.suggestions host.platform token).Sublist (Switch.all.map fun s => s.spec.name)
  /-- No name is suggested twice. -/
  nodup : ∀ token : String, (Switch.suggestions host.platform token).Nodup
  /-- The switches that a key of two characters or more occurs in are suggested, as far as the
  platform has them, and no others. -/
  near : ∀ token name : String, name ∈ Switch.suggestions host.platform token ↔
    ∃ (key : List Char) (s : Switch), Switch.key? host.platform token = some key ∧
      s.Resembles host.platform key ∧ s.spec.name = name
  /-- A dash and a suggested name spell the switch of that name. -/
  known : ∀ {token name : String}, name ∈ Switch.suggestions host.platform token →
    ∃ s, s.spec.name = name ∧ s.isAvailable host.platform = true ∧
      Switch.lookup? host.platform ("-" ++ name) = some s
  /-- A switch is suggested for any beginning of its name that has two characters, even if that
  is not enough of it to stand for the switch. -/
  completed : ∀ {s : Switch} {token : String} {key : List Char},
    Switch.key? host.platform token = some key → 2 ≤ key.length →
    s.isAvailable host.platform = true → key <+: s.name →
      s.spec.name ∈ Switch.suggestions host.platform token
  /-- A run that fails over a token tells the suggestions for it, and no run fails over one of
  these with a dash in front of it. -/
  followed : ∀ {args : List String} {token : String} {names : List String},
    (host.resolve args).error = some (.unrecognizedSwitch token names) →
      names = Switch.suggestions host.platform token ∧
        ∀ name ∈ names, ∀ other : List String, ∀ further : List String,
          (host.resolve other).error ≠ some (.unrecognizedSwitch ("-" ++ name) further)

theorem suggests (host : Host) : host.Suggests where
  order := Switch.suggestions_sublist host.platform
  nodup token := (Switch.suggestions_sublist host.platform token).nodup Switch.nodup_names
  near _ _ := Switch.mem_suggestions_iff
  known := Switch.lookup?_of_mem_suggestions
  completed := by
    intro s token key keyed long available isPrefix
    rw [Switch.mem_suggestions_of_key keyed]
    exact ⟨s, ⟨long, available, isPrefix.isInfix⟩, rfl⟩
  followed := by
    intro args token names failed
    obtain ⟨-, rfl⟩ := not_found_of_unrecognizedSwitch failed
    refine ⟨rfl, ?_⟩
    intro name member other further again
    obtain ⟨s, -, -, found⟩ := Switch.lookup?_of_mem_suggestions member
    obtain ⟨unknown, -⟩ := not_found_of_unrecognizedSwitch again
    rw [found] at unknown
    cases unknown

/-- A run that fails over two letters, with which the name of a switch begins. -/
theorem suggests_sample :
    (sample.resolve ["–NO"]).error = some (.unrecognizedSwitch "–NO"
        ["noexit", "noprofile", "nologo", "noninteractive"]) ∧
      "noexit" ∈ Switch.suggestions .unix "–NO" ∧
      (∃ s, s.spec.name = "noexit" ∧ s.isAvailable .unix = true ∧
        Switch.lookup? .unix ("-" ++ "noexit") = some s) ∧
      ∀ further, (sample.resolve ["-noexit"]).error ≠
        some (.unrecognizedSwitch ("-" ++ "noexit") further) := by
  have failed : (sample.resolve ["–NO"]).error = some (.unrecognizedSwitch "–NO"
      ["noexit", "noprofile", "nologo", "noninteractive"]) := by
    decide +kernel
  have keyed : Switch.key? .unix "–NO" = some "no".toList := by decide +kernel
  have begins : "no".toList <+: (Switch.flag .noExit).name := by decide +kernel
  have suggested := (suggests sample).completed keyed (by decide) (by decide +kernel) begins
  exact ⟨failed, suggested, (suggests sample).known suggested,
    ((suggests sample).followed failed).2 "noexit" (by decide) ["-noexit"]⟩

/-- Two letters with which four names begin, and which are not enough for any of them. -/
example : Switch.lookup? .unix "–NO" = none ∧
    Switch.suggestions .unix "–NO" = ["noexit", "noprofile", "nologo", "noninteractive"] := by
  decide +kernel

end Host

end ShellLaunch
