import Mathlib.Data.List.Forall2
import ShellLaunch.Proofs.Extension

/-!
# Names of parameters among the arguments of a script file

What follows a script file is passed to it, token by token, and some of the tokens are names of
its parameters. These are the ones with an ASCII hyphen and something behind it. Switches can be
written with three more dashes, which a script file does not get to see as such: a token that
begins with one of them spells a switch in front of the file and is a value behind it.
-/

namespace ShellLaunch

open Reading (upTo)

/-- The token begins with one of the dashes of a switch and goes on after it. -/
def Dashed (token : String) : Prop :=
  ∃ c rest, token.toList = c :: rest ∧ Switch.isDash c = true ∧ rest ≠ []

/-- There is nothing to look up behind a dash that stands alone. -/
theorem dashed_of_key? {platform : Platform} {token : String}
    (dash : ∀ c ∈ token.toList.head?, Switch.isDash c = true)
    (keyed : (Switch.key? platform token).isSome = true) : Dashed token := by
  cases letters : token.toList with
  | nil => simp [Switch.key?, Switch.afterLead?, letters] at keyed
  | cons c rest =>
      have first : Switch.isDash c = true := dash c (by rw [letters]; rfl)
      refine ⟨c, rest, letters, first, ?_⟩
      rintro rfl
      simp [Switch.key?, Switch.afterLead?, Switch.dropDash, letters, first] at keyed

namespace TrailingArg

variable {token : String}

theorem value_ofFileToken (token : String) : (ofFileToken token).value = token := by
  unfold ofFileToken
  split <;> rfl

theorem literal_ofFileToken :
    (ofFileToken token).literal = false ↔ Dashed token ∧ token.toList.head? = some '-' := by
  unfold ofFileToken
  split
  next c rest letters =>
    refine iff_of_true rfl ⟨⟨'-', c :: rest, letters, by decide, List.cons_ne_nil c rest⟩, ?_⟩
    rw [letters]
    rfl
  next other =>
    refine iff_of_false nofun ?_
    rintro ⟨⟨c, rest, letters, -, more⟩, first⟩
    rw [letters] at first
    obtain rfl : c = '-' := Option.some.inj first
    obtain ⟨d, rest, rfl⟩ := List.exists_cons_of_ne_nil more
    exact other d rest letters

/-- What becomes of a token that is passed to a script file. -/
structure IsPassed (token : String) (arg : TrailingArg) : Prop where
  value : arg.value = token
  /-- Of the tokens with a dash, those with a hyphen are names of parameters. -/
  dashed : Dashed token → (arg.literal = false ↔ token.toList.head? = some '-')
  /-- A dash alone is a value, and so is what does not begin with a dash. -/
  plain : ¬ Dashed token → arg.literal = true
  /-- A token that would be looked up as a switch because of its dash is the name of a parameter
  if the dash is a hyphen. -/
  switch : ∀ platform : Platform, (∀ c ∈ token.toList.head?, Switch.isDash c = true) →
    (Switch.key? platform token).isSome = true →
      (arg.literal = false ↔ token.toList.head? = some '-')

theorem isPassed_ofFileToken (token : String) : IsPassed token (ofFileToken token) := by
  have dashed : Dashed token →
      ((ofFileToken token).literal = false ↔ token.toList.head? = some '-') := by
    intro dashed
    rw [literal_ofFileToken]
    exact and_iff_right dashed
  refine ⟨value_ofFileToken token, dashed, ?_, ?_⟩
  · intro undashed
    rw [← Bool.not_eq_false, literal_ofFileToken]
    exact fun named => undashed named.1
  · intro platform dash keyed
    exact dashed (dashed_of_key? dash keyed)

end TrailingArg

namespace Host

variable {host : Host} {reading : Reading} {args : List String} {path : FilePath}

/-- The tokens that make a host run a script file: the file, or a switch and the file. -/
inductive NamesFile (host : Host) : List String → FilePath → Prop where
  | positional {file : String} (unknown : Switch.lookup? host.platform file = none)
      (named : file ≠ "-") : NamesFile host [file] (host.absolute file)
  | switch {token file : String} (spelled : Switch.lookup? host.platform token = some .file)
      (named : file ≠ "-") : NamesFile host [token, file] (host.absolute file)

/-- What stands behind the file is passed to it. -/
theorem exists_passed_of_target (spelled : reading.ending.Spelled host.platform)
    (h : reading.target host = .file path) :
    ∃ file passed, reading.ending.tokens = file ++ passed ∧ host.NamesFile file path ∧
      reading.ending.args = passed.map TrailingArg.ofFileToken := by
  rcases ending_of_file h with ⟨token, file, passed, ending, rfl⟩ | ⟨file, passed, ending, rfl⟩
  · rw [ending] at spelled ⊢
    exact ⟨[token, file], passed, rfl, .switch spelled.1 spelled.2, rfl⟩
  · rw [ending] at spelled ⊢
    exact ⟨[file], passed, rfl, .positional spelled.1 spelled.2, rfl⟩

theorem literal_of_mem_decodedArgs {value : String} {arg : TrailingArg}
    (member : arg ∈ Reading.decodedArgs value) : arg.literal = true := by
  unfold Reading.decodedArgs at member
  split at member
  · obtain ⟨text, -, rfl⟩ := List.mem_map.mp member
    rfl
  · cases member

/-- What is to be passed on in front of a file was given in encoded form. -/
theorem literal_of_mem_args {groups : List TokenGroup} {arg : TrailingArg}
    (member : arg ∈ (upTo groups).args) : arg.literal = true := by
  rcases List.mem_append.mp member with encoded | atEnd
  · obtain ⟨value, -, decoded⟩ := List.mem_flatMap.mp encoded
    exact literal_of_mem_decodedArgs decoded
  · cases atEnd

/-- How a run comes to a script file, and what it passes on to it. -/
structure HandsOver (host : Host) (args : List String) (path : FilePath)
    (before file passed : List String) : Prop where
  tokens : args = before ++ file ++ passed
  goesOn : (host.resolve before).Open
  names : host.NamesFile file path
  /-- The arguments of the file are values that were given in encoded form, and behind them the
  tokens, one argument for each. -/
  arguments : ∃ arguments, (host.resolve args).trailingArgs =
      (host.resolve before).trailingArgs ++ arguments ∧
    List.Forall₂ TrailingArg.IsPassed passed arguments
  encoded : ∀ arg ∈ (host.resolve before).trailingArgs, arg.literal = true

/-- A run without an error whose target is a script file took the file from the command line, and
passes on what stands behind it. -/
theorem exists_handsOver (ran : (host.resolve args).error = none)
    (target : (host.resolve args).scriptTarget = .file path) :
    ∃ before file passed, host.HandsOver args path before file passed := by
  have splits := Reading.splits_ofArgs host.platform args
  obtain ⟨admitted, config_eq⟩ := admits_of_error_eq_none splits ran
  generalize Reading.ofArgs host.platform args = reading at splits admitted config_eq
  rw [config_eq] at target
  obtain ⟨file, passed, tokens, names, passes⟩ := exists_passed_of_target admitted.spelled target
  have before_eq := admitted.groups.resolve_eq
  refine ⟨TokenGroup.tokensOf reading.groups, file, passed, ?_, ?_, names, ?_, ?_⟩
  · rw [← splits.tokens_eq, Reading.tokens, tokens, List.append_assoc]
  · rw [before_eq]
    exact open_upTo host reading.groups
  · refine ⟨passed.map TrailingArg.ofFileToken, ?_, ?_⟩
    · rw [config_eq, before_eq, ← passes]
      exact Reading.args_mk
    · rw [List.forall₂_map_right_iff, List.forall₂_same]
      exact fun token _ => TrailingArg.isPassed_ofFileToken token
  · rw [before_eq]
    exact fun arg => literal_of_mem_args

/-- A switch, then a script file with a parameter, a value, a dash and an em dash. -/
theorem exists_handsOver_sample :
    (sample.resolve ["-nop", "-f", "run", "-Name", "x", "-", "—Name"]).error = none ∧
      (sample.resolve ["-nop", "-f", "run", "-Name", "x", "-", "—Name"]).scriptTarget =
        .file "/w/run" ∧
      ∃ before file passed, sample.HandsOver ["-nop", "-f", "run", "-Name", "x", "-", "—Name"]
        "/w/run" before file passed :=
  have ran : (sample.resolve ["-nop", "-f", "run", "-Name", "x", "-", "—Name"]).error = none := by
    decide +kernel
  have target : (sample.resolve ["-nop", "-f", "run", "-Name", "x", "-", "—Name"]).scriptTarget =
      .file "/w/run" := by
    decide +kernel
  ⟨ran, target, exists_handsOver ran target⟩

/-- A switch with an en dash is a value behind the file, although the same token in front of it is
looked up, and although it is the name of a parameter with a hyphen. -/
theorem enDash_passed_as_value :
    Switch.lookup? sample.platform "–NoProfile" = some (.flag .noProfile) ∧
      (sample.resolve ["run", "–NoProfile"]).error = none ∧
      (sample.resolve ["run", "–NoProfile"]).scriptTarget = .file "/w/run" ∧
      (sample.resolve ["run", "–NoProfile"]).trailingArgs = [⟨"–NoProfile", true⟩] ∧
      Dashed "–NoProfile" ∧
      (sample.resolve ["run", "-NoProfile"]).trailingArgs = [⟨"-NoProfile", false⟩] := by
  refine ⟨by decide +kernel, by decide +kernel, by decide +kernel, by decide +kernel, ?_,
    by decide +kernel⟩
  exact ⟨'–', "NoProfile".toList, by decide, by decide, by decide⟩

end Host

end ShellLaunch
