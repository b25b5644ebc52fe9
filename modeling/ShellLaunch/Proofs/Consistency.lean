import ShellLaunch.Proofs.Refinement
import ShellLaunch.Resolver

/-!
# The fields of a configuration agree

What can be relied on in every configuration that comes out of a resolution, whether it
has an error or not: which fields follow from others, which exclude each other, and which
the platform has to allow.
-/

namespace ShellLaunch

open Reading (upTo)

/-- The fields of a configuration agree with each other and with the host. -/
structure LaunchConfig.Consistent (host : Host) (config : LaunchConfig) : Prop where
  exitCode : config.exitCode.code = if config.error.isSome then 64 else 0
  abortStartup : config.abortStartup = (config.error.isSome || config.showExtendedHelp)
  showShortHelp :
    config.showShortHelp = (config.showExtendedHelp || config.error.any Diagnostic.showsShortHelp)
  /-- Of an error, usage and the version at most one is shown. -/
  error_or_help : config.error = none ∨ config.showExtendedHelp = false
  error_or_version : config.error = none ∨ config.showVersion = false
  help_or_version : config.showExtendedHelp = false ∨ config.showVersion = false
  scriptTarget_of_stdin : config.explicitStdinRead = true → config.scriptTarget = .none
  stdin_of_noPrompt : config.noPrompt = true → config.explicitStdinRead = true
  banner : config.showBanner = true →
    config.error = none ∧ config.showExtendedHelp = false ∧ config.showVersion = false ∧
      config.scriptTarget = .none ∧ config.explicitStdinRead = false
  exit : config.noExit = false → config.showVersion = true ∨ config.scriptTarget ≠ .none
  version : config.showVersion = true →
    config.nonInteractive = true ∧ config.skipProfiles = true ∧ config.noExit = false
  nonInteractive : config.nonInteractive = true →
    config.throwOnReadAndPrompt = true ∨ config.showVersion = true
  outputFormat : config.outputFormat = .xml → config.outputFormatExplicit = true
  apartment : config.apartment.isSome = true → host.platform.desktopApartments = true
  windows : config.windowStyle.isSome = true ∨
      config.removeWorkingDirectoryTrailingCharacter = true →
    host.platform.isWindows = true
  customPipeName : ∀ name ∈ config.customPipeName,
    ∀ ceiling ∈ host.platform.maxPipeNameLength, name.length ≤ ceiling
  executionPolicy : config.executionPolicy ≠ some ""
  settingsFile : ∀ path ∈ config.settingsFile, host.isFile (host.absolute path) = true

/-- A diagnostic keeps the fields in agreement where neither usage nor the version is shown. -/
theorem LaunchConfig.Consistent.fail {host : Host} {config : LaunchConfig}
    (h : config.Consistent host) (noHelp : config.showExtendedHelp = false)
    (noVersion : config.showVersion = false) (diagnostic : Diagnostic)
    (directory : Option String) :
    { config with
      abortStartup := true
      showBanner := false
      showShortHelp := diagnostic.showsShortHelp
      workingDirectory := directory
      exitCode := .badCommandLineParameter
      error := some diagnostic }.Consistent host where
  exitCode := rfl
  abortStartup := rfl
  showShortHelp := by simp [noHelp]
  error_or_help := .inr noHelp
  error_or_version := .inr noVersion
  help_or_version := h.help_or_version
  scriptTarget_of_stdin := h.scriptTarget_of_stdin
  stdin_of_noPrompt := h.stdin_of_noPrompt
  banner := by simp
  exit := h.exit
  version := h.version
  nonInteractive := h.nonInteractive
  outputFormat := h.outputFormat
  apartment := h.apartment
  windows := h.windows
  customPipeName := h.customPipeName
  executionPolicy := h.executionPolicy
  settingsFile := h.settingsFile

namespace Host

variable {host : Host} {reading : Reading} {args : List String}

/-- Commands come from standard input only where nothing is selected to run. -/
theorem Admits.target_of_readsStdin (h : host.Admits reading)
    (reads : reading.readsStdin = true) : reading.target host = .none := by
  obtain ⟨groups, ending⟩ := reading
  rw [Reading.target_mk]
  rw [Reading.readsStdin_mk] at reads
  cases source : ending.isSource with
  | true =>
      have settled := h.hasScriptTarget_of_isSource source
      obtain ⟨noTarget, noStdin⟩ := Reading.hasScriptTarget_eq_false_iff.mp settled
      simp only [noStdin, Bool.false_or] at reads
      rw [Ending.target?_of_readsStdin reads]
      exact noTarget
  | false =>
      rw [Ending.readsStdin_of_not_isSource source, Bool.or_false] at reads
      rw [Ending.target?_of_not_isSource source]
      exact h.groups.target_of_readsStdin reads

theorem Admits.consistent (h : host.Admits reading) : (reading.config host).Consistent host where
  exitCode := rfl
  abortStartup := rfl
  showShortHelp := by simp [Reading.config]
  error_or_help := .inl rfl
  error_or_version := .inl rfl
  help_or_version := reading.ending.showsHelp_or_showsVersion
  scriptTarget_of_stdin := h.target_of_readsStdin
  stdin_of_noPrompt := by
    intro reads
    exact Bool.or_eq_true_iff.mpr (.inr reads)
  banner := by
    intro shown
    simp only [Reading.config, Bool.not_eq_true', Bool.or_eq_false_iff,
      bne_eq_false_iff_eq] at shown
    obtain ⟨⟨⟨⟨-, noTarget⟩, noStdin⟩, noHelp⟩, noVersion⟩ := shown
    exact ⟨rfl, noHelp, noVersion, noTarget, noStdin⟩
  exit := by
    intro exits
    simp only [Reading.config] at exits ⊢
    cases version : reading.ending.showsVersion with
    | true => exact .inl rfl
    | false =>
        refine .inr ?_
        intro noTarget
        simp [version, noTarget] at exits
  version := by
    intro shown
    simp only [Reading.config] at shown ⊢
    simp [shown]
  nonInteractive := by
    intro silent
    simp only [Reading.config] at silent ⊢
    rcases Bool.or_eq_true_iff.mp silent with version | asked
    · exact .inr version
    · exact .inl (Reading.has_of_nonInteractive? (beq_iff_eq.mp asked))
  outputFormat := by
    intro xml
    simp only [Reading.config] at xml ⊢
    cases given : reading.lastValue? .outputFormat with
    | none => simp [given] at xml
    | some => rfl
  apartment := by
    intro asked
    obtain ⟨requested, asked⟩ := Option.isSome_iff_exists.mp asked
    exact h.groups.desktopApartments (List.mem_of_getLast? asked)
  windows := by
    rintro (asked | asked)
    · obtain ⟨style, asked⟩ := Option.isSome_iff_exists.mp asked
      obtain ⟨value, given, -⟩ := Option.bind_eq_some_iff.mp asked
      exact h.groups.isWindows_of_windowStyle (Reading.mem_values_of_lastValue? given)
    · exact h.groups.isWindows_of_has asked
  customPipeName := by
    intro name given ceiling limit
    have valid := h.groups.values .customPipeName name (Reading.mem_values_of_lastValue? given)
    have limit : host.platform.maxPipeNameLength = some ceiling := limit
    simpa [valueRefusal?, limit] using valid
  executionPolicy := by
    intro given
    have valid := h.groups.values .executionPolicy "" (Reading.mem_values_of_lastValue? given)
    simp [valueRefusal?] at valid
  settingsFile := by
    intro path given
    have valid := h.groups.values .settingsFile path (Reading.mem_values_of_lastValue? given)
    simpa [valueRefusal?] using valid

/-- Where a diagnostic is raised after an admitted reading, neither usage nor the version
being asked for, the fields agree as well. -/
theorem Admits.consistent_fail (h : host.Admits reading)
    (noHelp : reading.ending.showsHelp = false) (noVersion : reading.ending.showsVersion = false)
    (diagnostic : Diagnostic) :
    ((reading.draft host).fail diagnostic).freeze.Consistent host := by
  rw [Reading.freeze_fail_draft, noHelp, Bool.false_or]
  exact h.consistent.fail noHelp noVersion diagnostic _

theorem resolve_consistent (host : Host) (args : List String) :
    (host.resolve args).Consistent host := by
  have outcome := outcome_of_splits (Reading.splits_ofArgs host.platform args)
  rw [resolve]
  generalize host.run .initial args = final at outcome
  cases outcome with
  | done admitted =>
      rw [Reading.freeze_draft]
      exact admitted.consistent
  | refused accepted => exact accepted.admits.consistent_fail rfl rfl _
  | late admitted late =>
      exact admitted.bare.consistent_fail (showsHelp_bare late) (showsVersion_bare late) _

end Host

/-- A fresh resolver comes to a configuration for every command line, and its fields
agree. -/
theorem Resolver.resolveOnce_consistent (platform : Platform) (stdin : StdinState)
    (machine : Machine) (args : List String) :
    ∃ config, ((Resolver.new platform).withStdin stdin).resolveOnce machine args = .ok config ∧
      config.Consistent ⟨platform, stdin, machine⟩ := by
  refine ⟨_, rfl, ?_⟩
  exact Host.resolve_consistent ⟨platform, stdin, machine⟩ args

end ShellLaunch
