import ShellLaunch.Proofs.Consistency
import ShellLaunch.Proofs.Extension
import ShellLaunch.Proofs.JsonGrammar
import ShellLaunch.Proofs.Settings

/-!
# One verdict for a run

The exit code, the messages on standard error, a summary and the JSON form are each made from
other fields of a configuration. They agree for every configuration that comes out of a
resolution: one verdict holds of it and no other, and this verdict fixes all that a run
writes, in either format. The one exception is a script file whose path is no text, which
cannot be written as JSON: a run that is to report it so fails.

The verdicts are said without an order among them (`LaunchConfig.Ends`), so that it does not
matter which of the fields the program looks at first.
-/

namespace ShellLaunch

open Program (shortUsage)

namespace Verdict

def exitCode : Verdict → Nat
  | refused _ => 64
  | help | version | start => 0

def notices : Verdict → List String
  | refused diagnostic =>
    diagnostic.message :: if diagnostic.showsShortHelp then [shortUsage] else []
  | help => [shortUsage]
  | version | start => []

def showsUsage : Verdict → Bool
  | refused diagnostic => diagnostic.showsShortHelp
  | help => true
  | version | start => false

def diagnostic? : Verdict → Option Diagnostic
  | refused diagnostic => some diagnostic
  | help | version | start => none

end Verdict

namespace LaunchConfig

/-- The verdicts that hold of a configuration. -/
inductive Ends (config : LaunchConfig) : Verdict → Prop where
  | refused {diagnostic : Diagnostic} (error : config.error = some diagnostic) :
      Ends config (.refused diagnostic)
  | help (shown : config.showExtendedHelp = true) : Ends config .help
  | version (shown : config.showVersion = true) : Ends config .version
  | start (noError : config.error = none) (noHelp : config.showExtendedHelp = false)
      (noVersion : config.showVersion = false) : Ends config .start

/-- What a summary says a script target is. -/
inductive IsTarget : ScriptTarget → String → Prop where
  | file {path : FilePath} : IsTarget (.file path) ("file:" ++ path.shown)
  | command {text : String} : IsTarget (.command text false) "command"
  | encodedCommand {text : String} : IsTarget (.command text true) "encoded-command"

/-- What a host that starts runs, and how long it stays. -/
structure Starts (config : LaunchConfig) (target : String) (count : Nat) : Prop where
  stdin : target = "stdin" ↔ config.explicitStdinRead = true
  none : target = "none" ↔ config.scriptTarget = .none ∧ config.explicitStdinRead = false
  script : config.scriptTarget ≠ .none → IsTarget config.scriptTarget target
  counted : count = config.trailingArgs.length
  /-- The JSON form lists as many arguments. -/
  listed : ∀ form ∈ config.toJson?, ∃ items,
    form.get? "trailing_args" = some (.list items) ∧ count = items.length
  exit : config.noExit = false → IsTarget config.scriptTarget target
  banner : config.showBanner = true → target = "none"

inductive IsSummary (config : LaunchConfig) : Verdict → String → Prop where
  | refused {diagnostic : Diagnostic} :
      IsSummary config (.refused diagnostic) s!"error {diagnostic.classification} exit=64"
  | help : IsSummary config .help "help"
  | version : IsSummary config .version "version"
  | start {target : String} {count : Nat} (starts : config.Starts target count) :
      IsSummary config .start
        (s!"ok transport={config.transport.label} target={target} " ++
          s!"args={count} no_exit={config.noExit} banner={config.showBanner}")

/-- The path of the script file, if there is one, is text. -/
def IsWritable (config : LaunchConfig) : Prop :=
  ∀ path, config.scriptTarget = .file path → ∃ text : String, path = text

end LaunchConfig

/-- The fields of a JSON form that a verdict fixes. -/
structure Json.Tells (value : Json) (verdict : Verdict) : Prop where
  exitCode : value.get? "exit_code" = some (.number verdict.exitCode)
  error : value.get? "error" = some ((verdict.diagnostic?.map Diagnostic.toJson).getD .null)
  showShortHelp : value.get? "show_short_help" = some (.boolean verdict.showsUsage)
  showExtendedHelp : value.get? "show_extended_help" = some (.boolean (verdict = .help))
  showVersion : value.get? "show_version" = some (.boolean (verdict = .version))

/-- What a run writes and how it exits are fixed by a verdict on a configuration. -/
structure Program.Outcome.Shows (outcome : Outcome) (format : ReportFormat)
    (config : LaunchConfig) (verdict : Verdict) : Prop where
  exitCode : outcome.exitCode = verdict.exitCode
  stderr : outcome.stderr = unlines verdict.notices
  /-- The JSON form is written as JSON, and it is the only value with that text. -/
  json : format = .json → ∃ form, config.toJson? = some form ∧ form.Tells verdict ∧
    form.Spells form.text.toList ∧
    ∀ other : Json, outcome.stdout = unlines [other.text] ↔ other = form
  summary : format = .summary →
    ∃ line, config.IsSummary verdict line ∧ outcome.stdout = unlines [line]

namespace LaunchConfig

variable {config : LaunchConfig} {host : Host} {verdict : Verdict}

theorem ends_verdict (config : LaunchConfig) : config.Ends config.verdict := by
  rw [LaunchConfig.verdict]
  cases error : config.error with
  | some diagnostic => exact .refused error
  | none =>
      cases help : config.showExtendedHelp with
      | true => exact .help help
      | false =>
          cases version : config.showVersion with
          | true => exact .version version
          | false => exact .start error help version

/-- The label of a script target is the one that a summary shows. -/
theorem isTarget_targetLabel (scripted : config.scriptTarget ≠ .none) :
    IsTarget config.scriptTarget config.targetLabel := by
  rw [targetLabel]
  cases target : config.scriptTarget with
  | none => exact absurd target scripted
  | file path => exact .file
  | command text encoded =>
      cases encoded with
      | true => exact .encodedCommand
      | false => exact .command

/-- No script target is taken for standard input, or for nothing to run. -/
theorem IsTarget.ne {target : ScriptTarget} {label : String} (h : IsTarget target label) :
    label ≠ "stdin" ∧ label ≠ "none" := by
  cases h with
  | file =>
      -- A path may be any text; the texts differ in front of it already.
      constructor <;>
      · intro same
        have chars := congrArg String.toList same
        simp at chars
  | command => decide
  | encodedCommand => decide

theorem targetLabel_eq_none_iff : config.targetLabel = "none" ↔
    config.scriptTarget = .none ∧ config.explicitStdinRead = false := by
  constructor
  · intro label
    by_cases scripted : config.scriptTarget = .none
    · cases stdin : config.explicitStdinRead with
      | true => simp [targetLabel, scripted, stdin] at label
      | false => exact ⟨scripted, rfl⟩
    · exact absurd label (isTarget_targetLabel scripted).ne.2
  · rintro ⟨noScript, noStdin⟩
    simp [targetLabel, noScript, noStdin]

/-- The arguments are listed in the JSON form. -/
theorem exists_listed {form : Json} (formed : config.toJson? = some form) :
    ∃ items, form.get? "trailing_args" = some (.list items) ∧
      config.trailingArgs.length = items.length := by
  obtain ⟨target, -, rfl⟩ := Option.map_eq_some_iff.mp formed
  exact ⟨_, rfl, (List.length_map _).symm⟩

/-- Only a path that is no text keeps a configuration from having a JSON form. -/
theorem toJson?_eq_none_iff : config.toJson? = none ↔ ¬ config.IsWritable := by
  rw [toJson?, Option.map_eq_none_iff, IsWritable]
  cases config.scriptTarget with
  | file path => cases path <;> simp [ScriptTarget.toJson?, FilePath.text?]
  | _ => simp [ScriptTarget.toJson?]

namespace Consistent

variable (h : config.Consistent host)
include h

/-- What a verdict says about the fields that decide it: none of the others is set. -/
theorem fields_of_ends (ends : config.Ends verdict) :
    config.error = verdict.diagnostic? ∧
      config.showExtendedHelp = decide (verdict = .help) ∧
      config.showVersion = decide (verdict = .version) := by
  cases ends with
  | refused error =>
      exact ⟨error, h.error_or_help.resolve_left (by simp [error]),
        h.error_or_version.resolve_left (by simp [error])⟩
  | help shown =>
      exact ⟨h.error_or_help.resolve_right (by simp [shown]), shown,
        h.help_or_version.resolve_left (by simp [shown])⟩
  | version shown =>
      exact ⟨h.error_or_version.resolve_right (by simp [shown]),
        h.help_or_version.resolve_right (by simp [shown]), shown⟩
  | start noError noHelp noVersion => exact ⟨noError, noHelp, noVersion⟩

/-- Whichever verdict holds is the one that is found by looking at the fields in order. -/
theorem eq_verdict (ends : config.Ends verdict) : verdict = config.verdict := by
  obtain ⟨error, help, version⟩ := h.fields_of_ends ends
  rw [LaunchConfig.verdict, error, help, version]
  cases verdict <;> rfl

theorem exitCode_of_ends (ends : config.Ends verdict) :
    config.exitCode.code = verdict.exitCode := by
  obtain ⟨error, -, -⟩ := h.fields_of_ends ends
  rw [h.exitCode, error]
  cases verdict <;> rfl

theorem showShortHelp_of_ends (ends : config.Ends verdict) :
    config.showShortHelp = verdict.showsUsage := by
  obtain ⟨error, help, -⟩ := h.fields_of_ends ends
  rw [h.showShortHelp, error, help]
  cases verdict <;> rfl

theorem notices_of_ends (ends : config.Ends verdict) :
    Program.notices config = verdict.notices := by
  obtain ⟨error, -, -⟩ := h.fields_of_ends ends
  rw [Program.notices, errorMessage?, error, h.showShortHelp_of_ends ends]
  cases verdict <;> rfl

theorem tells_of_ends (ends : config.Ends verdict) {form : Json}
    (formed : config.toJson? = some form) : form.Tells verdict := by
  obtain ⟨error, help, version⟩ := h.fields_of_ends ends
  obtain ⟨target, -, rfl⟩ := Option.map_eq_some_iff.mp formed
  constructor
  · rw [← h.exitCode_of_ends ends]
    rfl
  · rw [← error]
    rfl
  · rw [← h.showShortHelp_of_ends ends]
    rfl
  · rw [← help]
    rfl
  · rw [← version]
    rfl

theorem targetLabel_eq_stdin_iff :
    config.targetLabel = "stdin" ↔ config.explicitStdinRead = true := by
  constructor
  · intro label
    by_cases scripted : config.scriptTarget = .none
    · cases stdin : config.explicitStdinRead with
      | true => rfl
      | false => simp [targetLabel, scripted, stdin] at label
    · exact absurd label (isTarget_targetLabel scripted).ne.1
  · intro stdin
    simp [targetLabel, h.scriptTarget_of_stdin stdin, stdin]

/-- A host that starts stays, unless it has a script target. -/
theorem starts (ends : config.Ends .start) :
    config.Starts config.targetLabel config.trailingArgs.length := by
  obtain ⟨-, -, noVersion⟩ := h.fields_of_ends ends
  refine ⟨h.targetLabel_eq_stdin_iff, targetLabel_eq_none_iff, isTarget_targetLabel, rfl,
    fun _ => exists_listed, ?_, ?_⟩
  · intro leaves
    have scripted := (h.exit leaves).resolve_left (by simp [noVersion])
    exact isTarget_targetLabel scripted
  · intro shown
    obtain ⟨-, -, -, idle⟩ := h.banner shown
    exact targetLabel_eq_none_iff.mpr idle

theorem isSummary_of_ends (ends : config.Ends verdict) :
    config.IsSummary verdict config.summary := by
  rw [summary, ← h.eq_verdict ends, h.exitCode_of_ends ends]
  cases verdict with
  | refused diagnostic =>
      have code : " exit=" ++ toString 64 = " exit=64" := by decide
      change config.IsSummary _ ("error " ++ diagnostic.classification ++ " exit=" ++ toString 64)
      rw [String.append_assoc, code]
      exact .refused
  | help => exact .help
  | version => exact .version
  | start => exact .start (h.starts ends)

end Consistent

end LaunchConfig

namespace Program

variable {format : ReportFormat} {config : LaunchConfig} {host : Host} {verdict : Verdict}

theorem unlines_singleton_inj {line other : String} :
    unlines [line] = unlines [other] ↔ line = other := by
  simp [unlines]

/-- A configuration that is written shows the verdict that holds of it. -/
theorem Outcome.shows_resolved {text : String} (h : config.Consistent host)
    (ends : config.Ends verdict) (written : report? format config = some text) :
    (resolved format config).Shows format config verdict := by
  rw [resolved, written]
  refine ⟨h.exitCode_of_ends ends, congrArg unlines (h.notices_of_ends ends), ?json, ?summary⟩
  case json =>
    rintro rfl
    obtain ⟨form, formed, rfl⟩ := Option.map_eq_some_iff.mp written
    refine ⟨form, formed, h.tells_of_ends ends formed, form.spells_text, ?_⟩
    intro other
    rw [unlines_singleton_inj, Json.text_inj, eq_comm]
  case summary =>
    rintro rfl
    cases written
    exact ⟨_, h.isSummary_of_ends ends, rfl⟩

theorem exists_report? (h : format = .summary ∨ config.IsWritable) :
    ∃ text, report? format config = some text := by
  cases format with
  | summary => exact ⟨_, rfl⟩
  | json =>
      have writable : config.IsWritable := h.resolve_left nofun
      have formed : config.toJson? ≠ none :=
        fun missing => LaunchConfig.toJson?_eq_none_iff.mp missing writable
      obtain ⟨form, formed⟩ := Option.ne_none_iff_exists'.mp formed
      exact ⟨form.text, Option.map_eq_some_iff.mpr ⟨form, formed, rfl⟩⟩

theorem Outcome.resolved_json (unwritable : ¬ config.IsWritable) :
    resolved .json config = .unwritable := by
  rw [resolved, report?, LaunchConfig.toJson?_eq_none_iff.mpr unwritable]
  rfl

namespace Surroundings

variable {surroundings : Surroundings} {options : Options} {settings : Settings}
variable {platform : Platform} {args : List String} {hostArgs : List String}

/-- With settings that load and a platform, a run reports what the host makes of its
arguments. -/
theorem run_of_load
    (accepted : Request.ofArgs args = .ok (.resolve options hostArgs))
    (loaded : Settings.load (surroundings.settingsPathFor options)
      (surroundings.follow (surroundings.settingsPathFor options)) = .ok settings)
    (chosen : options.platform.platform settings = .ok platform)
    (resolves : options.listSwitches = false) :
    surroundings.run args = .resolved options.format
      ((⟨platform, options.stdin, surroundings.machine⟩ : Host).resolve hostArgs) := by
  simp only [run, accepted, perform, Surroundings.resolve, loaded, chosen, resolves,
    Bool.false_eq_true, if_false]

/-- In a working directory that is text, the path of any script file is. -/
theorem isWritable_resolve {host : Host} {directory : String}
    (isText : host.machine.workingDirectory = directory) (args : List String) :
    (host.resolve args).IsWritable := by
  intro path target
  obtain ⟨named, rfl⟩ := Host.exists_absolute_of_scriptTarget target
  exact ⟨Path.absolute directory named, by rw [Host.absolute, isText]; rfl⟩

/-- Settings that load give a configuration of which exactly one verdict holds, and the
verdict fixes what the program writes and how it exits, whichever format is asked for. Only
where the path of a script file is no text, a run that is to write JSON fails. -/
theorem run_shows_verdict (surroundings : Surroundings) (options : Options)
    (hostArgs : List String) (settings : Settings)
    (loaded : Settings.load (surroundings.settingsPathFor options)
      (surroundings.follow (surroundings.settingsPathFor options)) = .ok settings)
    (resolves : options.listSwitches = false) :
    ∃ platform config verdict,
      options.platform.platform settings = .ok platform ∧
        config = (⟨platform, options.stdin, surroundings.machine⟩ : Host).resolve hostArgs ∧
        config.Ends verdict ∧ (∀ other, config.Ends other → other = verdict) ∧
        (∀ directory : String, surroundings.machine.workingDirectory = directory →
          config.IsWritable) ∧
        ∀ format? args,
          Request.ofArgs args = .ok (.resolve { options with format? } hostArgs) →
            (format?.getD .json = .summary ∨ config.IsWritable →
              (surroundings.run args).Shows (format?.getD .json) config verdict) ∧
            (format?.getD .json = .json → ¬ config.IsWritable →
              surroundings.run args = .unwritable) := by
  obtain ⟨platform, chosen, -⟩ :=
    Settings.exists_platform (Settings.fault?_of_load loaded) options.platform
  let host : Host := ⟨platform, options.stdin, surroundings.machine⟩
  have consistent := host.resolve_consistent hostArgs
  have ends := (host.resolve hostArgs).ends_verdict
  refine ⟨platform, _, _, chosen, rfl, ends, ?_, ?_, ?_⟩
  · intro other holds
    exact consistent.eq_verdict holds
  · intro directory isText
    exact isWritable_resolve isText hostArgs
  · intro format? args accepted
    -- Only the format is another, so that the settings and the platform are the same.
    rw [run_of_load accepted loaded chosen resolves]
    constructor
    · intro able
      obtain ⟨text, written⟩ := exists_report? able
      exact Outcome.shows_resolved consistent ends written
    · intro json unwritable
      change Outcome.resolved (format?.getD .json) _ = _
      rw [json]
      exact Outcome.resolved_json unwritable

/-- Surroundings without any file. -/
def bare : Surroundings where
  machine := ⟨"/", fun _ => false, true⟩
  settingsPath := "settings.toml"
  follow := fun _ => none

/-- A command line that ends behind `-Command` is refused in either format. -/
theorem run_shows_verdict_sample :
    Settings.load "settings.toml" (bare.follow "settings.toml") = .ok .default ∧
      Request.ofArgs ["--", "-Command"] = .ok (.resolve .none ["-Command"]) ∧
      Request.ofArgs ["--format", "summary", "--", "-Command"] =
        .ok (.resolve { Options.none with format? := some .summary } ["-Command"]) ∧
      ∃ config, config.Ends (.refused .missingCommandParameter) ∧
        (bare.run ["--", "-Command"]).Shows .json config (.refused .missingCommandParameter) ∧
        (bare.run ["--format", "summary", "--", "-Command"]).Shows .summary config
          (.refused .missingCommandParameter) := by
  have plain : Request.ofArgs ["--", "-Command"] = .ok (.resolve .none ["-Command"]) := rfl
  have short : Request.ofArgs ["--format", "summary", "--", "-Command"] =
      .ok (.resolve { Options.none with format? := some .summary } ["-Command"]) := rfl
  obtain ⟨platform, config, verdict, chosen, rfl, ends, only, writable, shows⟩ :=
    run_shows_verdict bare .none ["-Command"] .default rfl rfl
  cases chosen
  obtain rfl := only (.refused .missingCommandParameter) (.refused (by decide))
  exact ⟨rfl, plain, short, _, ends, (shows none _ plain).1 (.inr (writable "/" rfl)),
    (shows (some .summary) _ short).1 (.inl rfl)⟩

/-- Surroundings with one script file, in a working directory that is no text. -/
def foreign : Surroundings where
  machine := ⟨.foreign "/\uFFFD", fun path => path == .foreign "/\uFFFD/run.ps1", true⟩
  settingsPath := "settings.toml"
  follow := fun _ => none

/-- A summary says that the host starts the script file, but as JSON the same run fails, and no
verdict goes with that. A summary also does not say the kind of every script target: a command in
encoded form has a word of its own, where the JSON form has the kind of any command. -/
theorem run_json_fails :
    Settings.load "settings.toml" (foreign.follow "settings.toml") = .ok .default ∧
      Request.ofArgs ["--", "run.ps1"] = .ok (.resolve .none ["run.ps1"]) ∧
      Request.ofArgs ["--format", "summary", "--", "run.ps1"] =
        .ok (.resolve { Options.none with format? := some .summary } ["run.ps1"]) ∧
      foreign.run ["--", "run.ps1"] = .unwritable ∧
      (∀ config verdict, ¬ (foreign.run ["--", "run.ps1"]).Shows .json config verdict) ∧
      foreign.run ["--format", "summary", "--", "run.ps1"] =
        ⟨0, "ok transport=Console target=file:/\uFFFD/run.ps1 args=0 no_exit=false banner=false\n",
          ""⟩ ∧
      bare.run ["--format", "summary", "--", "-EncodedCommand", "YQA="] =
        ⟨0, "ok transport=Console target=encoded-command args=0 no_exit=false banner=false\n",
          ""⟩ ∧
      (ScriptTarget.command "a" true).toJson?.bind (·.get? "kind") = some (.string "command") := by
  have fails : foreign.run ["--", "run.ps1"] = .unwritable := by decide +kernel
  refine ⟨rfl, rfl, rfl, fails, ?_, by decide +kernel, by decide +kernel, rfl⟩
  intro config verdict shows
  have code : Outcome.unwritable.exitCode = verdict.exitCode := fails ▸ shows.exitCode
  cases verdict <;> cases code

end Surroundings

end Program

end ShellLaunch
