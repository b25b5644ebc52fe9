import ShellLaunch.Proofs.Refinement

/-!
# One script source

What a host runs is settled once. A command line can go on after an encoded command, or
after `-` for standard input, but nothing that follows has a say in it: a token that would
say what the host runs is objected to before its value is looked at, and every other group
leaves the matter alone.

`Host.step_sameSource` is the second half for one step from any draft in which it is settled
what the host runs, and `Host.run_sameSource` is the same for a whole run.
-/

namespace ShellLaunch

open Reading (upTo)

/-- The two configurations agree in what the host runs. -/
structure LaunchConfig.SameSource (before after : LaunchConfig) : Prop where
  scriptTarget : after.scriptTarget = before.scriptTarget
  explicitStdinRead : after.explicitStdinRead = before.explicitStdinRead
  noPrompt : after.noPrompt = before.noPrompt

/-- It is settled what the host runs, and the command line can go on all the same: the
target is an encoded command, or commands come from `-` outside the switch for a command. -/
structure LaunchConfig.SourceTaken (config : LaunchConfig) : Prop where
  error : config.error = none
  showExtendedHelp : config.showExtendedHelp = false
  showVersion : config.showVersion = false
  source : (∃ text, config.scriptTarget = .command text true) ∨
    (config.explicitStdinRead = true ∧ config.noPrompt = false)

/-- A token that spells this switch, or none, says what the host runs. -/
def Switch.selectsSource : Option Switch → Bool
  | none | some .command | some .file | some (.parameter .encodedCommand) => true
  | _ => false

namespace LaunchConfig.SameSource

variable {before middle after : LaunchConfig}

theorem refl (config : LaunchConfig) : config.SameSource config := ⟨rfl, rfl, rfl⟩

theorem trans (first : before.SameSource middle) (second : middle.SameSource after) :
    before.SameSource after where
  scriptTarget := second.scriptTarget.trans first.scriptTarget
  explicitStdinRead := second.explicitStdinRead.trans first.explicitStdinRead
  noPrompt := second.noPrompt.trans first.noPrompt

end LaunchConfig.SameSource

namespace Draft

variable {draft other : Draft}

/-- Whether it is settled what the host runs can be told from what it runs. -/
theorem hasScriptTarget_of_sameSource (same : draft.config.SameSource other.config) :
    other.hasScriptTarget = draft.hasScriptTarget := by
  rw [hasScriptTarget, hasScriptTarget, same.scriptTarget, same.explicitStdinRead]

theorem targetObjection?_of_settled (settled : draft.hasScriptTarget = true) (token : String) :
    draft.targetObjection? token = some (.conflictingScriptTarget token) :=
  if_pos settled

theorem sameSource_edit {change : LaunchConfig → LaunchConfig}
    (keeps : ∀ config, LaunchConfig.SameSource config (change config)) :
    draft.config.SameSource (draft.edit change).config := by
  cases failed : draft.failed with
  | true =>
      rw [edit_of_failed failed]
      exact .refl _
  | false =>
      rw [edit_of_not_failed failed]
      exact keeps _

theorem sameSource_fail (diagnostic : Diagnostic) :
    draft.config.SameSource (draft.fail diagnostic).config :=
  sameSource_edit fun _ => ⟨rfl, rfl, rfl⟩

theorem sameSource_setNoExit : draft.config.SameSource draft.setNoExit.config := by
  unfold setNoExit
  split <;> exact ⟨rfl, rfl, rfl⟩

theorem sameSource_showHelp : draft.config.SameSource draft.showHelp.config :=
  sameSource_edit fun _ => ⟨rfl, rfl, rfl⟩

theorem sameSource_showVersion : draft.config.SameSource draft.showVersion.config :=
  sameSource_edit fun _ => ⟨rfl, rfl, rfl⟩

theorem sameSource_freeze : draft.config.SameSource draft.freeze := ⟨rfl, rfl, rfl⟩

end Draft

namespace Host

variable {host : Host} {draft : Draft} {token : String} {rest : List String}

/-! ### No group but a source changes what the host runs -/

theorem sameSource_serve (requested : Transport) :
    draft.config.SameSource (draft.serve requested).config := by
  simp only [Draft.serve]
  split
  · exact Draft.sameSource_fail _
  · exact Draft.sameSource_edit fun _ => ⟨rfl, rfl, rfl⟩

theorem sameSource_chooseApartment (requested : Apartment) :
    draft.config.SameSource (host.chooseApartment draft requested).config := by
  simp only [chooseApartment]
  split
  · exact Draft.sameSource_fail _
  · split
    · exact Draft.sameSource_fail _
    · exact Draft.sameSource_edit fun _ => ⟨rfl, rfl, rfl⟩

theorem sameSource_applyFlag (flag : Flag) :
    draft.config.SameSource (host.applyFlag draft flag).config := by
  cases flag with
  | login => exact .refl _
  | noExit => exact Draft.sameSource_setNoExit
  | socketServerMode | namedPipeServerMode | sshServerMode | serverMode =>
      exact sameSource_serve _
  | sta | mta => exact sameSource_chooseApartment _
  | noProfile | noLogo | nonInteractive | interactive
  | removeWorkingDirectoryTrailingCharacter =>
      exact Draft.sameSource_edit fun _ => ⟨rfl, rfl, rfl⟩

theorem sameSource_applyParameter {parameter : Parameter}
    (other : parameter ≠ .encodedCommand) (value : String) :
    draft.config.SameSource (host.applyParameter draft value parameter).config := by
  cases parameter with
  | encodedCommand => exact absurd rfl other
  | configurationName | workingDirectory =>
      exact Draft.sameSource_edit fun _ => ⟨rfl, rfl, rfl⟩
  | customPipeName | windowStyle | outputFormat | inputFormat | executionPolicy
  | encodedArguments | settingsFile =>
      simp only [applyParameter, takePipeName, takeSettingsFile, Draft.takeFormat]
      repeat' split
      all_goals exact Draft.sameSource_edit fun _ => ⟨rfl, rfl, rfl⟩

/-- Where it is settled what the host runs, a token that would say so is objected to,
whatever follows it. -/
theorem objectionAt?_of_settled (settled : draft.hasScriptTarget = true)
    (selects : Switch.selectsSource (Switch.lookup? host.platform token) = true) :
    host.objectionAt? draft token = some (.conflictingScriptTarget token) := by
  have objection := Draft.targetObjection?_of_settled settled token
  unfold objectionAt?
  cases spelled : Switch.lookup? host.platform token with
  | none => exact objection
  | some switch =>
      rw [spelled] at selects
      cases switch with
      | command | file => exact objection
      | help | version | flag => cases selects
      | parameter parameter =>
          cases parameter with
          | encodedCommand => exact objection
          | _ => cases selects

theorem sameSource_readParameter {parameter : Parameter} (other : parameter ≠ .encodedCommand) :
    draft.config.SameSource (host.readParameter draft token parameter rest).draft.config := by
  simp only [readParameter]
  split
  · exact Draft.sameSource_fail _
  · split
    · exact Draft.sameSource_fail _
    · exact sameSource_applyParameter other _

/-- A step leaves what the host runs as it is, where that is settled. -/
theorem step_sameSource (settled : draft.hasScriptTarget = true) (token : String)
    (rest : List String) :
    draft.config.SameSource (host.step draft token rest).draft.config := by
  cases selects : Switch.selectsSource (Switch.lookup? host.platform token) with
  | true =>
      rw [step_of_objectionAt? (objectionAt?_of_settled settled selects)]
      exact Draft.sameSource_fail _
  | false =>
      cases spelled : Switch.lookup? host.platform token with
      | none =>
          rw [spelled] at selects
          cases selects
      | some switch =>
          rw [spelled] at selects
          cases switch with
          | command | file => cases selects
          | help =>
              rw [step_help spelled]
              exact Draft.sameSource_showHelp
          | version =>
              rw [step_version spelled]
              exact Draft.sameSource_showVersion
          | flag flag =>
              rw [step_flag spelled]
              exact sameSource_applyFlag flag
          | parameter parameter =>
              rw [step_parameter spelled]
              refine sameSource_readParameter ?_
              rintro rfl
              cases selects

theorem sameSource_of_step (settled : draft.hasScriptTarget = true) {advance : Advance}
    (step : host.step draft token rest = advance) :
    draft.config.SameSource advance.draft.config := by
  rw [← step]
  exact step_sameSource settled token rest

/-- A run leaves what the host runs as it is, where that is settled. -/
theorem run_sameSource (settled : draft.hasScriptTarget = true) (args : List String) :
    draft.config.SameSource (host.run draft args).config := by
  fun_induction run host draft args with
  | case1 draft => exact .refl _
  | case2 draft token rest next step
  | case3 draft token rest next step failed
  | case5 draft token rest next step failed
  | case6 draft token next goesOn step => exact sameSource_of_step settled step
  | case4 draft token rest next step goesOn ih
  | case7 draft token next goesOn value rest step ih =>
      have same : draft.config.SameSource next.config := sameSource_of_step settled step
      exact same.trans (ih ((Draft.hasScriptTarget_of_sameSource same).trans settled))

/-! ### Command lines that have settled it -/

variable {reading : Reading} {start : List String}

/-- An ending that says what the host runs leaves nothing to read on for. -/
theorem Admits.not_isSource (admitted : host.Admits reading)
    (taken : (reading.config host).SourceTaken) : reading.ending.isSource = false := by
  rw [Bool.eq_false_iff]
  intro source
  obtain ⟨noTarget, noStdin⟩ :=
    Reading.hasScriptTarget_eq_false_iff.mp (admitted.hasScriptTarget_of_isSource source)
  obtain ⟨groups, ending⟩ := reading
  have other := taken.source
  simp only [Reading.config, Reading.target_mk, Reading.readsStdin_mk, noTarget,
    noStdin] at other
  cases ending with
  | exhausted | help | version | unfinished | crowded => cases source
  | commandDash | command | file | script =>
      simp [Ending.target?, Ending.readsStdin] at other

theorem Admits.exhausted (admitted : host.Admits reading)
    (taken : (reading.config host).SourceTaken) : reading.ending = .exhausted := by
  have noSource := admitted.not_isSource taken
  have whole := admitted.isWhole
  have noHelp : reading.ending.showsHelp = false := taken.showExtendedHelp
  have noVersion : reading.ending.showsVersion = false := taken.showVersion
  obtain ⟨groups, ending⟩ := reading
  cases ending with
  | exhausted => rfl
  | help => cases noHelp
  | version => cases noVersion
  | unfinished | crowded => exact whole.elim
  | commandDash | command | file | script => cases noSource

/-- Such a command line is made of accepted groups, and its draft knows that it is settled
what the host runs. -/
theorem accepts_of_sourceTaken (taken : (host.resolve start).SourceTaken) :
    ∃ groups, host.Accepts groups ∧ start = TokenGroup.tokensOf groups ∧
      ((upTo groups).draft host).hasScriptTarget = true := by
  have splits := Reading.splits_ofArgs host.platform start
  obtain ⟨admitted, config_eq⟩ := admits_of_error_eq_none splits taken.error
  generalize Reading.ofArgs host.platform start = reading at splits admitted config_eq
  rw [config_eq] at taken
  have exhausted := admitted.exhausted taken
  obtain ⟨groups, ending⟩ := reading
  obtain rfl : ending = .exhausted := exhausted
  refine ⟨groups, admitted.groups, ?_, ?_⟩
  · rw [← splits.tokens_eq]
    exact List.append_nil _
  · rw [Draft.hasScriptTarget, Bool.or_eq_true_iff]
    rcases taken.source with ⟨text, target⟩ | ⟨reads, -⟩
    · refine .inl (bne_iff_ne.mpr ?_)
      intro noTarget
      have same : ScriptTarget.command text true = .none := target.symm.trans noTarget
      cases same
    · exact .inr reads

/-- Once a command line has settled what the host runs, a token that would say so is refused
by name, whatever its value and whatever follows it, and leaves what is run, whether the host
goes on after it and what is passed on; and no continuation at all changes what is run. -/
theorem resolve_append_of_sourceTaken (taken : (host.resolve start).SourceTaken) :
    (∀ token rest, Switch.selectsSource (Switch.lookup? host.platform token) = true →
      (host.resolve (start ++ [token] ++ rest)).error = some (.conflictingScriptTarget token) ∧
        (host.resolve start).SameSource (host.resolve (start ++ [token] ++ rest)) ∧
        (host.resolve (start ++ [token] ++ rest)).noExit = (host.resolve start).noExit ∧
        (host.resolve (start ++ [token] ++ rest)).trailingArgs =
          (host.resolve start).trailingArgs) ∧
      ∀ more, (host.resolve start).SameSource (host.resolve (start ++ more)) := by
  obtain ⟨groups, accepted, rfl, settled⟩ := accepts_of_sourceTaken taken
  rw [accepted.resolve_eq]
  constructor
  · intro token rest selects
    have refused : host.resolve (TokenGroup.tokensOf groups ++ [token] ++ rest) =
        (((upTo groups).draft host).fail (.conflictingScriptTarget token)).freeze := by
      rw [resolve, List.append_assoc, run_accepted accepted, List.singleton_append,
        run_of_stop (step_of_objectionAt? (objectionAt?_of_settled settled selects) rest)]
    rw [refused, Reading.freeze_fail_draft]
    exact ⟨rfl, ⟨rfl, rfl, rfl⟩, rfl, rfl⟩
  · intro more
    have begun : ((upTo groups).config host).SameSource ((upTo groups).draft host).config :=
      ⟨rfl, rfl, rfl⟩
    rw [resolve, run_accepted accepted]
    exact (begun.trans (run_sameSource settled more)).trans Draft.sameSource_freeze

/-- An encoded command, and then a script file that does not exist; and standard input, and
then a switch for a script file without its path. -/
theorem resolve_append_of_sourceTaken_sample :
    (sample.resolve ["-noexit", "-ec", "YQA="]).SourceTaken ∧
      (sample.resolve ["-noexit", "-ec", "YQA=", "gone", "x"]).error =
        some (.conflictingScriptTarget "gone") ∧
      (sample.resolve ["-"]).SourceTaken ∧
      (sample.resolve ["-", "-f"]).error = some (.conflictingScriptTarget "-f") := by
  have encoded : (sample.resolve ["-noexit", "-ec", "YQA="]).SourceTaken :=
    ⟨by decide +kernel, by decide +kernel, by decide +kernel,
      .inl ⟨"a", by decide +kernel⟩⟩
  have stdin : (sample.resolve ["-"]).SourceTaken :=
    ⟨by decide +kernel, by decide +kernel, by decide +kernel, .inr (by decide +kernel)⟩
  exact ⟨encoded,
    ((resolve_append_of_sourceTaken encoded).1 "gone" ["x"] (by decide +kernel)).1,
    stdin, ((resolve_append_of_sourceTaken stdin).1 "-f" [] (by decide +kernel)).1⟩

end Host

end ShellLaunch
