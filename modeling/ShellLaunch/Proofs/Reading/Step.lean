import ShellLaunch.Proofs.Reading.Fields

/-!
# One group more

A group that is not refused takes the draft of the reading before it to the draft of the
reading with it. The draft is the whole state of a run, so this is the step of every
induction over a run.
-/

namespace ShellLaunch.Reading

attribute [local simp] TokenGroup.flag? TokenGroup.valueOf? TokenGroup.readsStdin
  Flag.transport? Flag.apartment? Flag.nonInteractive?

variable {host : Host} {reading : Reading}

/-- Where a script target can still be selected, there is none yet. -/
theorem hasScriptTarget_eq_false_iff :
    (reading.draft host).hasScriptTarget = false ↔
      reading.target host = .none ∧ reading.readsStdin = false := by
  simp [Draft.hasScriptTarget, draft, config]

theorem applyFlag_draft (exhausted : reading.ending = .exhausted) (token : String) {flag : Flag}
    (fits : host.flagRefusal? (reading.draft host) flag = none) :
    host.applyFlag (reading.draft host) flag =
      (reading.add (.alone token flag)).draft host := by
  cases flag with
  | socketServerMode | namedPipeServerMode | sshServerMode | serverMode =>
      refine (Host.serve_of_not_refused fits).trans ?_
      simp only [Draft.setTransport, edit_draft]
      simp [draft, config, target_add, args_add, exhausted]
  | sta | mta =>
      refine (Host.chooseApartment_of_not_refused fits).trans ?_
      simp only [Draft.setApartment, edit_draft]
      simp [draft, config, target_add, args_add, exhausted]
  | noExit =>
      simp only [Host.applyFlag, Draft.setNoExit, draft_failed]
      simp [draft, config, target_add, args_add, exhausted, Ending.showsVersion]
  | login | noProfile | noLogo | nonInteractive | interactive
  | removeWorkingDirectoryTrailingCharacter =>
      simp only [Host.applyFlag, Draft.setSkipProfiles, Draft.hideBanner,
        Draft.setNonInteractive, Draft.setRemoveWorkingDirectoryTrailingCharacter, edit_draft]
      simp [draft, config, target_add, args_add, exhausted, Ending.showsVersion]

theorem applyParameter_draft (exhausted : reading.ending = .exhausted) {token value : String}
    {parameter : Parameter}
    (allowed : host.objection? (reading.draft host) token parameter = none)
    (valid : host.valueRefusal? value parameter = none) :
    host.applyParameter (reading.draft host) value parameter =
      (reading.add (.withValue token parameter value)).draft host := by
  cases parameter with
  | configurationName | workingDirectory =>
      simp only [Host.applyParameter, Draft.setConfigurationName, Draft.setWorkingDirectory,
        edit_draft]
      simp [draft, config, target_add, args_add, exhausted]
  | customPipeName =>
      simp only [Host.valueRefusal?] at valid
      simp only [Host.applyParameter, Host.takePipeName, Draft.setCustomPipeName, edit_draft]
      split
      · rename_i ceiling
        simp only [ceiling, ite_eq_right_iff, reduceCtorEq, imp_false] at valid
        simp [draft, config, target_add, args_add, exhausted, valid]
      · simp [draft, config, target_add, args_add, exhausted]
  | windowStyle =>
      cases style : WindowStyle.parse? value with
      | none => simp [Host.valueRefusal?, style] at valid
      | some =>
          simp only [Host.applyParameter, style, Draft.setWindowStyle, edit_draft]
          simp [draft, config, target_add, args_add, exhausted, style]
  | outputFormat | inputFormat =>
      cases format : DataFormat.ofName? value with
      | none => simp [Host.valueRefusal?, format] at valid
      | some =>
          simp only [Host.applyParameter, Draft.takeFormat, format, Draft.setOutputFormat,
            Draft.setInputFormat, edit_draft]
          simp [draft, config, target_add, args_add, exhausted, format]
  | executionPolicy =>
      simp only [Host.valueRefusal?, ite_eq_right_iff, reduceCtorEq, imp_false] at valid
      simp only [Host.applyParameter, if_neg valid, Draft.setExecutionPolicy, edit_draft]
      simp [draft, config, target_add, args_add, exhausted]
  | encodedCommand =>
      obtain ⟨noTarget, noStdin⟩ := hasScriptTarget_eq_false_iff.mp
        (Draft.targetObjection?_eq_none_iff.mp allowed)
      simp only [Host.valueRefusal?] at valid
      split at valid
      · cases valid
      rename_i notDash
      cases decoded : Encoding.decodeCommand value with
      | error => simp [decoded] at valid
      | ok text =>
          -- Whether the host goes on afterwards depends on what was read before.
          have selected : (reading.add (.withValue token .encodedCommand value)).target host =
              .command text true := by
            simp [target_add, exhausted, decodedTarget, decoded]
          simp only [Host.applyParameter, if_neg notDash, decoded, Draft.selectScriptTarget,
            edit_draft]
          simp [draft, config, noTarget, noStdin, selected, args_add, exhausted,
            Ending.showsVersion]
  | encodedArguments =>
      cases decoded : Encoding.decodeArguments value with
      | error => simp [Host.valueRefusal?, decoded] at valid
      | ok args =>
          simp only [Host.applyParameter, decoded, Draft.pushTrailingArgs, edit_draft]
          simp [draft, config, target_add, args_add, exhausted, decodedArgs, decoded]
  | settingsFile =>
      simp only [Host.valueRefusal?, ite_eq_left_iff, reduceCtorEq, imp_false,
        Bool.not_eq_true, Bool.not_eq_false] at valid
      simp only [Host.applyParameter, Host.takeSettingsFile, valid, Draft.setSettingsFile,
        edit_draft]
      simp [draft, config, target_add, args_add, exhausted]

theorem readStdin_draft (exhausted : reading.ending = .exhausted) {group : TokenGroup}
    (reads : group.readsStdin = true) :
    (reading.draft host).readCommandsFromStdin false = (reading.add group).draft host := by
  simp only [Draft.readCommandsFromStdin, edit_draft]
  cases group with
  | alone | withValue => cases reads
  | dash | fileDash =>
      simp [draft, config, target_add, args_add, exhausted, Ending.readsStdin]

/-- A group that is not refused changes the draft as the reading says. -/
theorem apply_draft (exhausted : reading.ending = .exhausted) {group : TokenGroup}
    (accepted : host.groupRefusal? (reading.draft host) group = none) :
    host.apply (reading.draft host) group = (reading.add group).draft host := by
  cases group with
  | alone token flag => exact applyFlag_draft exhausted token accepted
  | withValue token parameter value =>
      obtain ⟨allowed, valid⟩ := Option.or_eq_none_iff.mp accepted
      simp only [Host.apply, allowed]
      exact applyParameter_draft exhausted allowed valid
  | dash | fileDash =>
      simp only [Host.groupRefusal?] at accepted
      simp only [Host.apply, accepted]
      exact readStdin_draft exhausted rfl

end ShellLaunch.Reading
