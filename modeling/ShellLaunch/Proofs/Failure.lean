import ShellLaunch.Proofs.Resolution

/-!
# What a failure leaves

A resolution that fails leaves the configuration of the groups before the one that failed,
apart from the fields that say that there is an error. Of the group that failed nothing
remains but two traces: the path of a script file that does not exist, and that commands
should have come from standard input where that is a terminal.
-/

namespace ShellLaunch

open Reading (upTo)

namespace Host

/-- What a diagnostic makes of a configuration `left` that some groups have led to. -/
def failure (host : Host) (before : Reading) (left : LaunchConfig) (diagnostic : Diagnostic) :
    LaunchConfig :=
  { left with
    abortStartup := true
    showBanner := false
    showShortHelp := diagnostic.showsShortHelp
    exitCode := .badCommandLineParameter
    error := some diagnostic
    workingDirectory := before.lastValue? .workingDirectory
    scriptTarget :=
      match diagnostic.missingScript? with
      | some token => .file (host.absolute token)
      | none => left.scriptTarget
    noExit :=
      match diagnostic.missingScript? with
      | some _ => before.has .noExit
      | none => left.noExit
    explicitStdinRead := left.explicitStdinRead || diagnostic == .stdinNotRedirected
    noPrompt := left.noPrompt || diagnostic == .stdinNotRedirected }

variable {host : Host} {groups : List TokenGroup} {ending : Ending} {diagnostic : Diagnostic}
variable {args : List String}

/-- A diagnostic that is raised before the draft has changed leaves no other trace. -/
theorem freeze_fail_of_early (early : diagnostic.isLate = false) :
    (((upTo groups).draft host).fail diagnostic).freeze =
      host.failure (upTo groups) ((upTo groups).config host) diagnostic := by
  obtain ⟨noScript, redirected⟩ := Bool.or_eq_false_iff.mp early
  rw [Option.isSome_eq_false_iff, Option.isNone_iff_eq_none] at noScript
  rw [Reading.freeze_fail_draft]
  simp only [failure, noScript, redirected, Bool.or_false]
  rfl

/-- An ending that fails late leaves its target, or that it reads standard input. -/
theorem freeze_fail_of_late (late : host.lateRefusal? ending = some diagnostic) :
    (((Reading.mk groups ending.bare).draft host).fail diagnostic).freeze =
      host.failure (upTo groups) ((upTo groups).config host) diagnostic := by
  rw [Reading.freeze_fail_draft]
  rcases lateRefusal?_cases late with ⟨path, selects, noStdin, missing⟩ | ⟨token, rfl, rfl⟩
  · have redirected : (diagnostic == .stdinNotRedirected) = false := by
      rw [beq_eq_false_iff_ne]
      rintro rfl
      cases missing
    simp only [failure, missing, redirected, Reading.config, Reading.target_mk,
      Reading.readsStdin_mk, Reading.args_mk, selects, noStdin, args_bare, showsHelp_bare late,
      showsVersion_bare late]
    simp [Ending.showsHelp, Ending.showsVersion, Ending.readsStdin]
  · simp only [failure, Ending.bare, Diagnostic.missingScript?, Reading.config,
      Reading.target_mk, Reading.readsStdin_mk, Reading.args_mk]
    simp [Ending.showsHelp, Ending.showsVersion, Ending.readsStdin, Ending.args, Ending.target?]

/-- The step at an ending that fails late is the one that fails. -/
theorem step_of_late {reading : Reading} (admitted : host.Admits reading)
    (late : host.lateRefusal? reading.ending = some diagnostic) :
    ∃ token rest, reading.tokens = TokenGroup.tokensOf reading.groups ++ token :: rest ∧
      (host.step ((upTo reading.groups).draft host) token rest).draft.config.error =
        some diagnostic := by
  have unexhausted : reading.ending ≠ .exhausted := by
    intro exhausted
    rw [exhausted] at late
    cases late
  obtain ⟨token, rest, tokens⟩ := Ending.exists_tokens unexhausted
  refine ⟨token, rest, by rw [Reading.tokens, tokens], ?_⟩
  rw [step_ending admitted.spelled tokens, finish, admitted.ending]
  simp only [conclude_draft admitted.ending admitted.isWhole, late]
  exact Draft.error_fail rfl diagnostic

/-- A resolution with an error is the one of the tokens before the group that failed, as
the diagnostic changes it. -/
theorem resolve_of_error (h : (host.resolve args).error = some diagnostic) :
    ∃ (before : Reading) (start : List String) (token : String) (rest : List String),
      args = start ++ token :: rest ∧
      before.Splits host.platform start ∧ before.ending = .exhausted ∧
      (host.step (host.run .initial start) token rest).draft.config.error = some diagnostic ∧
      (host.resolve start).Open ∧
      host.resolve args = host.failure before (host.resolve start) diagnostic := by
  have splits := Reading.splits_ofArgs host.platform args
  have args_eq := splits.tokens_eq.symm
  have outcome := outcome_of_splits splits
  rw [resolve, Draft.error_freeze] at h
  rw [resolve]
  generalize host.run .initial args = final at outcome h
  cases outcome with
  | done => cases h
  | @refused before token rest other accepted tokens step early =>
      rw [Draft.error_fail rfl] at h
      cases h
      refine ⟨upTo before, _, token, rest, args_eq.trans tokens, accepted.splits, rfl,
        ?_, ?_, ?_⟩
      · rw [accepted.run_initial, step, Draft.error_fail rfl]
      · rw [accepted.resolve_eq]
        exact open_upTo host before
      · rw [accepted.resolve_eq]
        exact freeze_fail_of_early early
  | @late other admitted late =>
      rw [Draft.error_fail rfl] at h
      cases h
      obtain ⟨token, rest, tokens, step⟩ := step_of_late admitted late
      have accepted := admitted.groups
      refine ⟨upTo _, _, token, rest, args_eq.trans tokens, accepted.splits, rfl,
        ?_, ?_, ?_⟩
      · rw [accepted.run_initial, step]
      · rw [accepted.resolve_eq]
        exact open_upTo host _
      · rw [accepted.resolve_eq]
        exact freeze_fail_of_late late

/-- A script file that does not exist, after two switches. -/
theorem resolve_of_error_sample :
    (sample.resolve ["-noexit", "-wd", "/x/", "gone"]).error =
        some (.argumentFileDoesNotExist "gone" "/w/gone") ∧
      ∃ (before : Reading) (start : List String) (token : String) (rest : List String),
        ["-noexit", "-wd", "/x/", "gone"] = start ++ token :: rest ∧
        before.Splits .unix start ∧ before.ending = .exhausted ∧
        (sample.step (sample.run .initial start) token rest).draft.config.error =
          some (.argumentFileDoesNotExist "gone" "/w/gone") ∧
        (sample.resolve start).Open ∧
        sample.resolve ["-noexit", "-wd", "/x/", "gone"] =
          sample.failure before (sample.resolve start)
            (.argumentFileDoesNotExist "gone" "/w/gone") :=
  have failed : (sample.resolve ["-noexit", "-wd", "/x/", "gone"]).error =
      some (.argumentFileDoesNotExist "gone" "/w/gone") := by
    decide +kernel
  ⟨failed, resolve_of_error failed⟩

end Host

end ShellLaunch
