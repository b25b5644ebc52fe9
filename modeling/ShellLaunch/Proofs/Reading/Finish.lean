import ShellLaunch.Proofs.Reading.Accepted

/-!
# The end of a reading

An ending that is not refused takes the draft of the groups before it to the draft of the
whole reading. Two failures are found out only on the way: a script file that does not
exist, and a terminal where commands should come from standard input. They leave the draft
of a reading as well, that of the ending without its arguments.
-/

namespace ShellLaunch

/-- The ending without the tokens that it passes on or ignores. -/
def Ending.bare : Ending → Ending
  | .help token _ => .help token []
  | .version token _ => .version token []
  | .command token text _ => .command token text []
  | .file token path _ => .file token path []
  | .script path _ => .script path []
  | .crowded token next _ => .crowded token next []
  | ending => ending

/-- Why an ending fails when it has changed the draft already. -/
def Host.lateRefusal? (host : Host) : Ending → Option Diagnostic
  | .commandDash _ => if host.isRedirected then none else some .stdinNotRedirected
  | .file _ path _ =>
    if host.isFile (host.absolute path) then none
    else some (.argumentFileDoesNotExist path (host.absolute path))
  | .script path _ =>
    if host.isFile (host.absolute path) then none
    else some (host.unknownToken path (host.absolute path))
  | _ => none

namespace Reading

variable {host : Host} {groups : List TokenGroup} {ending : Ending}

/-! ### What the groups say, whatever the ending -/

@[simp] theorem has_mk (flag : Flag) :
    (Reading.mk groups ending).has flag = (upTo groups).has flag := rfl

@[simp] theorem lastValue?_mk (parameter : Parameter) :
    (Reading.mk groups ending).lastValue? parameter = (upTo groups).lastValue? parameter := rfl

@[simp] theorem transport_mk : (Reading.mk groups ending).transport = (upTo groups).transport :=
  rfl

@[simp] theorem apartment?_mk :
    (Reading.mk groups ending).apartment? = (upTo groups).apartment? := rfl

@[simp] theorem nonInteractive?_mk :
    (Reading.mk groups ending).nonInteractive? = (upTo groups).nonInteractive? := rfl

@[simp] theorem ending_upTo : (upTo groups).ending = .exhausted := rfl

/-! ### What the ending adds -/

theorem target_mk :
    (Reading.mk groups ending).target host =
      (ending.target? host).getD ((upTo groups).target host) := rfl

theorem readsStdin_mk :
    (Reading.mk groups ending).readsStdin = ((upTo groups).readsStdin || ending.readsStdin) := by
  simp [readsStdin, upTo, Ending.readsStdin]

theorem args_mk : (Reading.mk groups ending).args = (upTo groups).args ++ ending.args := by
  simp [args, upTo, Ending.args, values]

end Reading

namespace Host

open Reading (upTo target_mk readsStdin_mk args_mk)

attribute [local simp] Ending.showsHelp Ending.showsVersion Ending.readsStdin Ending.args
  Ending.target?

variable {host : Host} {groups : List TokenGroup} {ending : Ending} {diagnostic : Diagnostic}

/-- What fails late is a script file that was selected, or a terminal in place of redirected
input. -/
theorem lateRefusal?_cases (h : host.lateRefusal? ending = some diagnostic) :
    (∃ path, ending.bare.target? host = some (.file (host.absolute path)) ∧
        ending.bare.readsStdin = false ∧ diagnostic.missingScript? = some path) ∨
      (∃ token, ending = .commandDash token ∧ diagnostic = .stdinNotRedirected) := by
  cases ending with
  | commandDash token =>
      simp only [lateRefusal?, Option.ite_none_left_eq_some, Option.some.injEq] at h
      exact .inr ⟨token, rfl, h.2.symm⟩
  | file token path args =>
      simp only [lateRefusal?, Option.ite_none_left_eq_some, Option.some.injEq] at h
      refine .inl ⟨path, rfl, rfl, ?_⟩
      rw [← h.2]
      rfl
  | script path args =>
      simp only [lateRefusal?, Option.ite_none_left_eq_some, Option.some.injEq] at h
      refine .inl ⟨path, rfl, rfl, ?_⟩
      rw [← h.2, unknownToken]
      split <;> rfl
  | _ => cases h

@[simp] theorem args_bare (ending : Ending) : ending.bare.args = [] := by
  cases ending <;> rfl

theorem showsHelp_bare (h : host.lateRefusal? ending = some diagnostic) :
    ending.bare.showsHelp = false := by
  cases ending with
  | help => cases h
  | _ => rfl

theorem showsVersion_bare (h : host.lateRefusal? ending = some diagnostic) :
    ending.bare.showsVersion = false := by
  cases ending with
  | version => cases h
  | _ => rfl

/-- What the host runs is selected before anything is passed on to it. -/
theorem selectScriptTarget_draft (settled : ((upTo groups).draft host).hasScriptTarget = false)
    {target : ScriptTarget} (selects : ending.target? host = some target) :
    ((upTo groups).draft host).selectScriptTarget target =
      (Reading.mk groups ending.bare).draft host := by
  obtain ⟨noTarget, noStdin⟩ := Reading.hasScriptTarget_eq_false_iff.mp settled
  simp only [Draft.selectScriptTarget, Reading.edit_draft]
  cases ending <;> cases selects <;>
    simp [Reading.draft, Reading.config, target_mk, readsStdin_mk, args_mk, Ending.bare, noTarget,
      noStdin]

theorem pushTrailingArgs_draft (ending : Ending) :
    ((Reading.mk groups ending.bare).draft host).pushTrailingArgs ending.args =
      (Reading.mk groups ending).draft host := by
  simp only [Draft.pushTrailingArgs, Reading.edit_draft]
  cases ending <;>
    simp [Reading.draft, Reading.config, target_mk, readsStdin_mk, args_mk, Ending.bare]

theorem readCommandsFromStdin_draft (token : String) :
    ((upTo groups).draft host).readCommandsFromStdin true =
      (Reading.mk groups (.commandDash token)).draft host := by
  simp only [Draft.readCommandsFromStdin, Reading.edit_draft]
  simp [Reading.draft, Reading.config, target_mk, readsStdin_mk, args_mk]

/-- A script file is selected before it is known to exist. -/
theorem runFile_draft (settled : ((upTo groups).draft host).hasScriptTarget = false)
    (path : String) (rest : List String) (missing : FilePath → Diagnostic) :
    host.runFile ((upTo groups).draft host) path rest missing =
      if host.isFile (host.absolute path) then (Reading.mk groups (.script path rest)).draft host
      else ((Reading.mk groups (.script path [])).draft host).fail
        (missing (host.absolute path)) := by
  have selected : ((upTo groups).draft host).selectScriptTarget (.file (host.absolute path)) =
      (Reading.mk groups (.script path [])).draft host :=
    selectScriptTarget_draft settled (rfl : (Ending.script path rest).target? host = _)
  have passed : ((Reading.mk groups (.script path [])).draft host).pushTrailingArgs
      (rest.map TrailingArg.ofFileToken) = (Reading.mk groups (.script path rest)).draft host :=
    pushTrailingArgs_draft (.script path rest)
  simp only [runFile, selected, passed]

/-- An ending that is not refused has the effect that its reading says, unless it fails
late. -/
theorem conclude_draft (accepted : host.refusal? ((upTo groups).draft host) ending = none)
    (whole : ending.IsWhole) :
    host.conclude ((upTo groups).draft host) ending =
      match host.lateRefusal? ending with
      | none => (Reading.mk groups ending).draft host
      | some diagnostic => ((Reading.mk groups ending.bare).draft host).fail diagnostic := by
  cases ending with
  | unfinished | crowded => exact whole.elim
  | exhausted => rfl
  | help token ignored =>
      simp only [conclude, Draft.showHelp, Reading.edit_draft, lateRefusal?]
      simp [Reading.draft, Reading.config, target_mk, readsStdin_mk, args_mk]
  | version token ignored =>
      simp only [conclude, Draft.showVersion, Reading.edit_draft, lateRefusal?]
      simp [Reading.draft, Reading.config, target_mk, readsStdin_mk, args_mk]
  | commandDash token =>
      have selected : ((upTo groups).draft host).readCommandsFromStdin true = _ :=
        readCommandsFromStdin_draft token
      cases redirected : host.isRedirected <;>
        simp [conclude, lateRefusal?, redirected, selected, Ending.bare]
  | command token text args =>
      have settled := Draft.targetObjection?_eq_none_iff.mp accepted
      have selected : ((upTo groups).draft host).selectScriptTarget (.command text false) =
          (Reading.mk groups (.command token text [])).draft host :=
        selectScriptTarget_draft settled (rfl : (Ending.command token text args).target? host = _)
      simp only [conclude, selected]
      exact pushTrailingArgs_draft (.command token text args)
  | file token path args =>
      have settled := Draft.targetObjection?_eq_none_iff.mp accepted
      simp only [conclude, runFile_draft settled, lateRefusal?]
      split <;> rfl
  | script path args =>
      have settled := Draft.targetObjection?_eq_none_iff.mp accepted
      simp only [conclude, runFile_draft settled, lateRefusal?]
      split <;> rfl

end Host

end ShellLaunch
