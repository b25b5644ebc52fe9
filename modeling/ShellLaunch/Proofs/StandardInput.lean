import ShellLaunch.Proofs.Capability
import ShellLaunch.Proofs.Extension

/-!
# What standard input has a say in

Whether standard input is redirected is looked at in one place: where `-` stands for the
command, and nothing follows it. Every other command line comes to the same configuration
either way. There, a terminal makes an error of what redirected input makes a session, and
the two configurations differ in what tells of the error, and in the working directory, which
is cut only where there is no error.
-/

namespace ShellLaunch

open Reading (upTo)

namespace Draft

/-- A text loses its last character unless there is none. -/
theorem dropLastChar_eq_self_iff {text : String} : dropLastChar text = text ↔ text = "" := by
  rcases List.eq_nil_or_concat text.toList with empty | ⟨front, c, whole⟩
  · rw [String.toList_eq_nil_iff] at empty
    rw [empty]
    exact iff_of_true dropLastChar_empty rfl
  · obtain rfl : text = (String.ofList front).push c := by
      rw [← String.toList_inj, String.toList_push, String.toList_ofList, whole,
        List.concat_eq_append]
    rw [dropLastChar_push]
    refine iff_of_false ?_ ?_
    · intro same
      simpa using congrArg String.length same
    · simp

/-- The working directory is another one after the cut where there is something to cut. -/
theorem cut_ne_iff (cut : Bool) (directory : Option String) :
    (if cut then directory.map dropLastChar else directory) ≠ directory ↔
      cut = true ∧ ∃ path ≠ "", directory = some path := by
  cases cut with
  | false => simp
  | true =>
      cases directory with
      | none => simp
      | some path => simp [dropLastChar_eq_self_iff]

end Draft

namespace Host

def withStdin (host : Host) (stdin : StdinState) : Host :=
  { host with stdin }

theorem coveredBy_redirected (host : Host) : host.CoveredBy (host.withStdin .redirected) where
  isWindows := rfl
  desktopApartments := id
  maxPipeNameLength ceiling given := ⟨ceiling, given, Nat.le_refl ceiling⟩
  isRedirected _ := rfl
  workingDirectory := rfl
  isFile _ := id

end Host

/-- The configurations of one reading, which ends in `-` for the command, with redirected input
and with a terminal. -/
structure LaunchConfig.DiffersByStdin (reading : Reading)
    (redirected terminal : LaunchConfig) : Prop where
  error : redirected.error = none
  explicitStdinRead : redirected.explicitStdinRead = true
  noPrompt : redirected.noPrompt = true
  abortStartup : redirected.abortStartup = false
  showShortHelp : redirected.showShortHelp = false
  exitCode : redirected.exitCode = .success
  /-- With a terminal the working directory is as it was written last. -/
  terminal_eq : terminal =
    { redirected with
      abortStartup := true
      showShortHelp := true
      exitCode := .badCommandLineParameter
      error := some .stdinNotRedirected
      workingDirectory := reading.lastValue? .workingDirectory }
  workingDirectory : redirected.workingDirectory =
    if reading.has .removeWorkingDirectoryTrailingCharacter then
      terminal.workingDirectory.map Draft.dropLastChar
    else terminal.workingDirectory
  workingDirectory_ne_iff : redirected.workingDirectory ≠ terminal.workingDirectory ↔
    reading.has .removeWorkingDirectoryTrailingCharacter = true ∧
      ∃ path ≠ "", reading.lastValue? .workingDirectory = some path

namespace Host

variable {host : Host} {reading : Reading} {args : List String}

theorem differsByStdin {redirected terminal : Host} (covered : terminal.CoveredBy redirected)
    (groups : List TokenGroup) (token : String) :
    LaunchConfig.DiffersByStdin ⟨groups, .commandDash token⟩
      ((Reading.mk groups (.commandDash token)).config redirected)
      (((Reading.mk groups (.commandDash token)).draft terminal).fail .stdinNotRedirected).freeze
    where
  error := rfl
  explicitStdinRead := by simp [Reading.config, Reading.readsStdin_mk, Ending.readsStdin]
  noPrompt := rfl
  abortStartup := rfl
  showShortHelp := rfl
  exitCode := rfl
  terminal_eq := by
    rw [Reading.freeze_fail_draft, covered.config_eq]
    simp [Reading.config, Reading.readsStdin_mk, Ending.readsStdin, Ending.showsHelp,
      Diagnostic.showsShortHelp]
  workingDirectory := rfl
  workingDirectory_ne_iff := Draft.cut_ne_iff _ _

/-! ### With and without redirected input -/

theorem lateRefusal?_redirected {ending : Ending}
    (other : ∀ token, ending ≠ .commandDash token) :
    (host.withStdin .redirected).lateRefusal? ending = host.lateRefusal? ending ∧
      host.lateRefusal? ending ≠ some .stdinNotRedirected := by
  constructor
  · cases ending with
    | commandDash token => exact absurd rfl (other token)
    | _ => rfl
  · intro late
    rcases lateRefusal?_cases late with ⟨path, -, -, missing⟩ | ⟨token, ending_eq, -⟩
    · cases missing
    · exact other token ending_eq

/-- A diagnostic that is raised early does not depend on standard input. -/
theorem run_redirected_of_fail {groups : List TokenGroup} {diagnostic : Diagnostic}
    (failed : host.run .initial args = ((upTo groups).draft host).fail diagnostic)
    (also : (host.withStdin .redirected).run .initial args =
      ((upTo groups).draft (host.withStdin .redirected)).fail diagnostic)
    (early : diagnostic.isLate = false) :
    (host.withStdin .redirected).run .initial args = host.run .initial args ∧
      (host.run .initial args).config.error ≠ some .stdinNotRedirected := by
  constructor
  · rw [also, failed, host.coveredBy_redirected.draft_eq]
  · rw [failed, Draft.error_fail Reading.draft_failed]
    intro same
    exact Diagnostic.ne_stdinNotRedirected early (Option.some.inj same)

theorem run_redirected_of_admits (splits : reading.Splits host.platform args)
    (admitted : host.Admits reading) (other : ∀ token, reading.ending ≠ .commandDash token) :
    (host.withStdin .redirected).run .initial args = host.run .initial args ∧
      (host.run .initial args).config.error ≠ some .stdinNotRedirected := by
  have covered := host.coveredBy_redirected
  obtain ⟨same, uncomplaining⟩ := host.lateRefusal?_redirected other
  rw [run_of_admits (covered.splits splits) (covered.admits admitted),
    run_of_admits splits admitted, same, covered.draft_eq, covered.draft_eq]
  refine ⟨rfl, ?_⟩
  cases late : host.lateRefusal? reading.ending with
  | none => nofun
  | some diagnostic =>
      simp only [Draft.error_fail Reading.draft_failed]
      rwa [late] at uncomplaining

/-- Unless a command line ends in `-` for the command, and nothing else is wrong with it, the
run over it would be the same with redirected input, and has no complaint about that. -/
theorem run_redirected (splits : reading.Splits host.platform args) :
    ((host.withStdin .redirected).run .initial args = host.run .initial args ∧
        (host.run .initial args).config.error ≠ some .stdinNotRedirected) ∨
      ∃ token, reading.ending = .commandDash token ∧ host.Admits reading := by
  have covered := host.coveredBy_redirected
  have also := covered.splits splits
  rcases accepts_or_refused splits.groups with
    accepted | ⟨before, group, after, diagnostic, groups_eq, accepted, refused⟩
  · have alsoAccepted := covered.accepts accepted
    have same_refusal : (host.withStdin .redirected).refusal?
        ((upTo reading.groups).draft (host.withStdin .redirected)) reading.ending =
          host.refusal? ((upTo reading.groups).draft host) reading.ending := by
      rw [covered.draft_eq]
      rfl
    cases refusal : host.refusal? ((upTo reading.groups).draft host) reading.ending with
    | some diagnostic =>
        exact .inl (run_redirected_of_fail (run_of_refusal? splits accepted refusal)
          (run_of_refusal? also alsoAccepted (same_refusal.trans refusal))
          (isLate_of_refusal? refusal))
    | none =>
        have admitted : host.Admits reading := ⟨accepted, splits.ending, refusal⟩
        by_cases dash : ∃ token, reading.ending = .commandDash token
        · obtain ⟨token, ending⟩ := dash
          exact .inr ⟨token, ending, admitted⟩
        · exact .inl (run_redirected_of_admits splits admitted (not_exists.mp dash))
  · have alsoRefused : (host.withStdin .redirected).groupRefusal?
        ((upTo before).draft (host.withStdin .redirected)) group = some diagnostic := by
      rw [covered.draft_eq]
      exact refused
    have failed := run_of_groupRefusal? splits groups_eq accepted refused []
    have alsoFailed :=
      run_of_groupRefusal? also groups_eq (covered.accepts accepted) alsoRefused []
    rw [List.append_nil] at failed alsoFailed
    exact .inl (run_redirected_of_fail failed alsoFailed (isLate_of_groupRefusal? refused))

/-- Standard input has no say in a resolution but where a command line ends in `-` for the
command, and a terminal is all that is wrong with it. -/
theorem resolve_redirected_terminal (host : Host) (args : List String) :
    (((host.withStdin .terminal).resolve args).error ≠ some .stdinNotRedirected →
        (host.withStdin .redirected).resolve args = (host.withStdin .terminal).resolve args) ∧
      (((host.withStdin .terminal).resolve args).error = some .stdinNotRedirected →
        ∃ (reading : Reading) (start : List String) (token : String),
          reading.Splits host.platform args ∧ reading.ending = .commandDash token ∧
          args = start ++ [token, "-"] ∧
          Switch.lookup? host.platform token = some .command ∧
          LaunchConfig.DiffersByStdin reading ((host.withStdin .redirected).resolve args)
            ((host.withStdin .terminal).resolve args)) := by
  have splits := Reading.splits_ofArgs (host.withStdin .terminal).platform args
  generalize Reading.ofArgs (host.withStdin .terminal).platform args = reading at splits
  have covered := (host.withStdin .terminal).coveredBy_redirected
  rcases run_redirected splits with ⟨same, other⟩ | ⟨token, ending, admitted⟩
  · constructor
    · intro _
      exact congrArg Draft.freeze same
    · intro complains
      exact absurd complains other
  · obtain ⟨groups, last⟩ := reading
    obtain rfl : last = .commandDash token := ending
    have terminal : (host.withStdin .terminal).resolve args =
        (((Reading.mk groups (.commandDash token)).draft (host.withStdin .terminal)).fail
          .stdinNotRedirected).freeze := by
      rw [resolve, run_of_admits splits admitted]
      rfl
    have redirected : (host.withStdin .redirected).resolve args =
        (Reading.mk groups (.commandDash token)).config (host.withStdin .redirected) :=
      resolve_of_admits (covered.splits splits) (covered.admits admitted) rfl
    rw [terminal, redirected]
    constructor
    · intro other
      exact absurd rfl other
    · intro _
      exact ⟨_, _, token, splits, rfl, splits.tokens_eq.symm, splits.ending,
        differsByStdin covered groups token⟩

/-- A Windows host without files, on which a working directory can be cut. -/
def windowsSample : Host :=
  ⟨.windowsCore, .detect, ⟨"/w", fun _ => false, true⟩⟩

/-- A working directory that is cut where standard input is redirected. -/
theorem resolve_redirected_terminal_sample :
    ((windowsSample.withStdin .terminal).resolve
        ["-removeworkingdirectorytrailingcharacter", "-wd", "x/", "-c", "-"]).error =
          some .stdinNotRedirected ∧
      ∃ reading : Reading, reading.lastValue? .workingDirectory = some "x/" ∧
        LaunchConfig.DiffersByStdin reading
          ((windowsSample.withStdin .redirected).resolve
            ["-removeworkingdirectorytrailingcharacter", "-wd", "x/", "-c", "-"])
          ((windowsSample.withStdin .terminal).resolve
            ["-removeworkingdirectorytrailingcharacter", "-wd", "x/", "-c", "-"]) := by
  have complains : ((windowsSample.withStdin .terminal).resolve
      ["-removeworkingdirectorytrailingcharacter", "-wd", "x/", "-c", "-"]).error =
        some .stdinNotRedirected := by
    decide +kernel
  have verbatim : ((windowsSample.withStdin .terminal).resolve
      ["-removeworkingdirectorytrailingcharacter", "-wd", "x/", "-c", "-"]).workingDirectory =
        some "x/" := by
    decide +kernel
  obtain ⟨reading, -, -, -, -, -, -, differs⟩ :=
    (resolve_redirected_terminal windowsSample _).2 complains
  rw [differs.terminal_eq] at verbatim
  exact ⟨complains, reading, verbatim, differs⟩

end Host

end ShellLaunch
