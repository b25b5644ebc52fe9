import ShellLaunch.Proofs.Draft

/-!
# Sequences of changes

There are only so many ways to change a draft, so what becomes of a draft is told by the list of
the changes that are made to it. The first diagnostic ends the story: whatever is done to a draft
that has failed, in whatever order, leaves the configuration and the mark for `noExit` as they
are (`makeAll_of_failed`), and the draft is finished as it was when it failed.
-/

namespace ShellLaunch.Draft

/-- What can be done to a draft before it is finished. -/
inductive Change where
  | fail (diagnostic : Diagnostic)
  | showHelp
  | showVersion
  | setNoExit
  | setSkipProfiles
  | hideBanner
  | setNonInteractive (nonInteractive : Bool)
  | setTransport (transport : Transport)
  | setApartment (apartment : Apartment)
  | selectScriptTarget (target : ScriptTarget)
  | readCommandsFromStdin (noPrompt : Bool)
  | pushTrailingArgs (args : List TrailingArg)
  | setConfigurationName (name : String)
  | setCustomPipeName (name : String)
  | setExecutionPolicy (policy : String)
  | setSettingsFile (path : String)
  | setWorkingDirectory (path : String)
  | setRemoveWorkingDirectoryTrailingCharacter
  | setWindowStyle (style : WindowStyle)
  | setInputFormat (format : DataFormat)
  | setOutputFormat (format : DataFormat)
  deriving DecidableEq

def make (draft : Draft) : Change → Draft
  | .fail diagnostic => draft.fail diagnostic
  | .showHelp => draft.showHelp
  | .showVersion => draft.showVersion
  | .setNoExit => draft.setNoExit
  | .setSkipProfiles => draft.setSkipProfiles
  | .hideBanner => draft.hideBanner
  | .setNonInteractive nonInteractive => draft.setNonInteractive nonInteractive
  | .setTransport transport => draft.setTransport transport
  | .setApartment apartment => draft.setApartment apartment
  | .selectScriptTarget target => draft.selectScriptTarget target
  | .readCommandsFromStdin noPrompt => draft.readCommandsFromStdin noPrompt
  | .pushTrailingArgs args => draft.pushTrailingArgs args
  | .setConfigurationName name => draft.setConfigurationName name
  | .setCustomPipeName name => draft.setCustomPipeName name
  | .setExecutionPolicy policy => draft.setExecutionPolicy policy
  | .setSettingsFile path => draft.setSettingsFile path
  | .setWorkingDirectory path => draft.setWorkingDirectory path
  | .setRemoveWorkingDirectoryTrailingCharacter =>
    draft.setRemoveWorkingDirectoryTrailingCharacter
  | .setWindowStyle style => draft.setWindowStyle style
  | .setInputFormat format => draft.setInputFormat format
  | .setOutputFormat format => draft.setOutputFormat format

def makeAll (draft : Draft) (changes : List Change) : Draft :=
  changes.foldl make draft

variable {draft : Draft}

@[simp] theorem makeAll_nil (draft : Draft) : draft.makeAll [] = draft := rfl

@[simp] theorem makeAll_cons (draft : Draft) (change : Change) (changes : List Change) :
    draft.makeAll (change :: changes) = (draft.make change).makeAll changes := rfl

@[simp] theorem makeAll_append (draft : Draft) (changes more : List Change) :
    draft.makeAll (changes ++ more) = (draft.makeAll changes).makeAll more :=
  List.foldl_append

/-! ### A failed draft -/

theorem make_of_failed (h : draft.failed = true) (change : Change) :
    draft.make change = draft := by
  cases change <;> exact if_pos h

/-- A failed draft stays as it is, whatever is done to it. -/
theorem makeAll_of_failed (h : draft.failed = true) (changes : List Change) :
    draft.makeAll changes = draft := by
  induction changes with
  | nil => rfl
  | cons change changes ih => rw [makeAll_cons, make_of_failed h, ih]

/-! ### A draft that has not failed -/

/-- A draft without a diagnostic had none before. -/
theorem failed_of_makeAll {changes : List Change} (h : (draft.makeAll changes).failed = false) :
    draft.failed = false := by
  cases failed : draft.failed with
  | false => rfl
  | true =>
      rw [makeAll_of_failed failed, failed] at h
      cases h

/-- As long as nothing fails, the short usage text is shown only together with the whole. -/
theorem showShortHelp_make {change : Change} (h : (draft.make change).failed = false) :
    (draft.make change).config.showShortHelp = true ↔
      draft.config.showShortHelp = true ∨ change = .showHelp := by
  have unfailed : ¬ draft.failed = true := by
    rw [@failed_of_makeAll draft [change] h]
    exact Bool.false_ne_true
  cases change with
  | fail diagnostic =>
      have failed : (draft.make (.fail diagnostic)).failed = true := fail_failed draft diagnostic
      rw [failed] at h
      cases h
  | _ =>
      -- every other change asks first whether the draft has failed, and then takes effect
      refine Iff.trans (Bool.eq_iff_iff.mp
        (congrArg (fun draft : Draft => draft.config.showShortHelp) (if_neg unfailed))) ?_
      simp

theorem showShortHelp_makeAll {changes : List Change}
    (h : (draft.makeAll changes).failed = false) :
    (draft.makeAll changes).config.showShortHelp = true ↔
      draft.config.showShortHelp = true ∨ .showHelp ∈ changes := by
  induction changes generalizing draft with
  | nil => simp
  | cons change changes ih =>
      rw [makeAll_cons] at h ⊢
      rw [ih h, showShortHelp_make (failed_of_makeAll h), List.mem_cons, or_assoc]
      simp only [eq_comm]

/-- The finished form of a draft that has just failed. -/
theorem freeze_fail (h : draft.failed = false) (diagnostic : Diagnostic) :
    (draft.fail diagnostic).freeze =
      { draft.config with
        abortStartup := true
        showBanner := false
        showShortHelp := draft.config.showShortHelp || diagnostic.showsShortHelp
        exitCode := .badCommandLineParameter
        error := some diagnostic } := by
  rw [fail, edit_of_not_failed h]
  rfl

/-! ### The first diagnostic -/

/-- A diagnostic that is recorded after some changes is the last thing that happens to a draft,
whatever else is done to it. -/
structure ClosedBy (before : List Change) (diagnostic : Diagnostic) : Prop where
  /-- The configuration and the mark for `noExit` stay as they are. -/
  unchanged : ∀ after : List Change,
    ((initial.makeAll before).fail diagnostic).makeAll after =
      (initial.makeAll before).fail diagnostic
  /-- The finished configuration is what there was before the diagnostic, apart from the fields
  that say that there is one. The working directory is whole, even if its last character was
  to go. -/
  finished : ∀ after : List Change,
    (initial.makeAll (before ++ .fail diagnostic :: after)).freeze =
      { (initial.makeAll before).config with
        abortStartup := true
        showBanner := false
        showShortHelp := diagnostic.showsShortHelp || before.contains .showHelp
        exitCode := .badCommandLineParameter
        error := some diagnostic }
  exitCode : ∀ after : List Change,
    (initial.makeAll (before ++ .fail diagnostic :: after)).freeze.exitCode.code = 64

/-- The first diagnostic of a draft is the only one, and nothing comes after it. -/
theorem closedBy_first (before : List Change) (diagnostic : Diagnostic)
    (unfailed : (initial.makeAll before).failed = false) : ClosedBy before diagnostic := by
  have unchanged := makeAll_of_failed (fail_failed (initial.makeAll before) diagnostic)
  have shown : (initial.makeAll before).config.showShortHelp = before.contains .showHelp := by
    rw [Bool.eq_iff_iff, showShortHelp_makeAll unfailed, List.contains_iff_mem]
    exact or_iff_right Bool.false_ne_true
  have left (after : List Change) : initial.makeAll (before ++ .fail diagnostic :: after) =
      (initial.makeAll before).fail diagnostic := by
    rw [makeAll_append]
    exact unchanged after
  refine ⟨unchanged, ?_, ?_⟩
  · intro after
    rw [left, freeze_fail unfailed, shown, Bool.or_comm]
  · intro after
    rw [left, freeze_fail unfailed]
    rfl

/-- A diagnostic that shows no usage by itself, after usage was asked for and the working
directory was to lose its last character. -/
theorem closedBy_first_sample :
    (initial.makeAll [.setNoExit, .showHelp, .setRemoveWorkingDirectoryTrailingCharacter,
        .setWorkingDirectory "/x/"]).failed = false ∧
      (initial.makeAll [.setNoExit, .showHelp, .setRemoveWorkingDirectoryTrailingCharacter,
          .setWorkingDirectory "/x/", .fail .staNotImplemented, .fail .missingArgsValue,
          .setWorkingDirectory "/y", .setNoExit]).freeze =
        { LaunchConfig.initial with
          abortStartup := true
          showBanner := false
          showShortHelp := true
          showExtendedHelp := true
          workingDirectory := some "/x/"
          removeWorkingDirectoryTrailingCharacter := true
          exitCode := .badCommandLineParameter
          error := some .staNotImplemented } :=
  have unfailed : (initial.makeAll [.setNoExit, .showHelp,
      .setRemoveWorkingDirectoryTrailingCharacter, .setWorkingDirectory "/x/"]).failed =
        false := rfl
  ⟨unfailed, (closedBy_first _ .staNotImplemented unfailed).finished
    [.fail .missingArgsValue, .setWorkingDirectory "/y", .setNoExit]⟩

end ShellLaunch.Draft
