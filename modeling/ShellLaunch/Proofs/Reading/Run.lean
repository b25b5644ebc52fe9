import ShellLaunch.Proofs.Draft
import ShellLaunch.Proofs.Reading.Basic
import ShellLaunch.Resolve

/-!
# Running a reading

What a run does with a command line, told along its reading: each group changes the
draft, the first diagnostic ends the run, and what the ending says is done last.
`Host.run_group` takes a run past the group at its beginning, and `Host.run_ending` takes it
to its end.
-/

namespace ShellLaunch

def Advance.draft : Advance → Draft
  | .stop draft | .alone draft | .withValue draft => draft

/-- The diagnostic for a switch without its value, where it takes one. -/
def Switch.missing? : Switch → Option Diagnostic
  | .parameter p => some p.missing
  | .command => some .missingCommandParameter
  | .file => some .missingFileArgument
  | _ => none

namespace Host

/-- The objection to a token where a group begins, raised whatever follows it. -/
def objectionAt? (host : Host) (draft : Draft) (token : String) : Option Diagnostic :=
  match Switch.lookup? host.platform token with
  | some (.parameter parameter) => host.objection? draft token parameter
  | some .command | some .file | none => draft.targetObjection? token
  | _ => none

def apply (host : Host) (draft : Draft) (group : TokenGroup) : Draft :=
  match group with
  | .alone _ flag => host.applyFlag draft flag
  | .withValue token parameter value =>
    match host.objection? draft token parameter with
    | some diagnostic => draft.fail diagnostic
    | none => host.applyParameter draft value parameter
  | .dash =>
    match draft.targetObjection? "-" with
    | some diagnostic => draft.fail diagnostic
    | none => draft.readCommandsFromStdin false
  | .fileDash token =>
    match draft.targetObjection? token with
    | some diagnostic => draft.fail diagnostic
    | none => draft.readCommandsFromStdin false

/-- Why the command line cannot end as it does, where that leaves the draft alone. -/
def refusal? (host : Host) (draft : Draft) : Ending → Option Diagnostic
  | .exhausted | .help .. | .version .. => none
  | .commandDash token | .command token .. | .file token .. | .script token .. =>
    draft.targetObjection? token
  | .unfinished token switch => (host.objectionAt? draft token).or switch.missing?
  | .crowded token .. =>
    (draft.targetObjection? token).or (some .tooManyParametersToCommand)

/-- The draft after an ending that is not refused. A missing script file and a terminal
in place of redirected input are found out only after the draft has changed. -/
def conclude (host : Host) (draft : Draft) : Ending → Draft
  | .exhausted | .unfinished .. | .crowded .. => draft
  | .help .. => draft.showHelp
  | .version .. => draft.showVersion
  | .commandDash _ =>
    let reading := draft.readCommandsFromStdin true
    if host.isRedirected then reading else reading.fail .stdinNotRedirected
  | .command _ text args =>
    (draft.selectScriptTarget (.command text false)).pushTrailingArgs
      (args.map TrailingArg.ofValue)
  | .file _ path args => host.runFile draft path args (.argumentFileDoesNotExist path)
  | .script path args => host.runFile draft path args (host.unknownToken path)

def finish (host : Host) (draft : Draft) (ending : Ending) : Draft :=
  match host.refusal? draft ending with
  | some diagnostic => draft.fail diagnostic
  | none => host.conclude draft ending

variable {host : Host} {draft : Draft} {token : String} {rest : List String}
variable {diagnostic : Diagnostic}

/-! ### One step -/

theorem step_help (spelled : Switch.lookup? host.platform token = some .help) :
    host.step draft token rest = .stop draft.showHelp := by
  rw [step, spelled]

theorem step_version (spelled : Switch.lookup? host.platform token = some .version) :
    host.step draft token rest = .stop draft.showVersion := by
  rw [step, spelled]

theorem step_flag {flag : Flag}
    (spelled : Switch.lookup? host.platform token = some (.flag flag)) :
    host.step draft token rest = .alone (host.applyFlag draft flag) := by
  rw [step, spelled]

theorem step_parameter {parameter : Parameter}
    (spelled : Switch.lookup? host.platform token = some (.parameter parameter)) :
    host.step draft token rest = host.readParameter draft token parameter rest := by
  rw [step, spelled]

theorem step_command (spelled : Switch.lookup? host.platform token = some .command) :
    host.step draft token rest = .stop (host.readCommand draft token rest) := by
  rw [step, spelled]

theorem step_file (spelled : Switch.lookup? host.platform token = some .file) :
    host.step draft token rest = host.readFile draft token rest := by
  rw [step, spelled]

theorem step_positional (spelled : Switch.lookup? host.platform token = none) :
    host.step draft token rest = host.readPositional draft token rest := by
  rw [step, spelled]

/-- A step that is objected to leaves the diagnostic and nothing else. -/
theorem step_of_objectionAt? (h : host.objectionAt? draft token = some diagnostic)
    (rest : List String) : host.step draft token rest = .stop (draft.fail diagnostic) := by
  unfold objectionAt? at h
  cases spelled : Switch.lookup? host.platform token with
  | none =>
      simp only [spelled] at h
      simp only [step_positional spelled, readPositional, h]
  | some switch =>
      cases switch with
      | help | version | flag => simp [spelled] at h
      | parameter parameter =>
          simp only [spelled] at h
          simp only [step_parameter spelled, readParameter, h]
      | command =>
          simp only [spelled] at h
          simp only [step_command spelled, readCommand, h]
      | file =>
          simp only [spelled] at h
          simp only [step_file spelled, readFile, h]

/-- A run that stops leaves the draft as the step left it. -/
theorem run_of_stop {final : Draft} (h : host.step draft token rest = .stop final) :
    host.run draft (token :: rest) = final := by
  rw [run, h]

/-! ### Groups -/

/-- The step at a group has the effect of the group, whatever follows it. -/
theorem draft_step_group {group : TokenGroup} (spelled : group.Spelled host.platform)
    {behind : List String} (tokens : group.tokens = token :: behind) (rest : List String) :
    (host.step draft token (behind ++ rest)).draft = host.apply draft group := by
  cases group with
  | alone token flag =>
      obtain ⟨rfl, rfl⟩ := List.cons.inj tokens
      rw [step_flag spelled]
      rfl
  | withValue token parameter value =>
      obtain ⟨rfl, rfl⟩ := List.cons.inj tokens
      rw [step_parameter spelled]
      cases objection : host.objection? draft token parameter <;>
        simp [readParameter, apply, objection, Advance.draft]
  | dash =>
      obtain ⟨rfl, rfl⟩ := List.cons.inj tokens
      rw [step_positional (Switch.lookup?_dash host.platform)]
      cases objection : draft.targetObjection? "-" <;>
        simp [readPositional, apply, objection, Advance.draft]
  | fileDash token =>
      obtain ⟨rfl, rfl⟩ := List.cons.inj tokens
      rw [step_file spelled]
      cases objection : draft.targetObjection? token <;>
        simp [readFile, apply, objection, Advance.draft]

/-- A run goes past the group at its beginning unless that records a diagnostic. -/
theorem run_group {group : TokenGroup} (spelled : group.Spelled host.platform)
    (rest : List String) :
    host.run draft (group.tokens ++ rest) =
      if (host.apply draft group).failed then host.apply draft group
      else host.run (host.apply draft group) rest := by
  cases group with
  | alone token flag =>
      simp only [TokenGroup.tokens, List.cons_append, List.nil_append, run, step_flag spelled]
      rfl
  | withValue token parameter value =>
      cases objection : host.objection? draft token parameter <;>
        simp [TokenGroup.tokens, run, step_parameter spelled, readParameter, apply, objection]
  | dash =>
      have spelled := Switch.lookup?_dash host.platform
      cases objection : draft.targetObjection? "-" <;>
        simp [TokenGroup.tokens, run, step_positional spelled, readPositional, apply, objection]
  | fileDash token =>
      cases objection : draft.targetObjection? token <;>
        simp [TokenGroup.tokens, run, step_file spelled, readFile, apply, objection]

/-! ### Endings -/

/-- The step at an ending ends the run as the ending says. -/
theorem step_ending {ending : Ending} (spelled : ending.Spelled host.platform)
    (tokens : ending.tokens = token :: rest) :
    host.step draft token rest = .stop (host.finish draft ending) := by
  cases ending with
  | exhausted => cases tokens
  | help token ignored =>
      obtain ⟨rfl, rfl⟩ := List.cons.inj tokens
      exact step_help spelled
  | version token ignored =>
      obtain ⟨rfl, rfl⟩ := List.cons.inj tokens
      exact step_version spelled
  | commandDash token =>
      obtain ⟨rfl, rfl⟩ := List.cons.inj tokens
      rw [step_command spelled]
      cases objection : draft.targetObjection? token <;>
        simp [readCommand, finish, refusal?, conclude, objection]
  | command token text args =>
      obtain ⟨rfl, rfl⟩ := List.cons.inj tokens
      obtain ⟨hswitch, htext⟩ := spelled
      rw [step_command hswitch]
      cases objection : draft.targetObjection? token <;>
        simp [readCommand, finish, refusal?, conclude, objection, htext]
  | crowded token next more =>
      obtain ⟨rfl, rfl⟩ := List.cons.inj tokens
      rw [step_command spelled]
      cases objection : draft.targetObjection? token <;>
        simp [readCommand, finish, refusal?, objection]
  | file token path args =>
      obtain ⟨rfl, rfl⟩ := List.cons.inj tokens
      obtain ⟨hswitch, hpath⟩ := spelled
      rw [step_file hswitch]
      cases objection : draft.targetObjection? token <;>
        simp [readFile, finish, refusal?, conclude, objection, hpath]
  | script path args =>
      obtain ⟨rfl, rfl⟩ := List.cons.inj tokens
      obtain ⟨hswitch, hpath⟩ := spelled
      rw [step_positional hswitch]
      cases objection : draft.targetObjection? path <;>
        simp [readPositional, finish, refusal?, conclude, objection, hpath]
  | unfinished token switch =>
      obtain ⟨rfl, rfl⟩ := List.cons.inj tokens
      obtain ⟨hswitch, arity⟩ := spelled
      cases objection : host.objectionAt? draft token with
      | some diagnostic =>
          rw [step_of_objectionAt? objection, finish, refusal?, objection, Option.some_or]
      | none =>
          simp only [finish, refusal?, objection, Option.none_or]
          simp only [objectionAt?, hswitch] at objection
          cases switch with
          | help | version | flag => exact absurd rfl arity
          | parameter parameter =>
              simp only at objection
              simp only [step_parameter hswitch, readParameter, objection, Switch.missing?]
          | command =>
              simp only at objection
              simp only [step_command hswitch, readCommand, objection, Switch.missing?]
          | file =>
              simp only at objection
              simp only [step_file hswitch, readFile, objection, Switch.missing?]

/-- A run ends as the ending of its command line says. -/
theorem run_ending {ending : Ending} (spelled : ending.Spelled host.platform) :
    host.run draft ending.tokens = host.finish draft ending := by
  cases tokens : ending.tokens with
  | nil =>
      cases ending with
      | exhausted => rfl
      | _ => cases tokens
  | cons token rest => exact run_of_stop (step_ending spelled tokens)

end Host

end ShellLaunch
