import ShellLaunch.Proofs.Reading.Run

/-!
# Refusals

Why a group is refused, as a value: by an objection to its switch, by its value, or
because it does not go with what came before. A refused group leaves nothing in the draft
but the diagnostic, and a group that is not refused leaves no diagnostic.
-/

namespace ShellLaunch

namespace Diagnostic

/-- The token that names no script file, where the diagnostic is about one. -/
def missingScript? : Diagnostic → Option String
  | argumentFileDoesNotExist token _ | unrecognizedSwitch token _ => some token
  | _ => none

/-- The diagnostic is raised only after the draft has changed. -/
def isLate (diagnostic : Diagnostic) : Bool :=
  diagnostic.missingScript?.isSome || diagnostic == .stdinNotRedirected

end Diagnostic

namespace Flag

def transport? : Flag → Option Transport
  | .socketServerMode => some .socketServer
  | .namedPipeServerMode => some .namedPipeServer
  | .sshServerMode => some .sshServer
  | .serverMode => some .server
  | _ => none

def apartment? : Flag → Option Apartment
  | .sta => some .sta
  | .mta => some .mta
  | _ => none

end Flag

/-- Why a server transport cannot be asked for: another one is. -/
def Draft.transportRefusal? (draft : Draft) (requested : Transport) : Option Diagnostic :=
  let current := draft.config.transport
  if current ≠ .console ∧ current ≠ requested then
    some (.conflictingTransport current requested)
  else none

theorem Draft.targetObjection?_eq_none_iff {draft : Draft} {token : String} :
    draft.targetObjection? token = none ↔ draft.hasScriptTarget = false := by
  simp [targetObjection?]

namespace Host

/-- Why an apartment cannot be asked for: there are none, or the other one is asked for. -/
def apartmentRefusal? (host : Host) (draft : Draft) (requested : Apartment) :
    Option Diagnostic :=
  if !host.platform.desktopApartments then
    some (match requested with
      | .sta => .staNotImplemented
      | .mta => .mtaNotImplemented)
  else if draft.config.apartment.any (· ≠ requested) then some .mtaStaMutuallyExclusive
  else none

def flagRefusal? (host : Host) (draft : Draft) (flag : Flag) : Option Diagnostic :=
  match flag.transport?, flag.apartment? with
  | some requested, _ => draft.transportRefusal? requested
  | none, some requested => host.apartmentRefusal? draft requested
  | none, none => none

/-- Why the value of a switch is refused, whatever came before it. -/
def valueRefusal? (host : Host) (value : String) : Parameter → Option Diagnostic
  | .customPipeName =>
    match host.platform.maxPipeNameLength with
    | some ceiling =>
      if ceiling < value.length then some (.customPipeNameTooLong ceiling value value.length)
      else none
    | none => none
  | .windowStyle =>
    match WindowStyle.parse? value with
    | some _ => none
    | none => some (.invalidWindowStyleArgument value (WindowStyle.refusal value))
  | .outputFormat | .inputFormat =>
    match DataFormat.ofName? value with
    | some _ => none
    | none => some (.badFormatParameterValue value)
  | .executionPolicy => if value = "" then some .missingExecutionPolicyParameter else none
  | .encodedCommand =>
    if value = "-" then some .badCommandValue
    else
      match Encoding.decodeCommand value with
      | .ok _ => none
      | .error _ => some .badCommandValue
  | .encodedArguments =>
    match Encoding.decodeArguments value with
    | .ok _ => none
    | .error _ => some .badArgsValue
  | .settingsFile =>
    if host.isFile (host.absolute value) then none
    else some (.settingsFileNotExists (host.absolute value))
  | .configurationName | .workingDirectory => none

def groupRefusal? (host : Host) (draft : Draft) : TokenGroup → Option Diagnostic
  | .alone _ flag => host.flagRefusal? draft flag
  | .withValue token parameter value =>
    (host.objection? draft token parameter).or (host.valueRefusal? value parameter)
  | .dash => draft.targetObjection? "-"
  | .fileDash token => draft.targetObjection? token

variable {host : Host} {draft : Draft} {diagnostic : Diagnostic}

/-! ### Requests that exclude each other -/

theorem flagRefusal?_of_transport? {flag : Flag} {requested : Transport}
    (asks : flag.transport? = some requested) :
    host.flagRefusal? draft flag = draft.transportRefusal? requested := by
  cases flag <;> cases asks <;> rfl

theorem flagRefusal?_of_apartment? {flag : Flag} {requested : Apartment}
    (asks : flag.apartment? = some requested) :
    host.flagRefusal? draft flag = host.apartmentRefusal? draft requested := by
  cases flag <;> cases asks <;> rfl

theorem serve_of_refusal {requested : Transport}
    (h : draft.transportRefusal? requested = some diagnostic) :
    draft.serve requested = draft.fail diagnostic := by
  simp only [Draft.transportRefusal?] at h
  split at h
  · rename_i conflict
    rw [Draft.serve, if_pos conflict, Option.some.inj h]
  · cases h

theorem serve_of_not_refused {requested : Transport}
    (h : draft.transportRefusal? requested = none) :
    draft.serve requested = draft.setTransport requested := by
  simp only [Draft.transportRefusal?] at h
  split at h
  · cases h
  · rename_i fits
    rw [Draft.serve, if_neg fits]

theorem chooseApartment_of_refusal {requested : Apartment}
    (h : host.apartmentRefusal? draft requested = some diagnostic) :
    host.chooseApartment draft requested = draft.fail diagnostic := by
  simp only [apartmentRefusal?] at h
  simp only [chooseApartment]
  split at h
  · rename_i unsupported
    obtain rfl := Option.some.inj h
    exact if_pos unsupported
  · rename_i supported
    rw [if_neg supported]
    split at h
    · rename_i conflict
      rw [if_pos conflict, Option.some.inj h]
    · cases h

theorem chooseApartment_of_not_refused {requested : Apartment}
    (h : host.apartmentRefusal? draft requested = none) :
    host.chooseApartment draft requested = draft.setApartment requested := by
  simp only [apartmentRefusal?] at h
  simp only [chooseApartment]
  split at h
  · cases h
  · rename_i supported
    rw [if_neg supported]
    split at h
    · cases h
    · rename_i fits
      rw [if_neg fits]

/-! ### A refused group leaves the diagnostic and nothing else -/

theorem applyFlag_of_refusal {flag : Flag} (h : host.flagRefusal? draft flag = some diagnostic) :
    host.applyFlag draft flag = draft.fail diagnostic := by
  cases flag with
  | socketServerMode | namedPipeServerMode | sshServerMode | serverMode =>
      exact serve_of_refusal h
  | sta | mta => exact chooseApartment_of_refusal h
  | _ => simp [flagRefusal?, Flag.transport?, Flag.apartment?] at h

theorem applyParameter_of_refusal {value : String} {parameter : Parameter}
    (h : host.valueRefusal? value parameter = some diagnostic) :
    host.applyParameter draft value parameter = draft.fail diagnostic := by
  cases parameter with
  | configurationName | workingDirectory => simp [valueRefusal?] at h
  | customPipeName =>
      cases ceiling : host.platform.maxPipeNameLength with
      | none => simp [valueRefusal?, ceiling] at h
      | some most =>
          simp only [valueRefusal?, ceiling, Option.ite_none_right_eq_some] at h
          simp [applyParameter, takePipeName, ceiling, h.1, ← Option.some.inj h.2]
  | windowStyle =>
      cases style : WindowStyle.parse? value with
      | some => simp [valueRefusal?, style] at h
      | none =>
          simp only [valueRefusal?, style] at h
          simp [applyParameter, style, ← Option.some.inj h]
  | outputFormat | inputFormat =>
      cases format : DataFormat.ofName? value with
      | some => simp [valueRefusal?, format] at h
      | none =>
          simp only [valueRefusal?, format] at h
          simp [applyParameter, Draft.takeFormat, format, ← Option.some.inj h]
  | executionPolicy =>
      simp only [valueRefusal?, Option.ite_none_right_eq_some] at h
      simp [applyParameter, h.1, ← Option.some.inj h.2]
  | encodedCommand =>
      by_cases dash : value = "-"
      · simp only [valueRefusal?, dash, if_true] at h
        simp [applyParameter, dash, ← Option.some.inj h]
      · cases decoded : Encoding.decodeCommand value with
        | ok => simp [valueRefusal?, dash, decoded] at h
        | error =>
            simp only [valueRefusal?, if_neg dash, decoded] at h
            simp [applyParameter, dash, decoded, ← Option.some.inj h]
  | encodedArguments =>
      cases decoded : Encoding.decodeArguments value with
      | ok => simp [valueRefusal?, decoded] at h
      | error =>
          simp only [valueRefusal?, decoded] at h
          simp [applyParameter, decoded, ← Option.some.inj h]
  | settingsFile =>
      simp only [valueRefusal?, Option.ite_none_left_eq_some] at h
      simp [applyParameter, takeSettingsFile, h.1, ← Option.some.inj h.2]

theorem apply_of_refusal {group : TokenGroup}
    (h : host.groupRefusal? draft group = some diagnostic) :
    host.apply draft group = draft.fail diagnostic := by
  cases group with
  | alone token flag => exact applyFlag_of_refusal h
  | withValue token parameter value =>
      simp only [groupRefusal?] at h
      simp only [apply]
      cases objection : host.objection? draft token parameter with
      | some other =>
          rw [objection, Option.some_or] at h
          rw [Option.some.inj h]
      | none =>
          rw [objection, Option.none_or] at h
          exact applyParameter_of_refusal h
  | dash | fileDash =>
      simp only [groupRefusal?] at h
      simp only [apply, h]

/-! ### A refusal is raised before the draft has changed -/

theorem isLate_of_targetObjection? {token : String}
    (h : draft.targetObjection? token = some diagnostic) : diagnostic.isLate = false := by
  simp only [Draft.targetObjection?, Option.ite_none_right_eq_some, Option.some.injEq] at h
  rw [← h.2]
  rfl

theorem isLate_of_objection? {token : String} {parameter : Parameter}
    (h : host.objection? draft token parameter = some diagnostic) :
    diagnostic.isLate = false := by
  cases parameter with
  | encodedCommand => exact isLate_of_targetObjection? h
  | windowStyle =>
      simp only [objection?, Option.ite_none_left_eq_some, Option.some.injEq] at h
      rw [← h.2]
      rfl
  | _ => cases h

theorem isLate_of_valueRefusal? {value : String} {parameter : Parameter}
    (h : host.valueRefusal? value parameter = some diagnostic) :
    diagnostic.isLate = false := by
  cases parameter <;> simp only [valueRefusal?] at h <;> repeat' split at h
  all_goals cases h <;> rfl

theorem isLate_of_flagRefusal? {flag : Flag}
    (h : host.flagRefusal? draft flag = some diagnostic) : diagnostic.isLate = false := by
  simp only [flagRefusal?, Draft.transportRefusal?, apartmentRefusal?] at h
  repeat' split at h
  all_goals cases h <;> rfl

theorem isLate_of_groupRefusal? {group : TokenGroup}
    (h : host.groupRefusal? draft group = some diagnostic) : diagnostic.isLate = false := by
  cases group with
  | alone => exact isLate_of_flagRefusal? h
  | dash | fileDash => exact isLate_of_targetObjection? h
  | withValue token parameter value =>
      rcases Option.or_eq_some_iff.mp h with objection | ⟨-, refusal⟩
      · exact isLate_of_objection? objection
      · exact isLate_of_valueRefusal? refusal

theorem isLate_of_objectionAt? {token : String}
    (h : host.objectionAt? draft token = some diagnostic) : diagnostic.isLate = false := by
  simp only [objectionAt?] at h
  split at h
  · exact isLate_of_objection? h
  · exact isLate_of_targetObjection? h
  · exact isLate_of_targetObjection? h
  · exact isLate_of_targetObjection? h
  · cases h

theorem isLate_of_missing? {switch : Switch} (h : switch.missing? = some diagnostic) :
    diagnostic.isLate = false := by
  cases switch with
  | help | version | flag => cases h
  | command | file => cases h; rfl
  | parameter parameter => cases parameter <;> cases h <;> rfl

theorem isLate_of_refusal? {ending : Ending}
    (h : host.refusal? draft ending = some diagnostic) : diagnostic.isLate = false := by
  cases ending with
  | exhausted | help | version => cases h
  | commandDash | command | file | script => exact isLate_of_targetObjection? h
  | unfinished token switch =>
      rcases Option.or_eq_some_iff.mp h with objection | ⟨-, missing⟩
      · exact isLate_of_objectionAt? objection
      · exact isLate_of_missing? missing
  | crowded token next more =>
      rcases Option.or_eq_some_iff.mp h with objection | ⟨-, crowded⟩
      · exact isLate_of_targetObjection? objection
      · cases crowded; rfl

end Host

end ShellLaunch
