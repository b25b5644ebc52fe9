import ShellLaunch.Proofs.SingleSource

/-!
# What a diagnostic says is so

A diagnostic is raised at one place of the command line, after tokens that are in order. What
it says can be checked against that place, the host and the configuration in which it is found:
the text that it quotes was written there, a value that is missing is not there, a conflict is
with something that came before, and what the host is said not to have it does not have.
-/

namespace ShellLaunch

open Reading (upTo)

/-- A place of a command line where a group begins. -/
structure Place where
  before : List String
  token : String
  rest : List String

namespace Place

def args (place : Place) : List String :=
  place.before ++ place.token :: place.rest

/-- The token spells a switch. -/
def Spells (platform : Platform) (place : Place) (switch : Switch) : Prop :=
  Switch.lookup? platform place.token = some switch

/-- The token spells a switch whose value is missing. -/
def Lacks (platform : Platform) (place : Place) (switch : Switch) : Prop :=
  place.Spells platform switch ∧ place.rest = []

/-- The token spells a switch with a value. -/
def Gives (platform : Platform) (place : Place) (parameter : Parameter) (value : String) : Prop :=
  place.Spells platform (.parameter parameter) ∧ place.rest.head? = some value

/-- The token is a switch that makes a request. -/
def Asks {α : Type} (platform : Platform) (place : Place) (request? : Flag → Option α)
    (requested : α) : Prop :=
  ∃ flag, place.Spells platform (.flag flag) ∧ request? flag = some requested

/-- A token in front of the place is a switch that makes a request. -/
def Asked {α : Type} (platform : Platform) (place : Place) (request? : Flag → Option α)
    (requested : α) : Prop :=
  ∃ earlier ∈ place.before, ∃ flag,
    Switch.lookup? platform earlier = some (.flag flag) ∧ request? flag = some requested

end Place

/-- Nothing says yet what the host runs. -/
def LaunchConfig.Unsettled (config : LaunchConfig) : Prop :=
  config.scriptTarget = .none ∧ config.explicitStdinRead = false

/-- The script file of a configuration is the one at a path, and does not exist. -/
def Host.MissesScript (host : Host) (config : LaunchConfig) (path : String) : Prop :=
  config.file? = some (host.absolute path) ∧ host.isFile (host.absolute path) = false

namespace Diagnostic

/-- What a diagnostic quotes from the command line. -/
def quoted? : Diagnostic → Option String
  | argumentFileDoesNotExist text _ | unrecognizedSwitch text _ | conflictingScriptTarget text
  | customPipeNameTooLong _ text _ | invalidWindowStyleArgument text _
  | badFormatParameterValue text => some text
  | _ => none

/-- What a diagnostic says is so, where it is raised at a place of the command line and found in
a configuration. -/
def Holds (host : Host) (config : LaunchConfig) (place : Place) : Diagnostic → Prop
  | argumentFileDoesNotExist path resolved =>
    ((Switch.key? host.platform path = none ∧ place.token = path) ∨
        (place.Spells host.platform .file ∧ place.rest.head? = some path)) ∧
      resolved = host.absolute path ∧ host.MissesScript config path
  | unrecognizedSwitch token suggestions =>
    place.token = token ∧ (Switch.key? host.platform token).isSome = true ∧
      Switch.lookup? host.platform token = none ∧ host.MissesScript config token ∧
      suggestions = Switch.suggestions host.platform token
  | conflictingScriptTarget token =>
    place.token = token ∧ Switch.selectsSource (Switch.lookup? host.platform token) = true ∧
      (config.scriptTarget ≠ .none ∨ config.explicitStdinRead = true)
  | conflictingTransport current requested =>
    place.Asks host.platform Flag.transport? requested ∧
      place.Asked host.platform Flag.transport? current ∧ current ≠ requested ∧
      current ≠ .console ∧ requested ≠ .console ∧ config.transport = current
  | customPipeNameTooLong maxLength name length =>
    place.Gives host.platform .customPipeName name ∧
      host.platform.maxPipeNameLength = some maxLength ∧ length = name.length ∧
      maxLength < length
  | windowStyleArgumentNotImplemented =>
    place.Spells host.platform (.parameter .windowStyle) ∧ host.platform.isWindows = false
  | missingWindowStyleArgument =>
    place.Lacks host.platform (.parameter .windowStyle) ∧ host.platform.isWindows = true
  | invalidWindowStyleArgument value reason =>
    place.Gives host.platform .windowStyle value ∧ host.platform.isWindows = true ∧
      WindowStyle.parse? value = none ∧ reason = WindowStyle.refusal value
  | badFormatParameterValue value =>
    (place.Gives host.platform .outputFormat value ∨
        place.Gives host.platform .inputFormat value) ∧
      DataFormat.ofName? value = none
  | missingExecutionPolicyParameter =>
    place.Lacks host.platform (.parameter .executionPolicy) ∨
      place.Gives host.platform .executionPolicy ""
  | missingCommandParameter =>
    (place.Lacks host.platform .command ∨
        place.Lacks host.platform (.parameter .encodedCommand)) ∧
      config.Unsettled
  | badCommandValue =>
    ∃ value fault, place.Gives host.platform .encodedCommand value ∧
      Encoding.decodeCommand value = .error fault ∧ config.Unsettled
  | stdinNotRedirected =>
    place.Spells host.platform .command ∧ place.rest = ["-"] ∧ host.isRedirected = false ∧
      config.scriptTarget = .none ∧ config.explicitStdinRead = true ∧ config.noPrompt = true
  | tooManyParametersToCommand =>
    place.Spells host.platform .command ∧ (∃ next more, place.rest = "-" :: next :: more) ∧
      config.Unsettled
  | badArgsValue =>
    ∃ value fault, place.Gives host.platform .encodedArguments value ∧
      Encoding.decodeArguments value = .error fault
  | settingsFileNotExists path =>
    ∃ value, place.Gives host.platform .settingsFile value ∧ path = host.absolute value ∧
      host.isFile path = false
  | staNotImplemented =>
    place.Spells host.platform (.flag .sta) ∧ host.platform.desktopApartments = false
  | mtaNotImplemented =>
    place.Spells host.platform (.flag .mta) ∧ host.platform.desktopApartments = false
  | mtaStaMutuallyExclusive =>
    host.platform.desktopApartments = true ∧
      ∃ current requested, place.Asks host.platform Flag.apartment? requested ∧
        place.Asked host.platform Flag.apartment? current ∧ current ≠ requested ∧
        config.apartment = some current
  | missingFileArgument => place.Lacks host.platform .file ∧ config.Unsettled
  | missingConfigurationNameArgument =>
    place.Lacks host.platform (.parameter .configurationName)
  | missingCustomPipeNameArgument => place.Lacks host.platform (.parameter .customPipeName)
  | missingOutputFormatParameter => place.Lacks host.platform (.parameter .outputFormat)
  | missingInputFormatParameter => place.Lacks host.platform (.parameter .inputFormat)
  | missingArgsValue => place.Lacks host.platform (.parameter .encodedArguments)
  | missingSettingsFileArgument => place.Lacks host.platform (.parameter .settingsFile)
  | missingWorkingDirectoryArgument => place.Lacks host.platform (.parameter .workingDirectory)

variable {host : Host} {config : LaunchConfig} {place : Place} {diagnostic : Diagnostic}

/-- What is quoted was written at the place. -/
theorem Holds.mem_args (h : diagnostic.Holds host config place) {text : String}
    (quotes : diagnostic.quoted? = some text) : text ∈ place.args := by
  have given : ∀ {switch : Switch}, (place.Spells host.platform switch ∧
      place.rest.head? = some text) → text ∈ place.args := by
    intro switch given
    have member : text ∈ place.rest := List.mem_of_head? given.2
    simp [Place.args, member]
  have written : place.token = text → text ∈ place.args := by
    rintro rfl
    simp [Place.args]
  cases diagnostic <;> cases quotes
  case argumentFileDoesNotExist =>
    rcases h.1 with ⟨-, token⟩ | value
    · exact written token
    · exact given value
  case unrecognizedSwitch | conflictingScriptTarget => exact written h.1
  case customPipeNameTooLong | invalidWindowStyleArgument => exact given h.1
  case badFormatParameterValue =>
    rcases h.1 with value | value
    · exact given value
    · exact given value

/-- Recording the diagnostic and finishing the configuration leave what it speaks of. -/
theorem Holds.fail {reading : Reading} (other : Diagnostic)
    (h : diagnostic.Holds host (reading.config host) place) :
    diagnostic.Holds host ((reading.draft host).fail other).freeze place := by
  cases diagnostic <;> exact h

end Diagnostic

/-! ### Refusals -/

namespace Host

variable {host : Host} {reading : Reading} {groups : List TokenGroup} {diagnostic : Diagnostic}
variable {before rest : List String} {token : String}

theorem unsettled_iff :
    (reading.config host).Unsettled ↔ (reading.draft host).hasScriptTarget = false :=
  Reading.hasScriptTarget_eq_false_iff.symm

theorem unsettled_of_targetObjection?
    (unobjected : (reading.draft host).targetObjection? token = none) :
    (reading.config host).Unsettled :=
  unsettled_iff.mpr (Draft.targetObjection?_eq_none_iff.mp unobjected)

theorem holds_of_targetObjection?
    (selects : Switch.selectsSource (Switch.lookup? host.platform token) = true)
    (h : (reading.draft host).targetObjection? token = some diagnostic) :
    diagnostic.Holds host (reading.config host) ⟨before, token, rest⟩ := by
  simp only [Draft.targetObjection?, Option.ite_none_right_eq_some, Option.some.injEq] at h
  obtain ⟨settled, rfl⟩ := h
  rw [Draft.hasScriptTarget, Bool.or_eq_true_iff, bne_iff_ne] at settled
  exact ⟨rfl, selects, settled⟩

theorem holds_of_objection? {parameter : Parameter}
    (spelled : Switch.lookup? host.platform token = some (.parameter parameter))
    (h : host.objection? (reading.draft host) token parameter = some diagnostic) :
    diagnostic.Holds host (reading.config host) ⟨before, token, rest⟩ := by
  cases parameter with
  | encodedCommand => exact holds_of_targetObjection? (by rw [spelled]; rfl) h
  | windowStyle =>
      simp only [objection?, Option.ite_none_left_eq_some, Option.some.injEq,
        Bool.not_eq_true] at h
      obtain ⟨noWindows, rfl⟩ := h
      exact ⟨spelled, noWindows⟩
  | _ => cases h

theorem holds_of_objectionAt?
    (h : host.objectionAt? (reading.draft host) token = some diagnostic) :
    diagnostic.Holds host (reading.config host) ⟨before, token, rest⟩ := by
  unfold objectionAt? at h
  cases spelled : Switch.lookup? host.platform token with
  | none =>
      rw [spelled] at h
      exact holds_of_targetObjection? (by rw [spelled]; rfl) h
  | some switch =>
      rw [spelled] at h
      cases switch with
      | help | version | flag => cases h
      | parameter => exact holds_of_objection? spelled h
      | command | file => exact holds_of_targetObjection? (by rw [spelled]; rfl) h

/-- A value is refused for what it is. -/
theorem holds_of_valueRefusal? {parameter : Parameter} {value : String}
    (spelled : Switch.lookup? host.platform token = some (.parameter parameter))
    (unobjected : host.objection? (reading.draft host) token parameter = none)
    (h : host.valueRefusal? value parameter = some diagnostic) :
    diagnostic.Holds host (reading.config host) ⟨before, token, value :: rest⟩ := by
  cases parameter with
  | configurationName | workingDirectory => cases h
  | customPipeName =>
      cases ceiling : host.platform.maxPipeNameLength with
      | none => simp [valueRefusal?, ceiling] at h
      | some most =>
          simp only [valueRefusal?, ceiling, Option.ite_none_right_eq_some,
            Option.some.injEq] at h
          obtain ⟨long, rfl⟩ := h
          exact ⟨⟨spelled, rfl⟩, ceiling, rfl, long⟩
  | windowStyle =>
      have windows : host.platform.isWindows = true := by simpa [objection?] using unobjected
      cases style : WindowStyle.parse? value with
      | some => simp [valueRefusal?, style] at h
      | none =>
          simp only [valueRefusal?, style, Option.some.injEq] at h
          subst h
          exact ⟨⟨spelled, rfl⟩, windows, style, rfl⟩
  | outputFormat | inputFormat =>
      cases format : DataFormat.ofName? value with
      | some => simp [valueRefusal?, format] at h
      | none =>
          simp only [valueRefusal?, format, Option.some.injEq] at h
          subst h
          refine ⟨?_, format⟩
          simp [Place.Gives, Place.Spells, spelled]
  | executionPolicy =>
      simp only [valueRefusal?, Option.ite_none_right_eq_some, Option.some.injEq] at h
      obtain ⟨rfl, rfl⟩ := h
      exact .inr ⟨spelled, rfl⟩
  | encodedCommand =>
      have unsettled := unsettled_of_targetObjection? unobjected
      -- `-` is no base64 either.
      have dash : Encoding.decodeCommand "-" = .error (.base64 (.symbol 45 0)) := rfl
      cases decoded : Encoding.decodeCommand value with
      | ok =>
          have other : value ≠ "-" := by
            rintro rfl
            rw [dash] at decoded
            cases decoded
          simp [valueRefusal?, other, decoded] at h
      | error fault =>
          simp only [valueRefusal?, decoded, ite_self, Option.some.injEq] at h
          subst h
          exact ⟨value, fault, ⟨spelled, rfl⟩, decoded, unsettled⟩
  | encodedArguments =>
      cases decoded : Encoding.decodeArguments value with
      | ok => simp [valueRefusal?, decoded] at h
      | error fault =>
          simp only [valueRefusal?, decoded, Option.some.injEq] at h
          subst h
          exact ⟨value, fault, ⟨spelled, rfl⟩, decoded⟩
  | settingsFile =>
      simp only [valueRefusal?, Option.ite_none_left_eq_some, Option.some.injEq,
        Bool.not_eq_true] at h
      obtain ⟨missing, rfl⟩ := h
      exact ⟨value, ⟨spelled, rfl⟩, rfl, missing⟩

/-- A value is missing where the command line ends before it. -/
theorem holds_of_missing? {switch : Switch}
    (spelled : Switch.lookup? host.platform token = some switch)
    (unobjected : host.objectionAt? (reading.draft host) token = none)
    (h : switch.missing? = some diagnostic) :
    diagnostic.Holds host (reading.config host) ⟨before, token, []⟩ := by
  have lacks : (Place.mk before token []).Lacks host.platform switch := ⟨spelled, rfl⟩
  simp only [objectionAt?, spelled] at unobjected
  cases switch with
  | help | version | flag => cases h
  | command =>
      cases h
      exact ⟨.inl lacks, unsettled_of_targetObjection? unobjected⟩
  | file =>
      cases h
      exact ⟨lacks, unsettled_of_targetObjection? unobjected⟩
  | parameter parameter =>
      cases parameter with
      | encodedCommand =>
          cases h
          exact ⟨.inr lacks, unsettled_of_targetObjection? unobjected⟩
      | windowStyle =>
          cases h
          exact ⟨lacks, by simpa [objection?] using unobjected⟩
      | executionPolicy =>
          cases h
          exact .inl lacks
      | _ =>
          cases h
          exact lacks

/-- A request that was made stands in front of the place. -/
theorem asked_of_mem {α : Type} {request? : Flag → Option α} {requested : α}
    (spelled : ∀ group ∈ groups, group.Spelled host.platform)
    (member : requested ∈ (upTo groups).flags.filterMap request?) :
    (Place.mk (TokenGroup.tokensOf groups) token rest).Asked host.platform request? requested := by
  obtain ⟨flag, member, asks⟩ := List.mem_filterMap.mp member
  obtain ⟨group, member, given⟩ := List.mem_filterMap.mp member
  cases group with
  | withValue | dash | fileDash => cases given
  | alone earlier =>
      cases given
      refine ⟨earlier, ?_, flag, spelled _ member, asks⟩
      exact List.mem_flatMap.mpr ⟨_, member, List.mem_singleton.mpr rfl⟩

theorem holds_of_transportRefusal? {flag : Flag} {requested : Transport}
    (spelled : ∀ group ∈ groups, group.Spelled host.platform)
    (spells : Switch.lookup? host.platform token = some (.flag flag))
    (asks : flag.transport? = some requested)
    (h : ((upTo groups).draft host).transportRefusal? requested = some diagnostic) :
    diagnostic.Holds host ((upTo groups).config host)
      ⟨TokenGroup.tokensOf groups, token, rest⟩ := by
  simp only [Draft.transportRefusal?, Option.ite_none_right_eq_some, Option.some.injEq] at h
  obtain ⟨⟨served, other⟩, rfl⟩ := h
  have current_eq : ((upTo groups).draft host).config.transport =
      (upTo groups).transports.getLast?.getD .console := rfl
  rw [current_eq] at served other ⊢
  cases last : (upTo groups).transports.getLast? with
  | none =>
      rw [last] at served
      exact absurd rfl served
  | some current =>
      rw [last] at served other
      have asked := List.mem_of_getLast? last
      refine ⟨⟨flag, spells, asks⟩, asked_of_mem spelled asked, other, served, ?_, ?_⟩
      · cases flag <;> cases asks <;> decide
      · exact congrArg (Option.getD · .console) last

theorem holds_of_apartmentRefusal? {flag : Flag} {requested : Apartment}
    (spelled : ∀ group ∈ groups, group.Spelled host.platform)
    (spells : Switch.lookup? host.platform token = some (.flag flag))
    (asks : flag.apartment? = some requested)
    (h : host.apartmentRefusal? ((upTo groups).draft host) requested = some diagnostic) :
    diagnostic.Holds host ((upTo groups).config host)
      ⟨TokenGroup.tokensOf groups, token, rest⟩ := by
  cases supported : host.platform.desktopApartments with
  | false =>
      cases flag <;> cases asks <;> simp only [apartmentRefusal?, supported] at h <;> cases h
      · exact ⟨spells, supported⟩
      · exact ⟨spells, supported⟩
  | true =>
      simp only [apartmentRefusal?, supported, Bool.not_true, Bool.false_eq_true, if_false,
        Option.ite_none_right_eq_some, Option.some.injEq] at h
      obtain ⟨conflict, rfl⟩ := h
      obtain ⟨current, last, other⟩ := (Option.any_eq_true ..).mp conflict
      refine ⟨supported, current, requested, ⟨flag, spells, asks⟩, ?_, ?_, last⟩
      · exact asked_of_mem spelled (List.mem_of_getLast? last)
      · simpa using other

/-- A switch without a value is refused for a request that was made before, or for what the
platform lacks. -/
theorem holds_of_flagRefusal? {flag : Flag}
    (spelled : ∀ group ∈ groups, group.Spelled host.platform)
    (spells : Switch.lookup? host.platform token = some (.flag flag))
    (h : host.flagRefusal? ((upTo groups).draft host) flag = some diagnostic) :
    diagnostic.Holds host ((upTo groups).config host)
      ⟨TokenGroup.tokensOf groups, token, rest⟩ := by
  cases serves : flag.transport? with
  | some requested =>
      rw [flagRefusal?_of_transport? serves] at h
      exact holds_of_transportRefusal? spelled spells serves h
  | none =>
      cases chooses : flag.apartment? with
      | some requested =>
          rw [flagRefusal?_of_apartment? chooses] at h
          exact holds_of_apartmentRefusal? spelled spells chooses h
      | none => simp [flagRefusal?, serves, chooses] at h

theorem holds_of_groupRefusal? {group : TokenGroup} {behind : List String}
    (spelled : ∀ group ∈ groups, group.Spelled host.platform)
    (spells : group.Spelled host.platform) (tokens : group.tokens = token :: behind)
    (h : host.groupRefusal? ((upTo groups).draft host) group = some diagnostic) :
    diagnostic.Holds host ((upTo groups).config host)
      ⟨TokenGroup.tokensOf groups, token, behind ++ rest⟩ := by
  cases group with
  | alone =>
      obtain ⟨rfl, rfl⟩ := List.cons.inj tokens
      exact holds_of_flagRefusal? spelled spells h
  | dash =>
      obtain ⟨rfl, rfl⟩ := List.cons.inj tokens
      exact holds_of_targetObjection? rfl h
  | fileDash =>
      obtain ⟨rfl, rfl⟩ := List.cons.inj tokens
      exact holds_of_targetObjection? (congrArg Switch.selectsSource spells) h
  | withValue token parameter value =>
      obtain ⟨rfl, rfl⟩ := List.cons.inj tokens
      rcases Option.or_eq_some_iff.mp h with objection | ⟨unobjected, refusal⟩
      · exact holds_of_objection? spells objection
      · exact holds_of_valueRefusal? spells unobjected refusal

theorem holds_of_refusal? {ending : Ending} (spells : ending.Spelled host.platform)
    (tokens : ending.tokens = token :: rest)
    (h : host.refusal? (reading.draft host) ending = some diagnostic) :
    diagnostic.Holds host (reading.config host) ⟨before, token, rest⟩ := by
  cases ending with
  | exhausted | help | version => cases h
  | commandDash =>
      obtain ⟨rfl, rfl⟩ := List.cons.inj tokens
      exact holds_of_targetObjection? (congrArg Switch.selectsSource spells) h
  | command | file | script =>
      obtain ⟨rfl, rfl⟩ := List.cons.inj tokens
      exact holds_of_targetObjection? (congrArg Switch.selectsSource spells.1) h
  | unfinished =>
      obtain ⟨rfl, rfl⟩ := List.cons.inj tokens
      rcases Option.or_eq_some_iff.mp h with objection | ⟨unobjected, missing⟩
      · exact holds_of_objectionAt? objection
      · exact holds_of_missing? spells.1 unobjected missing
  | crowded token next more =>
      obtain ⟨rfl, rfl⟩ := List.cons.inj tokens
      rcases Option.or_eq_some_iff.mp h with objection | ⟨unobjected, crowded⟩
      · exact holds_of_targetObjection? (congrArg Switch.selectsSource spells) objection
      · cases crowded
        exact ⟨spells, ⟨next, more, rfl⟩, unsettled_of_targetObjection? unobjected⟩

/-- What fails late is found in the configuration of the ending. -/
theorem holds_of_lateRefusal? (admitted : host.Admits reading)
    (tokens : reading.ending.tokens = token :: rest)
    (late : host.lateRefusal? reading.ending = some diagnostic) :
    diagnostic.Holds host ((Reading.mk reading.groups reading.ending.bare).config host)
      ⟨before, token, rest⟩ := by
  obtain ⟨groups, ending⟩ := reading
  have spells := admitted.spelled
  cases ending with
  | commandDash =>
      obtain ⟨rfl, rfl⟩ := List.cons.inj tokens
      simp only [lateRefusal?, Option.ite_none_left_eq_some, Option.some.injEq,
        Bool.not_eq_true] at late
      obtain ⟨terminal, rfl⟩ := late
      obtain ⟨noTarget, -⟩ := unsettled_of_targetObjection? admitted.ending
      exact ⟨spells, rfl, terminal, noTarget, Bool.or_true _, rfl⟩
  | file token path args =>
      obtain ⟨rfl, rfl⟩ := List.cons.inj tokens
      simp only [lateRefusal?, Option.ite_none_left_eq_some, Option.some.injEq,
        Bool.not_eq_true] at late
      obtain ⟨missing, rfl⟩ := late
      exact ⟨.inr ⟨spells.1, rfl⟩, rfl, rfl, missing⟩
  | script path args =>
      obtain ⟨rfl, rfl⟩ := List.cons.inj tokens
      simp only [lateRefusal?, Option.ite_none_left_eq_some, Option.some.injEq,
        Bool.not_eq_true] at late
      obtain ⟨missing, rfl⟩ := late
      cases key : Switch.key? host.platform path with
      | none =>
          simp only [unknownToken, key]
          exact ⟨.inl ⟨key, rfl⟩, rfl, rfl, missing⟩
      | some =>
          simp only [unknownToken, key]
          exact ⟨rfl, by rw [key]; rfl, spells.1, ⟨rfl, missing⟩, rfl⟩
  | _ => cases late

/-! ### Resolutions -/

variable {args : List String}

/-- A run that fails behind some groups fails at the place behind them. -/
theorem exists_place_of_fail {raised : Diagnostic}
    (h : (host.resolve args).error = some diagnostic) (accepted : host.Accepts groups)
    (tokens : TokenGroup.tokensOf groups ++ token :: rest = args)
    (failed : host.run .initial args = (reading.draft host).fail raised)
    (holds : raised.Holds host (reading.config host)
      ⟨TokenGroup.tokensOf groups, token, rest⟩) :
    ∃ place : Place, place.args = args ∧ (host.resolve place.before).Open ∧
      diagnostic.Holds host (host.resolve args) place := by
  rw [resolve, failed, Draft.error_freeze, Draft.error_fail Reading.draft_failed] at h
  cases h
  refine ⟨⟨TokenGroup.tokensOf groups, token, rest⟩, tokens, ?_, ?_⟩
  · rw [accepted.resolve_eq]
    exact open_upTo host groups
  · rw [resolve, failed]
    exact holds.fail _

/-- Groups that are all accepted leave the failure to the ending. -/
theorem exists_place_of_ending (splits : reading.Splits host.platform args)
    (accepted : host.Accepts reading.groups) (h : (host.resolve args).error = some diagnostic) :
    ∃ place : Place, place.args = args ∧ (host.resolve place.before).Open ∧
      diagnostic.Holds host (host.resolve args) place := by
  have unexhausted : reading.ending ≠ .exhausted := by
    intro exhausted
    rw [← splits.tokens_eq, Reading.tokens, exhausted, Ending.tokens, List.append_nil,
      accepted.resolve_eq] at h
    cases h
  obtain ⟨token, rest, tokens⟩ := Ending.exists_tokens unexhausted
  have args_eq : TokenGroup.tokensOf reading.groups ++ token :: rest = args := by
    rw [← tokens]
    exact splits.tokens_eq
  cases refusal : host.refusal? ((upTo reading.groups).draft host) reading.ending with
  | some raised =>
      exact exists_place_of_fail h accepted args_eq (run_of_refusal? splits accepted refusal)
        (holds_of_refusal? splits.ending tokens refusal)
  | none =>
      have admitted : host.Admits reading := ⟨accepted, splits.ending, refusal⟩
      have ran := run_of_admits splits admitted
      cases late : host.lateRefusal? reading.ending with
      | none =>
          simp only [resolve, ran, late, Reading.freeze_draft] at h
          cases h
      | some raised =>
          simp only [late] at ran
          exact exists_place_of_fail h accepted args_eq ran
            (holds_of_lateRefusal? admitted tokens late)

theorem exists_place (h : (host.resolve args).error = some diagnostic) :
    ∃ place : Place, place.args = args ∧ (host.resolve place.before).Open ∧
      diagnostic.Holds host (host.resolve args) place := by
  have splits := Reading.splits_ofArgs host.platform args
  generalize Reading.ofArgs host.platform args = reading at splits
  rcases accepts_or_refused splits.groups with
    accepted | ⟨before, group, after, raised, groups_eq, accepted, refused⟩
  · exact exists_place_of_ending splits accepted h
  · have spells : group.Spelled host.platform := splits.groups group (by simp [groups_eq])
    obtain ⟨token, behind, tokens⟩ := group.exists_tokens
    have args_eq := (Reading.tokens_of_groups groups_eq).symm.trans splits.tokens_eq
    have failed := run_of_groupRefusal? splits groups_eq accepted refused []
    rw [tokens, List.cons_append] at args_eq
    rw [List.append_nil] at failed
    exact exists_place_of_fail h accepted args_eq failed
      (holds_of_groupRefusal? accepted.spelled spells tokens refused)

/-- A resolution that fails has a place at which it does, after tokens that are in order, and
what its diagnostic says there is so. What it quotes was written on the command line. -/
theorem error_holds (h : (host.resolve args).error = some diagnostic) :
    (∀ text, diagnostic.quoted? = some text → text ∈ args) ∧
      ∃ place : Place, place.args = args ∧ (host.resolve place.before).Open ∧
        diagnostic.Holds host (host.resolve args) place := by
  obtain ⟨place, args_eq, before, holds⟩ := exists_place h
  refine ⟨?_, place, args_eq, before, holds⟩
  intro text quotes
  rw [← args_eq]
  exact holds.mem_args quotes

/-- A token that looks like a switch and is none, behind a value that looks like a switch. -/
theorem error_holds_sample :
    (sample.resolve ["-noexit", "-wd", "-c", "-prof", "x"]).error =
        some (.unrecognizedSwitch "-prof" ["noprofile"]) ∧
      "-prof" ∈ ["-noexit", "-wd", "-c", "-prof", "x"] ∧
      ∃ place : Place, place.args = ["-noexit", "-wd", "-c", "-prof", "x"] ∧
        (sample.resolve place.before).Open ∧
        (Diagnostic.unrecognizedSwitch "-prof" ["noprofile"]).Holds sample
          (sample.resolve ["-noexit", "-wd", "-c", "-prof", "x"]) place :=
  have failed : (sample.resolve ["-noexit", "-wd", "-c", "-prof", "x"]).error =
      some (.unrecognizedSwitch "-prof" ["noprofile"]) := by
    decide +kernel
  ⟨failed, (error_holds failed).1 "-prof" rfl, (error_holds failed).2⟩

end Host

end ShellLaunch
