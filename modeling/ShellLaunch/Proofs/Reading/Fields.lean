import ShellLaunch.Proofs.Reading.Refusal

/-!
# The fields of a configuration, read off a reading

What a configuration says when nothing is refused, field by field. A field that several
groups can set has what the last of them says; the exceptions are spelled out in
`Reading.config`. Nothing here depends on the order in which groups of different kinds
stand, and nothing is changed along the way: every field looks at the whole reading.
-/

namespace ShellLaunch

namespace Draft

/-- Only the last character is taken off. -/
@[simp] theorem dropLastChar_push (text : String) (c : Char) :
    dropLastChar (text.push c) = text := by
  rw [dropLastChar, String.toList_push, List.dropLast_concat, String.ofList_toList]

@[simp] theorem dropLastChar_empty : dropLastChar "" = "" := rfl

end Draft

/-- What a switch says about asking the user. -/
def Flag.nonInteractive? : Flag → Option Bool
  | .nonInteractive => some true
  | .interactive => some false
  | _ => none

namespace TokenGroup

def flag? : TokenGroup → Option Flag
  | .alone _ flag => some flag
  | _ => none

/-- The value that a group gives for a parameter. -/
def valueOf? (parameter : Parameter) : TokenGroup → Option String
  | .withValue _ given value => if given = parameter then some value else none
  | _ => none

def readsStdin : TokenGroup → Bool
  | .dash | .fileDash _ => true
  | _ => false

def isSource : TokenGroup → Bool
  | .withValue _ .encodedCommand _ | .dash | .fileDash _ => true
  | _ => false

theorem readsStdin_of_not_isSource {group : TokenGroup} (h : group.isSource = false) :
    group.readsStdin = false := by
  cases group with
  | alone | withValue => rfl
  | dash | fileDash => cases h

theorem valueOf?_of_not_isSource {group : TokenGroup} (h : group.isSource = false) :
    group.valueOf? .encodedCommand = none := by
  cases group with
  | alone | dash | fileDash => rfl
  | withValue token parameter value =>
      cases parameter with
      | encodedCommand => cases h
      | _ => rfl

end TokenGroup

namespace Ending

def showsHelp : Ending → Bool
  | help .. => true
  | _ => false

def showsVersion : Ending → Bool
  | version .. => true
  | _ => false

def readsStdin : Ending → Bool
  | commandDash _ => true
  | _ => false

def isSource : Ending → Bool
  | commandDash _ | command .. | file .. | script .. => true
  | _ => false

/-- What the ending has the host run. -/
def target? (host : Host) : Ending → Option ScriptTarget
  | command _ text _ => some (.command text false)
  | file _ path _ | script path _ => some (.file (host.absolute path))
  | _ => none

/-- The arguments that the ending passes on. A script file takes some of them as names
of parameters, a command takes all of them as values. -/
def args : Ending → List TrailingArg
  | command _ _ args => args.map TrailingArg.ofValue
  | file _ _ args | script _ args => args.map TrailingArg.ofFileToken
  | _ => []

theorem readsStdin_of_not_isSource {ending : Ending} (h : ending.isSource = false) :
    ending.readsStdin = false := by
  cases ending with
  | commandDash => cases h
  | _ => rfl

theorem target?_of_not_isSource {host : Host} {ending : Ending} (h : ending.isSource = false) :
    ending.target? host = none := by
  cases ending with
  | command | file | script => cases h
  | _ => rfl

theorem target?_of_readsStdin {host : Host} {ending : Ending} (h : ending.readsStdin = true) :
    ending.target? host = none := by
  cases ending with
  | commandDash => rfl
  | _ => cases h

theorem showsHelp_or_showsVersion (ending : Ending) :
    ending.showsHelp = false ∨ ending.showsVersion = false := by
  cases ending with
  | help => exact .inr rfl
  | _ => exact .inl rfl

end Ending

namespace Reading

def flags (reading : Reading) : List Flag :=
  reading.groups.filterMap TokenGroup.flag?

/-- A switch without a value is given, once or more often. -/
def has (reading : Reading) (flag : Flag) : Bool :=
  reading.flags.contains flag

/-- The values given for a parameter, in order. -/
def values (reading : Reading) (parameter : Parameter) : List String :=
  reading.groups.filterMap (TokenGroup.valueOf? parameter)

def lastValue? (reading : Reading) (parameter : Parameter) : Option String :=
  (reading.values parameter).getLast?

/-- The server transports that are asked for, in order. -/
def transports (reading : Reading) : List Transport :=
  reading.flags.filterMap Flag.transport?

def transport (reading : Reading) : Transport :=
  reading.transports.getLast?.getD .console

/-- The apartments that are asked for, in order. -/
def apartments (reading : Reading) : List Apartment :=
  reading.flags.filterMap Flag.apartment?

def apartment? (reading : Reading) : Option Apartment :=
  reading.apartments.getLast?

/-- What is said last about asking the user. -/
def nonInteractive? (reading : Reading) : Option Bool :=
  (reading.flags.filterMap Flag.nonInteractive?).getLast?

/-- How many groups say what the host runs, the ending included. -/
def sources (reading : Reading) : Nat :=
  reading.groups.countP TokenGroup.isSource + (if reading.ending.isSource then 1 else 0)

def readsStdin (reading : Reading) : Bool :=
  reading.groups.any TokenGroup.readsStdin || reading.ending.readsStdin

def decodedTarget (value : String) : ScriptTarget :=
  match Encoding.decodeCommand value with
  | .ok text => .command text true
  | .error _ => .none

def target (host : Host) (reading : Reading) : ScriptTarget :=
  (reading.ending.target? host).getD
    (((reading.lastValue? .encodedCommand).map decodedTarget).getD .none)

def decodedArgs (value : String) : List TrailingArg :=
  match Encoding.decodeArguments value with
  | .ok args => args.map TrailingArg.ofValue
  | .error _ => []

/-- The arguments that are passed on: encoded ones first, then those at the end. -/
def args (reading : Reading) : List TrailingArg :=
  (reading.values .encodedArguments).flatMap decodedArgs ++ reading.ending.args

/-- The configuration that a reading asks for. -/
def config (host : Host) (reading : Reading) : LaunchConfig where
  abortStartup := reading.ending.showsHelp
  noExit := !reading.ending.showsVersion &&
    (reading.target host == .none || reading.has .noExit)
  nonInteractive := reading.ending.showsVersion || reading.nonInteractive? == some true
  noPrompt := reading.ending.readsStdin
  showBanner := !(reading.has .noLogo || reading.target host != .none || reading.readsStdin ||
    reading.ending.showsHelp || reading.ending.showsVersion)
  showShortHelp := reading.ending.showsHelp
  showExtendedHelp := reading.ending.showsHelp
  showVersion := reading.ending.showsVersion
  skipProfiles := reading.ending.showsVersion || reading.has .noProfile
  apartment := reading.apartment?
  throwOnReadAndPrompt := reading.has .nonInteractive
  transport := reading.transport
  scriptTarget := reading.target host
  explicitStdinRead := reading.readsStdin
  trailingArgs := reading.args
  configurationName := reading.lastValue? .configurationName
  customPipeName := reading.lastValue? .customPipeName
  executionPolicy := reading.lastValue? .executionPolicy
  settingsFile := reading.lastValue? .settingsFile
  workingDirectory :=
    if reading.has .removeWorkingDirectoryTrailingCharacter then
      (reading.lastValue? .workingDirectory).map Draft.dropLastChar
    else reading.lastValue? .workingDirectory
  removeWorkingDirectoryTrailingCharacter :=
    reading.has .removeWorkingDirectoryTrailingCharacter
  windowStyle := (reading.lastValue? .windowStyle).bind WindowStyle.parse?
  inputFormat := ((reading.lastValue? .inputFormat).bind DataFormat.ofName?).getD .text
  outputFormat := ((reading.lastValue? .outputFormat).bind DataFormat.ofName?).getD .text
  outputFormatExplicit := (reading.lastValue? .outputFormat).isSome
  exitCode := .success
  error := none

/-- The draft of that configuration, in which the working directory is still as it was
written. -/
def draft (host : Host) (reading : Reading) : Draft where
  config := { reading.config host with workingDirectory := reading.lastValue? .workingDirectory }
  noExitSeen := reading.has .noExit

variable {host : Host} {reading : Reading}

@[simp] theorem draft_failed : (reading.draft host).failed = false := rfl

theorem edit_draft (reading : Reading) (change : LaunchConfig → LaunchConfig) :
    (reading.draft host).edit change =
      ⟨change (reading.draft host).config, reading.has .noExit⟩ := rfl

theorem freeze_draft : (reading.draft host).freeze = reading.config host := by
  simp [draft, config, Draft.freeze]

/-- A diagnostic leaves every field as it is but those that say that there is one. The
working directory then stays as it was written. -/
theorem freeze_fail_draft (diagnostic : Diagnostic) :
    ((reading.draft host).fail diagnostic).freeze =
      { reading.config host with
        abortStartup := true
        showBanner := false
        showShortHelp := reading.ending.showsHelp || diagnostic.showsShortHelp
        workingDirectory := reading.lastValue? .workingDirectory
        exitCode := .badCommandLineParameter
        error := some diagnostic } := rfl

theorem mem_values_of_lastValue? {parameter : Parameter} {value : String}
    (h : reading.lastValue? parameter = some value) : value ∈ reading.values parameter :=
  List.mem_of_getLast? h

/-- The user is asked nothing only where a switch says so. -/
theorem has_of_nonInteractive? (h : reading.nonInteractive? = some true) :
    reading.has .nonInteractive = true := by
  obtain ⟨flag, member, asks⟩ := List.mem_filterMap.mp (List.mem_of_getLast? h)
  cases flag with
  | nonInteractive => exact List.contains_iff_mem.mpr member
  | _ => cases asks

/-! ### One more group -/

def upTo (groups : List TokenGroup) : Reading :=
  ⟨groups, .exhausted⟩

def add (reading : Reading) (group : TokenGroup) : Reading :=
  { reading with groups := reading.groups ++ [group] }

theorem upTo_concat (groups : List TokenGroup) (group : TokenGroup) :
    upTo (groups ++ [group]) = (upTo groups).add group := rfl

@[simp] theorem ending_add (reading : Reading) (group : TokenGroup) :
    (reading.add group).ending = reading.ending := rfl

theorem flags_add (reading : Reading) (group : TokenGroup) :
    (reading.add group).flags = reading.flags ++ group.flag?.toList := by
  simp only [flags, add, List.filterMap_append]
  cases group <;> rfl

theorem values_add (reading : Reading) (group : TokenGroup) (parameter : Parameter) :
    (reading.add group).values parameter =
      reading.values parameter ++ (group.valueOf? parameter).toList := by
  simp only [values, add, List.filterMap_append]
  cases given : group.valueOf? parameter <;> simp [given]

@[simp] theorem has_add (reading : Reading) (group : TokenGroup) (flag : Flag) :
    (reading.add group).has flag = (reading.has flag || decide (group.flag? = some flag)) := by
  rw [has, flags_add, has]
  cases group.flag? with
  | none => simp
  | some given => by_cases same : given = flag <;> simp [same, Ne.symm]

@[simp] theorem lastValue?_add (reading : Reading) (group : TokenGroup)
    (parameter : Parameter) :
    (reading.add group).lastValue? parameter =
      (group.valueOf? parameter).or (reading.lastValue? parameter) := by
  rw [lastValue?, values_add, List.getLast?_append]
  cases group.valueOf? parameter <;> rfl

/-- A group adds at most one request of a kind. -/
theorem requests_add {α : Type} (reading : Reading) (group : TokenGroup)
    (request? : Flag → Option α) :
    (reading.add group).flags.filterMap request? =
      reading.flags.filterMap request? ++ (group.flag?.bind request?).toList := by
  rw [flags_add, List.filterMap_append]
  cases group.flag? with
  | none => rfl
  | some flag => cases request : request? flag <;> simp [request]

/-- The last of several requests is the one of the group that was added, if it makes one. -/
theorem getLast?_requests_add {α : Type} (reading : Reading) (group : TokenGroup)
    (request? : Flag → Option α) :
    ((reading.add group).flags.filterMap request?).getLast? =
      (group.flag?.bind request?).or (reading.flags.filterMap request?).getLast? := by
  rw [requests_add, List.getLast?_append]
  cases group.flag?.bind request? <;> rfl

@[simp] theorem transport_add (reading : Reading) (group : TokenGroup) :
    (reading.add group).transport =
      (group.flag?.bind Flag.transport?).getD reading.transport := by
  rw [transport, transports, getLast?_requests_add]
  cases group.flag?.bind Flag.transport? <;> rfl

/-- No switch for a server asks for the console. -/
theorem ne_console_of_mem_transports {requested : Transport}
    (h : requested ∈ reading.transports) : requested ≠ .console := by
  obtain ⟨flag, -, asks⟩ := List.mem_filterMap.mp h
  cases flag <;> cases asks <;> decide

@[simp] theorem apartment?_add (reading : Reading) (group : TokenGroup) :
    (reading.add group).apartment? =
      (group.flag?.bind Flag.apartment?).or reading.apartment? :=
  getLast?_requests_add reading group Flag.apartment?

@[simp] theorem nonInteractive?_add (reading : Reading) (group : TokenGroup) :
    (reading.add group).nonInteractive? =
      (group.flag?.bind Flag.nonInteractive?).or reading.nonInteractive? :=
  getLast?_requests_add reading group Flag.nonInteractive?

/-- Only an encoded command changes what is run, before the ending is read. -/
theorem target_add (exhausted : reading.ending = .exhausted) (group : TokenGroup) :
    (reading.add group).target host =
      ((group.valueOf? .encodedCommand).map decodedTarget).getD (reading.target host) := by
  rw [target, target, lastValue?_add, ending_add, exhausted]
  cases group.valueOf? .encodedCommand <;> rfl

theorem args_add (exhausted : reading.ending = .exhausted) (group : TokenGroup) :
    (reading.add group).args =
      reading.args ++ ((group.valueOf? .encodedArguments).map decodedArgs).getD [] := by
  rw [args, args, values_add, ending_add, exhausted, List.flatMap_append]
  cases group.valueOf? .encodedArguments <;> simp [Ending.args]

@[simp] theorem readsStdin_add (reading : Reading) (group : TokenGroup) :
    (reading.add group).readsStdin = (reading.readsStdin || group.readsStdin) := by
  simp only [readsStdin, add, List.any_append, List.any_cons, List.any_nil, Bool.or_false]
  cases group.readsStdin <;> simp

end Reading

end ShellLaunch
