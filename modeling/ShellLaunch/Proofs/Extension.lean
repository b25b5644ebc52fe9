import ShellLaunch.Proofs.Refinement

/-!
# Longer command lines

What becomes of a resolution when more tokens follow its command line. It can be settled
already, so that the tokens make no difference; a script file or a command takes them as
arguments; `-` in place of a command does not bear them; and otherwise they are read on
from the draft that the command line left.
-/

namespace ShellLaunch

open Reading (upTo)

/-- The diagnostic is one of those about a value that is missing, by its name. -/
def Diagnostic.isMissing (diagnostic : Diagnostic) : Bool :=
  "Missing".toList.isPrefixOf diagnostic.classification.toList

theorem Switch.isMissing_of_missing? {switch : Switch} {diagnostic : Diagnostic}
    (h : switch.missing? = some diagnostic) : diagnostic.isMissing = true := by
  cases switch with
  | help | version | flag => cases h
  | command | file => cases h; rfl
  | parameter parameter => cases parameter <;> cases h <;> rfl

theorem Diagnostic.ne_stdinNotRedirected {diagnostic : Diagnostic}
    (early : diagnostic.isLate = false) : diagnostic ≠ .stdinNotRedirected := by
  rintro rfl
  cases early

/-! ### Endings that take the rest -/

namespace Ending

/-- The ending takes whatever follows it. -/
def TakesRest : Ending → Prop
  | exhausted | commandDash _ | unfinished .. => False
  | _ => True

/-- The ending with more tokens at its end, if it takes them. -/
def extend (more : List String) : Ending → Ending
  | help token ignored => help token (ignored ++ more)
  | version token ignored => version token (ignored ++ more)
  | command token text args => command token text (args ++ more)
  | file token path args => file token path (args ++ more)
  | script path args => script path (args ++ more)
  | crowded token next rest => crowded token next (rest ++ more)
  | ending => ending

/-- The arguments that more tokens at the end stand for. -/
def passed (more : List String) : Ending → List TrailingArg
  | command .. => more.map TrailingArg.ofValue
  | file .. | script .. => more.map TrailingArg.ofFileToken
  | _ => []

variable {ending : Ending} {platform : Platform}

theorem tokens_extend (takes : ending.TakesRest) (more : List String) :
    (ending.extend more).tokens = ending.tokens ++ more := by
  cases ending with
  | exhausted | commandDash | unfinished => exact takes.elim
  | _ => rfl

theorem not_takesRest_of_readsStdin (reads : ending.readsStdin = true) : ¬ ending.TakesRest := by
  cases ending with
  | commandDash => exact id
  | _ => cases reads

theorem spelled_extend (spelled : ending.Spelled platform) (more : List String) :
    (ending.extend more).Spelled platform := by
  cases ending <;> exact spelled

@[simp] theorem bare_extend (ending : Ending) (more : List String) :
    (ending.extend more).bare = ending.bare := by
  cases ending <;> rfl

end Ending

namespace Reading

/-- The reading with more tokens at its end, if its ending takes them. -/
def extend (reading : Reading) (more : List String) : Reading :=
  { reading with ending := reading.ending.extend more }

theorem Splits.extend {reading : Reading} {platform : Platform} {args : List String}
    (splits : reading.Splits platform args) (takes : reading.ending.TakesRest)
    (more : List String) : (reading.extend more).Splits platform (args ++ more) where
  tokens_eq := by
    rw [tokens, Reading.extend, Ending.tokens_extend takes, ← List.append_assoc,
      ← splits.tokens_eq]
    rfl
  groups := splits.groups
  ending := Ending.spelled_extend splits.ending more

/-- More tokens at the end are arguments and nothing else. -/
theorem config_extend (host : Host) (reading : Reading) (more : List String) :
    (reading.extend more).config host =
      { reading.config host with
        trailingArgs := (reading.config host).trailingArgs ++ reading.ending.passed more } := by
  obtain ⟨groups, ending⟩ := reading
  simp only [extend, config, target_mk, readsStdin_mk, args_mk]
  cases ending <;>
    simp [Ending.extend, Ending.passed, Ending.args, Ending.target?, Ending.showsHelp,
      Ending.showsVersion, Ending.readsStdin] <;>
    rfl

end Reading

namespace Host

variable {host : Host} {draft : Draft} {reading : Reading}

@[simp] theorem refusal?_extend (ending : Ending) (more : List String) :
    host.refusal? draft (ending.extend more) = host.refusal? draft ending := by
  cases ending <;> rfl

@[simp] theorem lateRefusal?_extend (ending : Ending) (more : List String) :
    host.lateRefusal? (ending.extend more) = host.lateRefusal? ending := by
  cases ending <;> rfl

theorem Admits.extend (h : host.Admits reading) (more : List String) :
    host.Admits (reading.extend more) where
  groups := h.groups
  spelled := Ending.spelled_extend h.spelled more
  ending := by
    rw [Reading.extend, refusal?_extend]
    exact h.ending

/-- Of the endings that take the rest, none is about standard input. -/
theorem ne_stdinNotRedirected_of_takesRest {ending : Ending} {diagnostic : Diagnostic}
    (takes : ending.TakesRest) (late : host.lateRefusal? ending = some diagnostic) :
    diagnostic ≠ .stdinNotRedirected := by
  rintro rfl
  rcases lateRefusal?_cases late with ⟨path, -, -, missing⟩ | ⟨token, rfl, -⟩
  · cases missing
  · exact takes

/-- How the resolution of a command line goes on when `more` tokens follow it. -/
structure Extends (host : Host) (start more : List String) : Prop where
  /-- Usage, the version and most errors stand. -/
  stopped :
    (host.resolve start).showExtendedHelp = true ∨ (host.resolve start).showVersion = true ∨
        (∃ diagnostic, (host.resolve start).error = some diagnostic ∧
          diagnostic.isMissing = false ∧ diagnostic ≠ .stdinNotRedirected) →
      host.resolve (start ++ more) = host.resolve start
  /-- A script file takes the tokens, some of them as names of parameters. -/
  file : (host.resolve start).error = none →
    ∀ path, (host.resolve start).scriptTarget = .file path →
      host.resolve (start ++ more) =
        { host.resolve start with
          trailingArgs :=
            (host.resolve start).trailingArgs ++ more.map TrailingArg.ofFileToken }
  /-- A command takes the tokens as values. -/
  command : (host.resolve start).error = none →
    ∀ text, (host.resolve start).scriptTarget = .command text false →
      host.resolve (start ++ more) =
        { host.resolve start with
          trailingArgs := (host.resolve start).trailingArgs ++ more.map TrailingArg.ofValue }
  /-- Nothing can follow `-` in place of a command. -/
  noPrompt : (host.resolve start).noPrompt = true →
    (host.resolve start).error = none ∨
      (host.resolve start).error = some .stdinNotRedirected →
    more ≠ [] →
      (host.resolve (start ++ more)).error = some .tooManyParametersToCommand ∧
        (host.resolve (start ++ more)).explicitStdinRead = false ∧
        (host.resolve (start ++ more)).noPrompt = false
  /-- All other command lines without an error are read on. -/
  goesOn : (host.resolve start).Open →
    host.resolve (start ++ more) = (host.run (host.run .initial start) more).freeze

variable {start more : List String} {diagnostic : Diagnostic}

/-- After an error, only two of the ways to go on are left. -/
theorem extends_of_error (error : (host.resolve start).error = some diagnostic)
    (stopped : (host.resolve start).showExtendedHelp = true ∨
        (host.resolve start).showVersion = true ∨
        (diagnostic.isMissing = false ∧ diagnostic ≠ .stdinNotRedirected) →
      host.resolve (start ++ more) = host.resolve start)
    (other : diagnostic ≠ .stdinNotRedirected) : host.Extends start more := by
  constructor
  · rintro (help | version | ⟨same, failed, complete⟩)
    · exact stopped (.inl help)
    · exact stopped (.inr (.inl version))
    · rw [error] at failed
      cases failed
      exact stopped (.inr (.inr complete))
  · intro settled
    rw [error] at settled
    cases settled
  · intro settled
    rw [error] at settled
    cases settled
  · rintro - (settled | redirected)
    · rw [error] at settled
      cases settled
    · rw [error] at redirected
      exact absurd (Option.some.inj redirected) other
  · intro goesOn
    have settled := goesOn.error
    rw [error] at settled
    cases settled

/-- An error that stands whatever follows. -/
theorem extends_of_fail
    (failed : host.run .initial start = (reading.draft host).fail diagnostic)
    (still : host.run .initial (start ++ more) = (reading.draft host).fail diagnostic)
    (other : diagnostic ≠ .stdinNotRedirected) : host.Extends start more := by
  refine extends_of_error ?_ ?_ other
  · rw [resolve, failed]
    rfl
  · intro _
    rw [resolve, resolve, failed, still]

/-- A target that takes no arguments from the end of a command line. -/
theorem not_file_of_encoded {target : ScriptTarget}
    (h : target = .none ∨ ∃ text, target = .command text true) :
    (∀ path, target ≠ .file path) ∧ ∀ text, target ≠ .command text false := by
  rcases h with rfl | ⟨text, rfl⟩
  · exact ⟨nofun, nofun⟩
  · refine ⟨nofun, ?_⟩
    intro other same
    cases same

theorem extends_of_open (settled : (host.resolve start).Open)
    (on : host.resolve (start ++ more) = (host.run (host.run .initial start) more).freeze) :
    host.Extends start more where
  stopped := by
    rintro (help | version | ⟨diagnostic, failed, -⟩)
    · rw [settled.showExtendedHelp] at help
      cases help
    · rw [settled.showVersion] at version
      cases version
    · rw [settled.error] at failed
      cases failed
  file _ path target := absurd target ((not_file_of_encoded settled.target).1 path)
  command _ text target := absurd target ((not_file_of_encoded settled.target).2 text)
  noPrompt := by
    intro noPrompt
    rw [settled.noPrompt] at noPrompt
    cases noPrompt
  goesOn _ := on

theorem passed_of_shown {ending : Ending}
    (shown : ending.showsHelp = true ∨ ending.showsVersion = true) (more : List String) :
    ending.passed more = [] := by
  cases ending with
  | command | file | script => rcases shown with shown | shown <;> cases shown
  | _ => rfl

/-- A script file is the target only if the ending names it. -/
theorem ending_of_file {path : FilePath} (h : reading.target host = .file path) :
    (∃ token file args, reading.ending = .file token file args ∧ path = host.absolute file) ∨
      ∃ file args, reading.ending = .script file args ∧ path = host.absolute file := by
  obtain ⟨groups, ending⟩ := reading
  have noFile := (not_file_of_encoded (target_upTo host groups)).1 path
  cases ending with
  | file token file args => exact .inl ⟨token, file, args, rfl, (ScriptTarget.file.inj h).symm⟩
  | script file args => exact .inr ⟨file, args, rfl, (ScriptTarget.file.inj h).symm⟩
  | command => cases h
  | _ => exact absurd h noFile

/-- Whether it exists or not, a script file was named in the command line. -/
theorem exists_absolute_of_scriptTarget {path : FilePath}
    (h : (host.resolve args).scriptTarget = .file path) : ∃ named, path = host.absolute named := by
  have named : ∀ reading : Reading, (reading.config host).scriptTarget = .file path →
      ∃ named, path = host.absolute named := by
    intro reading target
    rcases ending_of_file target with ⟨-, named, -, -, path_eq⟩ | ⟨named, -, -, path_eq⟩
    · exact ⟨named, path_eq⟩
    · exact ⟨named, path_eq⟩
  have outcome := outcome_of_splits (Reading.splits_ofArgs host.platform args)
  rw [resolve] at h
  generalize host.run .initial args = final at outcome h
  cases outcome with
  | done =>
      rw [Reading.freeze_draft] at h
      exact named _ h
  | @refused before =>
      rw [Reading.freeze_fail_draft] at h
      exact named (upTo before) h
  | late =>
      rw [Reading.freeze_fail_draft] at h
      exact named ⟨_, _⟩ h

theorem passed_of_file {path : FilePath} (h : reading.target host = .file path)
    (more : List String) : reading.ending.passed more = more.map TrailingArg.ofFileToken := by
  rcases ending_of_file h with ⟨token, file, args, ending, -⟩ | ⟨file, args, ending, -⟩
  · rw [ending, Ending.passed]
  · rw [ending, Ending.passed]

theorem passed_of_command {text : String} (h : reading.target host = .command text false)
    (more : List String) : reading.ending.passed more = more.map TrailingArg.ofValue := by
  obtain ⟨groups, ending⟩ := reading
  have noCommand := (not_file_of_encoded (target_upTo host groups)).2 text
  cases ending with
  | command => rfl
  | file | script => cases h
  | _ => exact absurd h noCommand

theorem not_takesRest_of_open (whole : reading.ending.IsWhole)
    (h : (reading.config host).Open) : ¬ reading.ending.TakesRest := by
  obtain ⟨groups, ending⟩ := reading
  have target := not_file_of_encoded h.target
  cases ending with
  | exhausted | commandDash => exact id
  | unfinished | crowded => exact whole.elim
  | help => cases h.showExtendedHelp
  | version => cases h.showVersion
  | command => exact absurd rfl (target.2 _)
  | file | script => exact absurd rfl (target.1 _)

/-- A command line that could have gone on is made of accepted groups. -/
theorem accepts_of_open (goesOn : (host.resolve start).Open) :
    ∃ groups, host.Accepts groups ∧ start = TokenGroup.tokensOf groups := by
  have splits := Reading.splits_ofArgs host.platform start
  obtain ⟨admitted, config_eq⟩ := admits_of_error_eq_none splits goesOn.error
  generalize Reading.ofArgs host.platform start = reading at splits admitted config_eq
  rw [config_eq] at goesOn
  have whole := admitted.isWhole
  have stops := not_takesRest_of_open whole goesOn
  obtain ⟨groups, ending⟩ := reading
  cases ending with
  | exhausted =>
      refine ⟨groups, admitted.groups, ?_⟩
      rw [← splits.tokens_eq]
      exact List.append_nil _
  | commandDash => cases goesOn.noPrompt
  | unfinished => exact whole.elim
  | _ => exact absurd trivial stops

/-- A configuration that more tokens can only pass arguments to. -/
theorem extends_of_done (takes : reading.ending.TakesRest) (whole : reading.ending.IsWhole)
    (settled : host.resolve start = reading.config host)
    (on : host.resolve (start ++ more) = (reading.extend more).config host) :
    host.Extends start more := by
  rw [Reading.config_extend, ← settled] at on
  constructor
  · intro stopped
    rw [settled] at stopped
    have shown : reading.ending.showsHelp = true ∨ reading.ending.showsVersion = true := by
      rcases stopped with help | version | ⟨diagnostic, failed, -⟩
      · exact .inl help
      · exact .inr version
      · cases failed
    rw [on, passed_of_shown shown, List.append_nil]
  · intro _ path target
    rw [settled] at target
    rw [on, passed_of_file target]
  · intro _ text target
    rw [settled] at target
    rw [on, passed_of_command target]
  · intro noPrompt
    rw [settled] at noPrompt
    exact absurd takes (Ending.not_takesRest_of_readsStdin noPrompt)
  · intro goesOn
    rw [settled] at goesOn
    exact absurd takes (not_takesRest_of_open whole goesOn)

/-! ### The ways a command line can end -/

section

variable {groups : List TokenGroup} {token : String}

/-- What a token is objected to does not depend on what follows it. -/
theorem extends_of_objectionAt? {rest : List String} (accepted : host.Accepts groups)
    (start_eq : start = TokenGroup.tokensOf groups ++ token :: rest)
    (objection : host.objectionAt? ((upTo groups).draft host) token = some diagnostic) :
    host.Extends start more := by
  have hrun : ∀ behind, host.run .initial (TokenGroup.tokensOf groups ++ token :: behind) =
      ((upTo groups).draft host).fail diagnostic := by
    intro behind
    rw [run_accepted accepted, run_of_stop (step_of_objectionAt? objection behind)]
  have failed : host.run .initial start = ((upTo groups).draft host).fail diagnostic := by
    rw [start_eq, hrun]
  refine extends_of_fail failed ?_
    (Diagnostic.ne_stdinNotRedirected (isLate_of_objectionAt? objection))
  rw [start_eq, List.append_assoc, List.cons_append, hrun]

theorem extends_of_groupRefusal? {before after : List TokenGroup} {group : TokenGroup}
    (splits : reading.Splits host.platform start)
    (groups_eq : reading.groups = before ++ group :: after) (accepted : host.Accepts before)
    (refused : host.groupRefusal? ((upTo before).draft host) group = some diagnostic) :
    host.Extends start more := by
  have hrun := run_of_groupRefusal? splits groups_eq accepted refused
  refine extends_of_fail ?_ (hrun more)
    (Diagnostic.ne_stdinNotRedirected (isLate_of_groupRefusal? refused))
  rw [← hrun [], List.append_nil]

theorem extends_of_exhausted (accepted : host.Accepts groups) :
    host.Extends (TokenGroup.tokensOf groups) more := by
  refine extends_of_open ?_ ?_
  · rw [accepted.resolve_eq]
    exact open_upTo host groups
  · rw [resolve, run_accepted accepted, accepted.run_initial]

theorem extends_of_takesRest (splits : reading.Splits host.platform start)
    (accepted : host.Accepts reading.groups) (takes : reading.ending.TakesRest) :
    host.Extends start more := by
  have longer := splits.extend takes more
  cases refusal : host.refusal? ((upTo reading.groups).draft host) reading.ending with
  | some diagnostic =>
      have hstart := run_of_refusal? splits accepted refusal
      have hmore := run_of_refusal? longer accepted ((refusal?_extend _ more).trans refusal)
      exact extends_of_fail hstart hmore
        (Diagnostic.ne_stdinNotRedirected (isLate_of_refusal? refusal))
  | none =>
      have admitted : host.Admits reading := ⟨accepted, splits.ending, refusal⟩
      have hstart := run_of_admits splits admitted
      have hmore := run_of_admits longer (admitted.extend more)
      simp only [Reading.extend, lateRefusal?_extend, Ending.bare_extend] at hmore
      cases late : host.lateRefusal? reading.ending with
      | none =>
          simp only [late] at hstart hmore
          refine extends_of_done takes admitted.isWhole ?_ ?_
          · rw [resolve, hstart, Reading.freeze_draft]
          · rw [resolve, hmore, ← Reading.freeze_draft]
            rfl
      | some diagnostic =>
          simp only [late] at hstart hmore
          exact extends_of_fail hstart hmore (ne_stdinNotRedirected_of_takesRest takes late)

/-- A switch whose value is missing, nothing else being wrong, may get its value yet. -/
theorem extends_of_missing
    (failed : host.run .initial start = ((upTo groups).draft host).fail diagnostic)
    (missing : diagnostic.isMissing = true) : host.Extends start more := by
  have other : diagnostic ≠ .stdinNotRedirected := by
    rintro rfl
    cases missing
  have hresolve : host.resolve start =
      (((upTo groups).draft host).fail diagnostic).freeze := by
    rw [resolve, failed]
  rw [Reading.freeze_fail_draft] at hresolve
  refine extends_of_error ?_ ?_ other <;> rw [hresolve]
  rintro (help | version | ⟨complete, -⟩)
  · cases help
  · cases version
  · rw [missing] at complete
    cases complete

theorem extends_of_unfinished {switch : Switch} (accepted : host.Accepts groups)
    (splits : (Reading.mk groups (.unfinished token switch)).Splits host.platform start) :
    host.Extends start more := by
  cases objection : host.objectionAt? ((upTo groups).draft host) token with
  | some diagnostic => exact extends_of_objectionAt? accepted splits.tokens_eq.symm objection
  | none =>
      cases missing : switch.missing? with
      | none =>
          have takesValue := splits.ending.2
          cases switch with
          | help | version | flag => exact absurd rfl takesValue
          | parameter | command | file => cases missing
      | some diagnostic =>
          have refused : host.refusal? ((upTo groups).draft host) (.unfinished token switch) =
              some diagnostic := by
            rw [refusal?, objection, missing, Option.none_or]
          exact extends_of_missing (run_of_refusal? splits accepted refused)
            (Switch.isMissing_of_missing? missing)

/-- Nothing can follow `-` in place of a command. -/
theorem resolve_crowded (accepted : host.Accepts groups)
    (splits : (Reading.mk groups (.commandDash token)).Splits host.platform start)
    (settled : ((upTo groups).draft host).targetObjection? token = none) (more_ne : more ≠ []) :
    host.resolve (start ++ more) =
      (((upTo groups).draft host).fail .tooManyParametersToCommand).freeze := by
  obtain ⟨next, rest, rfl⟩ := List.exists_cons_of_ne_nil more_ne
  have crowded : (Reading.mk groups (.crowded token next rest)).Splits host.platform
      (start ++ next :: rest) := by
    refine ⟨?_, splits.groups, splits.ending⟩
    rw [← splits.tokens_eq]
    simp [Reading.tokens, Ending.tokens]
  have refused : host.refusal? ((upTo groups).draft host) (.crowded token next rest) =
      some .tooManyParametersToCommand := by
    rw [refusal?, settled, Option.none_or]
  rw [resolve, run_of_refusal? crowded accepted refused]

theorem extends_of_noPrompt (noPrompt : (host.resolve start).noPrompt = true)
    (error : (host.resolve start).error = none ∨
      (host.resolve start).error = some .stdinNotRedirected)
    (noHelp : (host.resolve start).showExtendedHelp = false)
    (noVersion : (host.resolve start).showVersion = false)
    (target : (host.resolve start).scriptTarget = .none ∨
      ∃ text, (host.resolve start).scriptTarget = .command text true)
    (crowded : more ≠ [] →
      (host.resolve (start ++ more)).error = some .tooManyParametersToCommand ∧
        (host.resolve (start ++ more)).explicitStdinRead = false ∧
        (host.resolve (start ++ more)).noPrompt = false) : host.Extends start more where
  stopped := by
    rintro (help | version | ⟨diagnostic, failed, -, other⟩)
    · rw [noHelp] at help
      cases help
    · rw [noVersion] at version
      cases version
    · rw [failed] at error
      rcases error with error | error
      · cases error
      · exact absurd (Option.some.inj error) other
  file _ path selected := absurd selected ((not_file_of_encoded target).1 path)
  command _ text selected := absurd selected ((not_file_of_encoded target).2 text)
  noPrompt _ _ := crowded
  goesOn h := by
    have settled := h.noPrompt
    rw [noPrompt] at settled
    cases settled

theorem extends_of_commandDash (accepted : host.Accepts groups)
    (splits : (Reading.mk groups (.commandDash token)).Splits host.platform start) :
    host.Extends start more := by
  have spelled : Switch.lookup? host.platform token = some .command := splits.ending
  have objection_eq : host.objectionAt? ((upTo groups).draft host) token =
      ((upTo groups).draft host).targetObjection? token := by
    rw [objectionAt?, spelled]
  cases objection : ((upTo groups).draft host).targetObjection? token with
  | some diagnostic =>
      exact extends_of_objectionAt? accepted splits.tokens_eq.symm (objection_eq.trans objection)
  | none =>
      have admitted : host.Admits (Reading.mk groups (.commandDash token)) :=
        ⟨accepted, spelled, objection⟩
      have noStdin := (Reading.hasScriptTarget_eq_false_iff.mp
        (Draft.targetObjection?_eq_none_iff.mp objection)).2
      have crowded : more ≠ [] →
          (host.resolve (start ++ more)).error = some .tooManyParametersToCommand ∧
            (host.resolve (start ++ more)).explicitStdinRead = false ∧
            (host.resolve (start ++ more)).noPrompt = false := by
        intro more_ne
        rw [resolve_crowded accepted splits objection more_ne]
        exact ⟨rfl, noStdin, rfl⟩
      have target := target_upTo host groups
      have hstart := run_of_admits splits admitted
      cases redirected : host.isRedirected with
      | true =>
          have hresolve : host.resolve start =
              (Reading.mk groups (.commandDash token)).config host := by
            rw [resolve, hstart, ← Reading.freeze_draft]
            simp [lateRefusal?, redirected]
          refine extends_of_noPrompt ?_ ?_ ?_ ?_ ?_ crowded <;> rw [hresolve]
          · rfl
          · exact .inl rfl
          · rfl
          · rfl
          · exact target
      | false =>
          have hresolve : host.resolve start =
              (((Reading.mk groups (.commandDash token)).draft host).fail
                .stdinNotRedirected).freeze := by
            rw [resolve, hstart]
            simp [lateRefusal?, redirected, Ending.bare]
          refine extends_of_noPrompt ?_ ?_ ?_ ?_ ?_ crowded <;> rw [hresolve]
          · rfl
          · exact .inr rfl
          · rfl
          · rfl
          · exact target

/-- What a command line has come to settles how it goes on. -/
theorem resolve_append (host : Host) (start more : List String) : host.Extends start more := by
  have splits := Reading.splits_ofArgs host.platform start
  generalize Reading.ofArgs host.platform start = reading at splits
  rcases accepts_or_refused splits.groups with
    accepted | ⟨before, group, after, diagnostic, groups_eq, accepted, refused⟩
  · obtain ⟨groups, ending⟩ := reading
    cases ending with
    | exhausted =>
        rw [← splits.tokens_eq, Reading.tokens, Ending.tokens, List.append_nil]
        exact extends_of_exhausted accepted
    | commandDash => exact extends_of_commandDash accepted splits
    | unfinished => exact extends_of_unfinished accepted splits
    | _ => exact extends_of_takesRest splits accepted trivial
  · exact extends_of_groupRefusal? splits groups_eq accepted refused

end

/-- A command line that is stopped, one with a script file, one with a command, one that reads
standard input, and one that goes on. -/
theorem resolve_append_sample :
    sample.resolve (["-v"] ++ ["-c"]) = sample.resolve ["-v"] ∧
      (sample.resolve (["run"] ++ ["-x", "y"])).trailingArgs = [⟨"-x", false⟩, ⟨"y", true⟩] ∧
      (sample.resolve (["-c", "dir"] ++ ["-x"])).trailingArgs = [⟨"-x", true⟩] ∧
      (sample.resolve (["-c", "-"] ++ ["x"])).error = some .tooManyParametersToCommand ∧
      sample.resolve (["-noexit"] ++ ["-c", "dir"]) =
        (sample.run (sample.run .initial ["-noexit"]) ["-c", "dir"]).freeze := by
  have stopped : (sample.resolve ["-v"]).showVersion = true := by decide +kernel
  have settled : (sample.resolve ["run"]).error = none := by decide +kernel
  have file : (sample.resolve ["run"]).scriptTarget = .file "/w/run" := by decide +kernel
  have settled' : (sample.resolve ["-c", "dir"]).error = none := by decide +kernel
  have command : (sample.resolve ["-c", "dir"]).scriptTarget = .command "dir" false := by
    decide +kernel
  have noPrompt : (sample.resolve ["-c", "-"]).noPrompt = true := by decide +kernel
  have redirected : (sample.resolve ["-c", "-"]).error = none := by decide +kernel
  have goesOn : (sample.resolve ["-noexit"]).Open := by
    refine ⟨?_, ?_, ?_, ?_, .inl ?_⟩ <;> decide +kernel
  refine ⟨(resolve_append sample _ _).stopped (.inr (.inl stopped)), ?_, ?_,
    ((resolve_append sample _ _).noPrompt noPrompt (.inl redirected) (by decide)).1,
    (resolve_append sample _ _).goesOn goesOn⟩
  · rw [(resolve_append sample _ _).file settled _ file]
    decide +kernel
  · rw [(resolve_append sample _ _).command settled' _ command]
    decide +kernel

end Host

end ShellLaunch
