import ShellLaunch.Proofs.Reading.Finish

/-!
# How a resolution goes

The run over a command line comes to the draft of its whole reading, or it fails at one
place: where a group or the ending is refused, or in the ending when that has changed the
draft already. `Host.outcome_of_splits` is this account for every command line. In each of
the three cases the draft is that of a reading, with a diagnostic or without.
-/

namespace ShellLaunch

open Reading (upTo)

/-- The command line of the configuration could have gone on. -/
structure LaunchConfig.Open (config : LaunchConfig) : Prop where
  error : config.error = none
  showExtendedHelp : config.showExtendedHelp = false
  showVersion : config.showVersion = false
  noPrompt : config.noPrompt = false
  /-- The target is a command in encoded form, if there is one at all. -/
  target : config.scriptTarget = .none ∨ ∃ text, config.scriptTarget = .command text true

namespace Host

/-- The groups of a reading are accepted, and its ending is not refused after them. -/
structure Admits (host : Host) (reading : Reading) : Prop where
  groups : host.Accepts reading.groups
  spelled : reading.ending.Spelled host.platform
  ending : host.refusal? ((upTo reading.groups).draft host) reading.ending = none

/-- What a run over the tokens of a reading can come to. -/
inductive Outcome (host : Host) (reading : Reading) : Draft → Prop where
  /-- Nothing is refused. -/
  | done (admitted : host.Admits reading) (late : host.lateRefusal? reading.ending = none) :
      host.Outcome reading (reading.draft host)
  /-- After some groups, the next tokens are refused. -/
  | refused {before : List TokenGroup} {token : String} {rest : List String}
      {diagnostic : Diagnostic} (accepted : host.Accepts before)
      (tokens : reading.tokens = TokenGroup.tokensOf before ++ token :: rest)
      (step : (host.step ((upTo before).draft host) token rest).draft =
        ((upTo before).draft host).fail diagnostic)
      (early : diagnostic.isLate = false) :
      host.Outcome reading (((upTo before).draft host).fail diagnostic)
  /-- The ending is not refused, but fails. -/
  | late {diagnostic : Diagnostic} (admitted : host.Admits reading)
      (late : host.lateRefusal? reading.ending = some diagnostic) :
      host.Outcome reading
        (((Reading.mk reading.groups reading.ending.bare).draft host).fail diagnostic)

variable {host : Host} {reading : Reading} {args : List String}

/-- What is missing or too much at the end is refused. -/
theorem Admits.isWhole (h : host.Admits reading) : reading.ending.IsWhole := by
  have spelled := h.spelled
  have accepted := h.ending
  cases ending : reading.ending with
  | unfinished token switch =>
      rw [ending] at spelled accepted
      obtain ⟨-, missing⟩ := Option.or_eq_none_iff.mp accepted
      cases switch with
      | help | version | flag => exact absurd rfl spelled.2
      | parameter | command | file => cases missing
  | crowded =>
      rw [ending] at accepted
      cases (Option.or_eq_none_iff.mp accepted).2
  | _ => trivial

/-- Accepted groups can be all there is. -/
theorem Accepts.admits {groups : List TokenGroup} (h : host.Accepts groups) :
    host.Admits (upTo groups) :=
  ⟨h, trivial, rfl⟩

/-- An admitted reading stays admitted without the tokens that its ending passes on. -/
theorem Admits.bare (h : host.Admits reading) :
    host.Admits ⟨reading.groups, reading.ending.bare⟩ := by
  obtain ⟨accepted, spelled, allowed⟩ := h
  cases ending : reading.ending <;> rw [ending] at spelled allowed <;>
    exact ⟨accepted, spelled, allowed⟩

theorem Accepts.splits {groups : List TokenGroup} (h : host.Accepts groups) :
    (upTo groups).Splits host.platform (TokenGroup.tokensOf groups) where
  tokens_eq := List.append_nil _
  groups := h.spelled
  ending := trivial

theorem Accepts.run_initial {groups : List TokenGroup} (h : host.Accepts groups) :
    host.run .initial (TokenGroup.tokensOf groups) = (upTo groups).draft host := by
  rw [← List.append_nil (TokenGroup.tokensOf groups), run_accepted h]
  rfl

theorem Accepts.resolve_eq {groups : List TokenGroup} (h : host.Accepts groups) :
    host.resolve (TokenGroup.tokensOf groups) = (upTo groups).config host := by
  rw [resolve, h.run_initial, Reading.freeze_draft]

/-- A resolution goes past accepted groups. -/
theorem resolve_of_accepts {groups : List TokenGroup} (accepted : host.Accepts groups)
    (rest : List String) :
    host.resolve (TokenGroup.tokensOf groups ++ rest) =
      (host.run ((upTo groups).draft host) rest).freeze := by
  rw [resolve, run_accepted accepted]

/-- A group that is refused ends the run, whatever follows it. -/
theorem run_of_groupRefusal? {before after : List TokenGroup} {group : TokenGroup}
    {diagnostic : Diagnostic} (splits : reading.Splits host.platform args)
    (groups_eq : reading.groups = before ++ group :: after) (accepted : host.Accepts before)
    (refused : host.groupRefusal? ((upTo before).draft host) group = some diagnostic)
    (more : List String) :
    host.run .initial (args ++ more) = ((upTo before).draft host).fail diagnostic := by
  have spelled : group.Spelled host.platform := splits.groups group (by simp [groups_eq])
  rw [← splits.tokens_eq, Reading.tokens_of_groups groups_eq, List.append_assoc,
    List.append_assoc, run_refused accepted spelled refused]

theorem run_of_refusal? {diagnostic : Diagnostic} (splits : reading.Splits host.platform args)
    (accepted : host.Accepts reading.groups)
    (refused : host.refusal? ((upTo reading.groups).draft host) reading.ending =
      some diagnostic) :
    host.run .initial args = ((upTo reading.groups).draft host).fail diagnostic := by
  rw [← splits.tokens_eq, Reading.tokens, run_accepted accepted, run_ending splits.ending,
    finish, refused]

theorem run_of_admits (splits : reading.Splits host.platform args)
    (admitted : host.Admits reading) :
    host.run .initial args =
      match host.lateRefusal? reading.ending with
      | none => reading.draft host
      | some diagnostic =>
        ((Reading.mk reading.groups reading.ending.bare).draft host).fail diagnostic := by
  rw [← splits.tokens_eq, Reading.tokens, run_accepted admitted.groups,
    run_ending splits.ending, finish, admitted.ending]
  exact conclude_draft admitted.ending admitted.isWhole

/-- The ending is refused after groups that are accepted. -/
theorem outcome_of_refusal? {diagnostic : Diagnostic}
    (spelled : reading.ending.Spelled host.platform) (accepted : host.Accepts reading.groups)
    (refused : host.refusal? ((upTo reading.groups).draft host) reading.ending =
      some diagnostic) :
    host.Outcome reading (((upTo reading.groups).draft host).fail diagnostic) := by
  have unexhausted : reading.ending ≠ .exhausted := by
    intro exhausted
    rw [exhausted] at refused
    cases refused
  obtain ⟨token, rest, tokens⟩ := Ending.exists_tokens unexhausted
  refine .refused accepted (by rw [Reading.tokens, tokens]) ?_ (isLate_of_refusal? refused)
  rw [step_ending spelled tokens, finish, refused]
  rfl

/-- A group is refused after groups that are accepted. -/
theorem outcome_of_groupRefusal? {before after : List TokenGroup} {group : TokenGroup}
    {diagnostic : Diagnostic} (groups_eq : reading.groups = before ++ group :: after)
    (spelled : group.Spelled host.platform) (accepted : host.Accepts before)
    (refused : host.groupRefusal? ((upTo before).draft host) group = some diagnostic) :
    host.Outcome reading (((upTo before).draft host).fail diagnostic) := by
  obtain ⟨token, behind, tokens⟩ := group.exists_tokens
  have tokens_eq := Reading.tokens_of_groups groups_eq
  rw [tokens, List.cons_append] at tokens_eq
  refine .refused accepted tokens_eq ?_ (isLate_of_groupRefusal? refused)
  rw [draft_step_group spelled tokens, apply_of_refusal refused]

/-- The account of every run over a command line. -/
theorem outcome_of_splits (splits : reading.Splits host.platform args) :
    host.Outcome reading (host.run .initial args) := by
  rcases accepts_or_refused splits.groups with
    accepted | ⟨before, group, after, diagnostic, groups_eq, accepted, refused⟩
  · cases refusal : host.refusal? ((upTo reading.groups).draft host) reading.ending with
    | some diagnostic =>
        rw [run_of_refusal? splits accepted refusal]
        exact outcome_of_refusal? splits.ending accepted refusal
    | none =>
        have admitted : host.Admits reading := ⟨accepted, splits.ending, refusal⟩
        rw [run_of_admits splits admitted]
        cases late : host.lateRefusal? reading.ending with
        | none => exact .done admitted late
        | some diagnostic => exact .late admitted late
  · have spelled : group.Spelled host.platform := splits.groups group (by simp [groups_eq])
    rw [← List.append_nil args, run_of_groupRefusal? splits groups_eq accepted refused]
    exact outcome_of_groupRefusal? groups_eq spelled accepted refused

/-- What the host runs after some groups can only be a command in encoded form. -/
theorem target_upTo (host : Host) (groups : List TokenGroup) :
    (upTo groups).target host = .none ∨
      ∃ text, (upTo groups).target host = .command text true := by
  have target_eq : (upTo groups).target host =
      (((upTo groups).lastValue? .encodedCommand).map Reading.decodedTarget).getD .none := rfl
  rw [target_eq]
  cases (upTo groups).lastValue? .encodedCommand with
  | none => exact .inl rfl
  | some value =>
      cases decoded : Encoding.decodeCommand value with
      | error => exact .inl (by simp [Reading.decodedTarget, decoded])
      | ok text => exact .inr ⟨text, by simp [Reading.decodedTarget, decoded]⟩

theorem open_upTo (host : Host) (groups : List TokenGroup) :
    ((upTo groups).config host).Open where
  error := rfl
  showExtendedHelp := rfl
  showVersion := rfl
  noPrompt := rfl
  target := target_upTo host groups

/-- A Unix host with one script file, on which the theorems about resolutions are tried. -/
def sample : Host :=
  ⟨.unix, .redirected, ⟨"/w", fun path => path == "/w/run", true⟩⟩

end Host

end ShellLaunch
