import ShellLaunch.Proofs.Extension
import ShellLaunch.Proofs.Reading.Order

/-!
# Options in another order

On a command line, two neighbouring options of different switches can change places. Either
both orders lead to the same configuration, whatever follows, or one of the two options is
refused in both orders; which of them it is, and why, can depend on the order.
-/

namespace ShellLaunch

open Reading (upTo)

/-- The tokens of some groups in front of a command line are groups of its reading. -/
theorem Reading.ofArgs_tokensOf_append {platform : Platform} {groups : List TokenGroup}
    (spelled : ∀ group ∈ groups, group.Spelled platform) (rest : List String) :
    ofArgs platform (TokenGroup.tokensOf groups ++ rest) =
      ⟨groups ++ (ofArgs platform rest).groups, (ofArgs platform rest).ending⟩ := by
  induction groups with
  | nil => rfl
  | cons group groups ih =>
      rw [TokenGroup.tokensOf_cons, List.append_assoc,
        ofArgs_group (spelled group List.mem_cons_self),
        ih fun other member => spelled other (List.mem_cons_of_mem _ member)]
      rfl

namespace Host

/-- A diagnostic is raised at one of the tokens `middle`, behind `start`, and is the error of
the whole resolution. -/
def FailsWithin (host : Host) (start middle rest : List String) : Prop :=
  ∃ before token after diagnostic, middle = before ++ token :: after ∧
    (host.resolve (start ++ before)).Open ∧
    (host.step (host.run .initial (start ++ before)) token (after ++ rest)).draft.config.error =
      some diagnostic ∧
    (host.resolve (start ++ middle ++ rest)).error = some diagnostic

variable {host elsewhere : Host} {groups more : List TokenGroup} {left right : TokenGroup}
variable {start rest : List String} {token : String}

/-- Where groups are accepted, no diagnostic is raised at their tokens. -/
theorem error_step_of_accepts (accepted : host.Accepts more)
    (tokens : TokenGroup.tokensOf more = start ++ token :: rest)
    (goesOn : (host.resolve start).Open) (behind : List String) :
    (host.step (host.run .initial start) token (rest ++ behind)).draft.config.error = none := by
  obtain ⟨groups, before, rfl⟩ := accepts_of_open goesOn
  -- The token begins a group, since the groups in front of it are those of the one reading.
  have readings := Reading.ofArgs_tokensOf_append before.spelled (token :: rest)
  rw [← tokens, ← Reading.splits_iff.mp accepted.splits] at readings
  have behind_splits := Reading.splits_ofArgs host.platform (token :: rest)
  obtain ⟨groups_eq, ending_eq⟩ := Reading.mk.inj readings
  generalize Reading.ofArgs host.platform (token :: rest) = reading at *
  obtain ⟨last, ending⟩ := reading
  obtain rfl : Ending.exhausted = ending := ending_eq
  cases last with
  | nil => cases behind_splits.tokens_eq
  | cons group last =>
      have spelled := behind_splits.groups group List.mem_cons_self
      obtain ⟨first, values, group_tokens⟩ := group.exists_tokens
      have tokens_eq : first :: (values ++ TokenGroup.tokensOf last) = token :: rest := by
        rw [← behind_splits.tokens_eq]
        simp [Reading.tokens, Ending.tokens, group_tokens]
      obtain ⟨rfl, rfl⟩ := List.cons.inj tokens_eq
      have next : host.Accepts (groups ++ [group]) := by
        refine accepted.of_prefix ⟨last, ?_⟩
        rw [groups_eq, List.append_assoc]
        rfl
      obtain ⟨-, -, allowed⟩ := accepts_concat_iff.mp next
      rw [before.run_initial, List.append_assoc, draft_step_group spelled group_tokens,
        Reading.apply_draft rfl allowed]
      rfl

/-- A diagnostic is raised within some groups exactly where not all of them are accepted. -/
theorem failsWithin_iff (accepted : host.Accepts groups)
    (spelled : ∀ group ∈ more, group.Spelled host.platform) :
    host.FailsWithin (TokenGroup.tokensOf groups) (TokenGroup.tokensOf more) rest ↔
      ¬ host.Accepts (groups ++ more) := by
  constructor
  · rintro ⟨before, token, after, diagnostic, middle_eq, goesOn, raised, -⟩ all
    have tokens : TokenGroup.tokensOf (groups ++ more) =
        TokenGroup.tokensOf groups ++ before ++ token :: after := by
      rw [TokenGroup.tokensOf_append, middle_eq, List.append_assoc]
    rw [error_step_of_accepts all tokens goesOn rest] at raised
    cases raised
  · intro refuses
    rcases accepts_append_or_refused accepted spelled with
      all | ⟨before, group, after, diagnostic, rfl, accepted, refused⟩
    · exact absurd all refuses
    obtain ⟨token, values, group_tokens⟩ := group.exists_tokens
    have groupSpelled : group.Spelled host.platform := spelled group (by simp)
    have start_eq : TokenGroup.tokensOf groups ++ TokenGroup.tokensOf before =
        TokenGroup.tokensOf (groups ++ before) := TokenGroup.tokensOf_append ..|>.symm
    refine ⟨TokenGroup.tokensOf before, token, values ++ TokenGroup.tokensOf after, diagnostic,
      ?_, ?_, ?_, ?_⟩
    · simp [group_tokens]
    · rw [start_eq, accepted.resolve_eq]
      exact open_upTo host _
    · rw [start_eq, accepted.run_initial, List.append_assoc,
        draft_step_group groupSpelled group_tokens, apply_of_refusal refused]
      exact Draft.error_fail Reading.draft_failed diagnostic
    · have ran := run_refused accepted groupSpelled refused (TokenGroup.tokensOf after ++ rest)
      rw [resolve, Draft.error_freeze]
      simp only [TokenGroup.tokensOf_append, TokenGroup.tokensOf_cons, List.append_assoc]
        at ran ⊢
      rw [ran]
      exact Draft.error_fail Reading.draft_failed diagnostic

/-- What follows a group that is refused makes no difference. -/
theorem resolve_of_refused {before after : List TokenGroup} {group : TokenGroup}
    {diagnostic : Diagnostic} (accepted : host.Accepts before)
    (spelled : group.Spelled host.platform)
    (refused : host.groupRefusal? ((upTo before).draft host) group = some diagnostic)
    (rest : List String) :
    host.resolve (TokenGroup.tokensOf (before ++ group :: after) ++ rest) =
      (((upTo before).draft host).fail diagnostic).freeze := by
  have ran := run_refused accepted spelled refused (TokenGroup.tokensOf after ++ rest)
  rw [resolve]
  simp only [TokenGroup.tokensOf_append, TokenGroup.tokensOf_cons, List.append_assoc] at ran ⊢
  rw [ran]

theorem not_open_of_refused {before after : List TokenGroup} {group : TokenGroup}
    {diagnostic : Diagnostic} (accepted : host.Accepts before)
    (spelled : group.Spelled host.platform)
    (refused : host.groupRefusal? ((upTo before).draft host) group = some diagnostic)
    (rest : List String) :
    ¬ (host.resolve (TokenGroup.tokensOf (before ++ group :: after) ++ rest)).Open := by
  intro goesOn
  have error := goesOn.error
  rw [resolve_of_refused accepted spelled refused, Draft.error_freeze,
    Draft.error_fail Reading.draft_failed] at error
  cases error

/-- Independent options behind a command line that could have gone on, on some host of the
platform, fail in both orders or in none, and come to the same configuration in the second
case. Where the command line could have gone on here, options that exclude each other fail. -/
theorem resolve_swap (same : elsewhere.platform = host.platform)
    (goesOn : (elsewhere.resolve start).Open) (leftSpelled : left.Spelled host.platform)
    (rightSpelled : right.Spelled host.platform) (independent : left.Independent right)
    (rest : List String) :
    (host.FailsWithin start (left.tokens ++ right.tokens) rest ↔
        host.FailsWithin start (right.tokens ++ left.tokens) rest) ∧
      (¬ host.FailsWithin start (left.tokens ++ right.tokens) rest →
        host.resolve (start ++ (left.tokens ++ right.tokens) ++ rest) =
          host.resolve (start ++ (right.tokens ++ left.tokens) ++ rest)) ∧
      ((host.resolve start).Open → left.Exclusive right →
        host.FailsWithin start (left.tokens ++ right.tokens) rest) := by
  obtain ⟨groups, begun, rfl⟩ := accepts_of_open goesOn
  have spelled : ∀ group ∈ groups, group.Spelled host.platform := same ▸ begun.spelled
  have left_right : left.tokens ++ right.tokens = TokenGroup.tokensOf [left, right] := by simp
  have right_left : right.tokens ++ left.tokens = TokenGroup.tokensOf [right, left] := by simp
  rw [left_right, right_left]
  rcases accepts_or_refused spelled with
    accepted | ⟨before, group, after, diagnostic, rfl, accepted, refused⟩
  · have both : ∀ group ∈ [left, right], group.Spelled host.platform := by
      simp [leftSpelled, rightSpelled]
    have swapped : ∀ group ∈ [right, left], group.Spelled host.platform := by
      simp [leftSpelled, rightSpelled]
    rw [failsWithin_iff accepted both, failsWithin_iff accepted swapped]
    refine ⟨?_, ?_, ?_⟩
    · refine not_congr ⟨fun all => (accepts_swap independent all).2, fun all => ?_⟩
      exact (accepts_swap independent.symm all).2
    · intro all
      obtain ⟨compatible, others⟩ := accepts_swap independent (Classical.not_not.mp all)
      rw [← TokenGroup.tokensOf_append, ← TokenGroup.tokensOf_append,
        resolve_of_accepts (Classical.not_not.mp all), resolve_of_accepts others,
        draft_upTo_swap independent compatible]
    · intro _ exclusive all
      exact (accepts_swap independent all).1 exclusive
  · -- On this host something in front is refused already.
    have groupSpelled : group.Spelled host.platform := spelled group (by simp)
    have unmoved : ∀ rest, host.resolve (TokenGroup.tokensOf (before ++ group :: after) ++ rest) =
        (((upTo before).draft host).fail diagnostic).freeze :=
      resolve_of_refused accepted groupSpelled refused
    have closed : ∀ rest,
        ¬ (host.resolve (TokenGroup.tokensOf (before ++ group :: after) ++ rest)).Open :=
      not_open_of_refused accepted groupSpelled refused
    have never : ∀ middle,
        ¬ host.FailsWithin (TokenGroup.tokensOf (before ++ group :: after)) middle rest := by
      rintro middle ⟨front, -, -, -, -, goesOn, -, -⟩
      exact closed front goesOn
    refine ⟨iff_of_false (never _) (never _), ?_, ?_⟩
    · intro _
      rw [List.append_assoc, List.append_assoc, unmoved, unmoved]
    · intro here
      rw [← List.append_nil (TokenGroup.tokensOf _)] at here
      exact absurd here (closed [])

/-- To go on after what is run, and an encoded command to run, with a switch behind them. -/
theorem resolve_swap_sample :
    (sample.resolve ["-wd", "x"]).Open ∧
      (TokenGroup.alone "-noexit" .noExit).Spelled .unix ∧
      (TokenGroup.withValue "-ec" .encodedCommand "YQA=").Spelled .unix ∧
      (TokenGroup.alone "-noexit" .noExit).Independent
        (.withValue "-ec" .encodedCommand "YQA=") ∧
      ¬ sample.FailsWithin ["-wd", "x"] ["-ec", "YQA=", "-noexit"] ["-nologo"] ∧
      sample.resolve ["-wd", "x", "-noexit", "-ec", "YQA=", "-nologo"] =
        sample.resolve ["-wd", "x", "-ec", "YQA=", "-noexit", "-nologo"] := by
  have goesOn : (sample.resolve ["-wd", "x"]).Open :=
    ⟨by decide +kernel, by decide +kernel, by decide +kernel, by decide +kernel,
      .inl (by decide +kernel)⟩
  have leftSpelled : (TokenGroup.alone "-noexit" .noExit).Spelled .unix := by
    unfold TokenGroup.Spelled
    decide +kernel
  have rightSpelled : (TokenGroup.withValue "-ec" .encodedCommand "YQA=").Spelled .unix := by
    unfold TokenGroup.Spelled
    decide +kernel
  have independent : (TokenGroup.alone "-noexit" .noExit).Independent
      (.withValue "-ec" .encodedCommand "YQA=") := ⟨nofun, nofun, nofun⟩
  have settled : (sample.resolve ["-wd", "x", "-noexit", "-ec", "YQA=", "-nologo"]).error =
      none := by
    decide +kernel
  have succeeds : ¬ sample.FailsWithin ["-wd", "x"] ["-noexit", "-ec", "YQA="] ["-nologo"] := by
    rintro ⟨-, -, -, diagnostic, -, -, -, failed⟩
    cases settled.symm.trans failed
  have swap := resolve_swap rfl goesOn leftSpelled rightSpelled independent ["-nologo"]
  exact ⟨goesOn, leftSpelled, rightSpelled, independent, fun fails => succeeds (swap.1.mpr fails),
    swap.2.1 succeeds⟩

end Host

end ShellLaunch
