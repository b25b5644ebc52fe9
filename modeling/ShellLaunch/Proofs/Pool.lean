import ShellLaunch.Resolver

/-!
# Histories of a pool

A resolver that a program holds answers one command line, however often it is copied and
told about standard input along the way. What it answers is told here by what was done
before, without a look at any resolver: a history says which resolvers are used and what
each of them takes standard input for, and `Pool.Reaches.reflected` says that the resolvers
know the same of themselves.
-/

namespace ShellLaunch

namespace Resolver

variable {resolver : Resolver}

theorem resolve_of_used (used : resolver.used = true) (machine : Machine) (args : List String) :
    resolver.resolve machine args = (.error .alreadyResolved, resolver) :=
  if_pos used

theorem resolve_of_unused (unused : resolver.used = false) (machine : Machine)
    (args : List String) :
    resolver.resolve machine args =
      (.ok ((resolver.host machine).resolve args), { resolver with used := true }) :=
  if_neg (by simp [unused])

end Resolver

namespace Pool

/-- What was done with the resolver at a position, and what it answered. -/
structure Event where
  position : Nat
  action : Action
  answer : Answer

/-- The resolver at a position is used, after the given events, the latest of them first. -/
inductive Used : List Event → Nat → Prop where
  /-- It has resolved a command line. -/
  | resolved {past : List Event} {position : Nat} {args : List String} {config : LaunchConfig} :
      Used (⟨position, .resolve args, .resolved (.ok config)⟩ :: past) position
  /-- It is a copy of one that was used by then. -/
  | cloned {past : List Event} {position copy : Nat} (used : Used past position) :
      Used (⟨position, .clone, .clonedTo copy⟩ :: past) copy
  | later {past : List Event} {event : Event} {entry : Nat} (used : Used past entry) :
      Used (event :: past) entry

/-- What the resolver at a position takes standard input for, after the given events, the
latest of them first: what it was told last, or else what the one did that it is a copy of. -/
def stdinAt (first : StdinState) : List Event → Nat → StdinState
  | [], _ => first
  | ⟨position, .withStdin stdin, _⟩ :: past, entry =>
    if entry = position then stdin else stdinAt first past entry
  | ⟨position, .clone, .clonedTo copy⟩ :: past, entry =>
    stdinAt first past (if entry = copy then position else entry)
  | _ :: past, entry => stdinAt first past entry

/-- Events, the latest of them first, that lead from one resolver to a pool. The machine
may be another one at each of them. -/
inductive Reaches (first : Resolver) : List Event → Pool → Prop where
  | start : Reaches first [] [first]
  | step {past : List Event} {pool next : Pool} {machine : Machine} {position : Nat}
      {action : Action} {answer : Answer} (before : Reaches first past pool)
      (step : pool.step? machine position action = some (answer, next)) :
      Reaches first (⟨position, action, answer⟩ :: past) next

variable {first resolver : Resolver} {past : List Event} {pool next : Pool} {machine : Machine}
variable {position entry : Nat} {action : Action} {answer : Answer}

/-! ### What an event adds to the history -/

section

variable {args : List String} {config : LaunchConfig} {fault : ResolverFault} {copy : Nat}

theorem used_resolved_iff :
    Used (⟨position, .resolve args, .resolved (.ok config)⟩ :: past) entry ↔
      entry = position ∨ Used past entry := by
  constructor
  · intro h
    cases h with
    | resolved => exact .inl rfl
    | later used => exact .inr used
  · rintro (rfl | used)
    · exact .resolved
    · exact .later used

theorem used_refused_iff :
    Used (⟨position, .resolve args, .resolved (.error fault)⟩ :: past) entry ↔
      Used past entry := by
  constructor
  · intro h
    cases h with
    | later used => exact used
  · exact .later

theorem used_cloned_iff :
    Used (⟨position, .clone, .clonedTo copy⟩ :: past) entry ↔
      (entry = copy ∧ Used past position) ∨ Used past entry := by
  constructor
  · intro h
    cases h with
    | cloned used => exact .inl ⟨rfl, used⟩
    | later used => exact .inr used
  · rintro (⟨rfl, used⟩ | used)
    · exact .cloned used
    · exact .later used

/-- Nothing but a resolution and a cloning makes a resolver used. -/
theorem used_other_iff (noResolve : ∀ args, action ≠ .resolve args) (noClone : action ≠ .clone) :
    Used (⟨position, action, answer⟩ :: past) entry ↔ Used past entry := by
  constructor
  · intro h
    cases h with
    | resolved => exact absurd rfl (noResolve _)
    | cloned => exact absurd rfl noClone
    | later used => exact used
  · exact .later

end

/-! ### What a step can do -/

/-- What an action on a resolver of the pool answers, and the pool after it. -/
inductive Takes (machine : Machine) (pool : Pool) (position : Nat) (resolver : Resolver) :
    Action → Answer → Pool → Prop where
  | refused {args : List String} (used : resolver.used = true) :
      Takes machine pool position resolver (.resolve args)
        (.resolved (.error .alreadyResolved)) pool
  | resolved {args : List String} (unused : resolver.used = false) :
      Takes machine pool position resolver (.resolve args)
        (.resolved (.ok ((resolver.host machine).resolve args)))
        (pool.set position { resolver with used := true })
  | onClone {args : List String} :
      Takes machine pool position resolver (.resolveOnceOnClone args)
        (.resolved (resolver.resolveOnce machine args)) pool
  | cloned :
      Takes machine pool position resolver .clone (.clonedTo pool.length) (pool ++ [resolver])
  | told {stdin : StdinState} :
      Takes machine pool position resolver (.withStdin stdin) .done
        (pool.set position { resolver with stdin })
  | asked :
      Takes machine pool position resolver .platform (.platform resolver.platform) pool

theorem set_self (held : pool[position]? = some resolver) : pool.set position resolver = pool := by
  obtain ⟨inside, rfl⟩ := List.getElem?_eq_some_iff.mp held
  exact List.set_getElem_self inside

theorem takes_of_step? (step : pool.step? machine position action = some (answer, next)) :
    ∃ resolver, pool[position]? = some resolver ∧
      Takes machine pool position resolver action answer next := by
  obtain ⟨resolver, held, acted⟩ := Option.map_eq_some_iff.mp step
  refine ⟨resolver, held, ?_⟩
  cases action with
  | resolve args =>
      cases used : resolver.used with
      | true =>
          simp only [act, resolver.resolve_of_used used, set_self held] at acted
          cases acted
          exact .refused used
      | false =>
          simp only [act, resolver.resolve_of_unused used] at acted
          cases acted
          exact .resolved used
  | resolveOnceOnClone args =>
      cases acted
      exact .onClone
  | clone =>
      cases acted
      exact .cloned
  | withStdin stdin =>
      cases acted
      exact .told
  | platform =>
      cases acted
      exact .asked

/-- Every action can be taken on every resolver that the pool holds. -/
theorem exists_step? (held : position < pool.length) (machine : Machine) (action : Action) :
    ∃ answer next, pool.step? machine position action = some (answer, next) := by
  refine ⟨(pool.act machine position pool[position] action).1,
    (pool.act machine position pool[position] action).2, ?_⟩
  rw [step?, List.getElem?_eq_getElem held]
  rfl

/-! ### Resolvers reflect their history -/

/-- A pool only grows. -/
theorem Takes.length_le (h : Takes machine pool position resolver action answer next) :
    pool.length ≤ next.length := by
  cases h <;> simp

/-- Only resolvers of the pool are used. -/
theorem Reaches.lt_length_of_used (h : Reaches first past pool) (used : Used past entry) :
    entry < pool.length := by
  induction h generalizing entry with
  | start => cases used
  | step before step ih =>
      obtain ⟨resolver, held, taken⟩ := takes_of_step? step
      cases used with
      | resolved =>
          obtain ⟨inside, -⟩ := List.getElem?_eq_some_iff.mp held
          exact Nat.lt_of_lt_of_le inside taken.length_le
      | cloned =>
          cases taken
          simp
      | later used => exact Nat.lt_of_lt_of_le (ih used) taken.length_le

/-- The resolver has the marks that the history says the one at the position has. -/
structure Reflects (first : Resolver) (past : List Event) (entry : Nat) (resolver : Resolver) :
    Prop where
  used : resolver.used = true ↔ Used past entry
  stdin : resolver.stdin = stdinAt first.stdin past entry
  platform : resolver.platform = first.platform

/-- Setting a resolver of the pool leaves the others alone. -/
theorem getElem?_set_cases {changed after : Resolver}
    (h : (pool.set position changed)[entry]? = some after) :
    (entry = position ∧ after = changed) ∨ (entry ≠ position ∧ pool[entry]? = some after) := by
  rw [List.getElem?_set] at h
  split at h
  next same =>
    split at h
    · exact .inl ⟨same.symm, (Option.some.inj h).symm⟩
    · cases h
  next other => exact .inr ⟨fun same => other same.symm, h⟩

/-- An event that says nothing about a position changes no mark there. -/
theorem Reflects.later {event : Event} (h : Reflects first past entry resolver)
    (used : Used (event :: past) entry ↔ Used past entry)
    (stdin : stdinAt first.stdin (event :: past) entry = stdinAt first.stdin past entry) :
    Reflects first (event :: past) entry resolver :=
  ⟨h.used.trans used.symm, h.stdin.trans stdin.symm, h.platform⟩

/-- A step keeps the marks in line with the history, if the history says nothing yet of the
position that a copy would take. -/
theorem Takes.reflects {acted : Resolver} (held : pool[position]? = some acted)
    (taken : Takes machine pool position acted action answer next)
    (inside : ∀ {entry}, Used past entry → entry < pool.length)
    (marks : ∀ entry resolver, pool[entry]? = some resolver →
      Reflects first past entry resolver) :
    ∀ entry after, next[entry]? = some after →
      Reflects first (⟨position, action, answer⟩ :: past) entry after := by
  intro entry after found
  cases taken with
  | refused => exact (marks entry after found).later used_refused_iff rfl
  | onClone | asked =>
      exact (marks entry after found).later (used_other_iff (by nofun) (by nofun)) rfl
  | resolved =>
      rcases getElem?_set_cases found with ⟨rfl, rfl⟩ | ⟨other, found⟩
      · obtain ⟨-, stdin, platform⟩ := marks _ acted held
        exact ⟨iff_of_true rfl .resolved, stdin, platform⟩
      · refine (marks entry after found).later ?_ rfl
        rw [used_resolved_iff, or_iff_right other]
  | @told state =>
      have unmarked : Used (⟨position, .withStdin state, .done⟩ :: past) entry ↔
          Used past entry := used_other_iff (by nofun) (by nofun)
      rcases getElem?_set_cases found with ⟨rfl, rfl⟩ | ⟨other, found⟩
      · obtain ⟨used, -, platform⟩ := marks _ acted held
        refine ⟨used.trans unmarked.symm, ?_, platform⟩
        rw [stdinAt, if_pos rfl]
      · refine (marks entry after found).later unmarked ?_
        rw [stdinAt, if_neg other]
  | cloned =>
      rcases Nat.lt_trichotomy entry pool.length with before | rfl | behind
      · rw [List.getElem?_append_left before] at found
        refine (marks entry after found).later ?_ ?_
        · rw [used_cloned_iff, or_iff_right]
          rintro ⟨rfl, -⟩
          exact Nat.lt_irrefl _ before
        · rw [stdinAt, if_neg (Nat.ne_of_lt before)]
      · obtain rfl : acted = after := by simpa using found
        obtain ⟨used, stdin, platform⟩ := marks position acted held
        refine ⟨used.trans ?_, ?_, platform⟩
        · rw [used_cloned_iff, or_iff_left]
          · simp
          · intro used
            exact Nat.lt_irrefl _ (inside used)
        · rw [stdinAt, if_pos rfl, stdin]
      · rw [List.getElem?_eq_none (by simpa using Nat.succ_le_of_lt behind)] at found
        cases found

/-- Every resolver of a pool has the marks that the history says it has. -/
theorem Reaches.reflected (fresh : first.used = false) (h : Reaches first past pool) :
    ∀ entry resolver, pool[entry]? = some resolver → Reflects first past entry resolver := by
  induction h with
  | start =>
      intro entry resolver held
      obtain ⟨rfl, rfl⟩ : entry = 0 ∧ first = resolver := by
        simpa [List.getElem?_singleton] using held
      refine ⟨?_, rfl, rfl⟩
      rw [fresh]
      exact iff_of_false Bool.false_ne_true nofun
  | step before step ih =>
      obtain ⟨acted, held, taken⟩ := takes_of_step? step
      exact taken.reflects held before.lt_length_of_used ih

/-- What a step leaves of a resolver that the pool held before it. -/
structure Keeps (position : Nat) (action : Action) (answer : Answer) (entry : Nat)
    (before after : Resolver) : Prop where
  platform : after.platform = before.platform
  told : ∀ stdin, action = .withStdin stdin → entry = position → after.stdin = stdin
  stdin : (∀ stdin, action = .withStdin stdin → entry ≠ position) → after.stdin = before.stdin
  used : (∀ args config, action = .resolve args → answer = .resolved (.ok config) →
    entry ≠ position) → after.used = before.used

/-- Only telling a resolver about standard input, or its resolving a command line, changes
one of its marks. -/
theorem Takes.keeps {before : Resolver} (held : pool[position]? = some resolver)
    (taken : Takes machine pool position resolver action answer next)
    (found : pool[entry]? = some before) :
    ∃ after, next[entry]? = some after ∧ Keeps position action answer entry before after := by
  obtain ⟨inside, -⟩ := List.getElem?_eq_some_iff.mp found
  cases taken with
  | refused | onClone | asked =>
      exact ⟨before, found, rfl, nofun, fun _ => rfl, fun _ => rfl⟩
  | cloned =>
      refine ⟨before, ?_, rfl, nofun, fun _ => rfl, fun _ => rfl⟩
      rw [List.getElem?_append_left inside, found]
  | resolved =>
      by_cases same : entry = position
      · subst same
        obtain rfl : resolver = before := Option.some.inj (held.symm.trans found)
        refine ⟨_, List.getElem?_set_self inside, rfl, nofun, fun _ => rfl, ?_⟩
        intro never
        exact absurd rfl (never _ _ rfl rfl)
      · refine ⟨before, ?_, rfl, nofun, fun _ => rfl, fun _ => rfl⟩
        rw [List.getElem?_set_ne (Ne.symm same), found]
  | told =>
      by_cases same : entry = position
      · subst same
        obtain rfl : resolver = before := Option.some.inj (held.symm.trans found)
        refine ⟨_, List.getElem?_set_self inside, rfl, ?_, ?_, fun _ => rfl⟩
        · intro stdin told _
          cases told
          rfl
        · intro never
          exact absurd rfl (never _ rfl)
      · refine ⟨before, ?_, rfl, ?_, fun _ => rfl, fun _ => rfl⟩
        · rw [List.getElem?_set_ne (Ne.symm same), found]
        · intro stdin _ here
          exact absurd here same

/-! ### Single use -/

/-- What a step on a pool answers and what it leaves, told by the history of the pool. -/
structure Obeys (first : Resolver) (past : List Event) (machine : Machine) (pool : Pool)
    (position : Nat) (action : Action) (answer : Answer) (next : Pool) : Prop where
  /-- A resolver that is used resolves nothing more, and neither does a copy of it. -/
  refused : ∀ args, action = .resolve args ∨ action = .resolveOnceOnClone args →
    (answer = .resolved (.error .alreadyResolved) ↔ Used past position)
  /-- Any other resolves as one does that has just been made. -/
  resolved : ∀ args, action = .resolve args ∨ action = .resolveOnceOnClone args →
    ¬ Used past position →
      ∃ config, answer = .resolved (.ok config) ∧
        ((Resolver.new first.platform).withStdin
          (stdinAt first.stdin past position)).resolveOnce machine args = .ok config
  /-- A copy goes to a position of its own. -/
  cloned : action = .clone →
    answer = .clonedTo pool.length ∧ next[pool.length]? = pool[position]?
  keeps : ∀ entry before, pool[entry]? = some before →
    ∃ after, next[entry]? = some after ∧ Keeps position action answer entry before after

/-- A resolution answers as the history of the resolver says. -/
theorem resolveOnce_of_reflects (marks : Reflects first past position resolver)
    (args : List String) :
    (resolver.resolveOnce machine args = .error .alreadyResolved ↔ Used past position) ∧
      (¬ Used past position →
        ∃ config, resolver.resolveOnce machine args = .ok config ∧
          ((Resolver.new first.platform).withStdin
            (stdinAt first.stdin past position)).resolveOnce machine args = .ok config) := by
  rw [← marks.used, ← marks.stdin, ← marks.platform, Resolver.resolveOnce]
  cases used : resolver.used with
  | true =>
      rw [resolver.resolve_of_used used]
      exact ⟨iff_of_true rfl rfl, fun unused => absurd rfl unused⟩
  | false =>
      rw [resolver.resolve_of_unused used]
      exact ⟨iff_of_false nofun nofun, fun _ => ⟨_, rfl, rfl⟩⟩

theorem Takes.resolveOnce_eq {args : List String}
    (taken : Takes machine pool position resolver action answer next)
    (resolves : action = .resolve args ∨ action = .resolveOnceOnClone args) :
    answer = .resolved (resolver.resolveOnce machine args) := by
  cases taken with
  | refused used =>
      rcases resolves with same | other
      · cases same
        rw [Resolver.resolveOnce, resolver.resolve_of_used used]
      · cases other
  | resolved unused =>
      rcases resolves with same | other
      · cases same
        rw [Resolver.resolveOnce, resolver.resolve_of_unused unused]
      · cases other
  | onClone =>
      rcases resolves with other | same
      · cases other
      · cases same
        rfl
  | cloned | told | asked => rcases resolves with other | other <;> cases other

/-- After any history that began with one unused resolver, every resolver has the marks
that the history says it has, and every action on it is answered by the history alone: a
used resolver refuses, any other resolves as if it were new. -/
theorem Reaches.single_use (fresh : first.used = false) (h : Reaches first past pool) :
    (∀ entry resolver, pool[entry]? = some resolver → Reflects first past entry resolver) ∧
      ∀ (machine : Machine) (position : Nat) (action : Action), position < pool.length →
        ∃ answer next, pool.step? machine position action = some (answer, next) ∧
          Obeys first past machine pool position action answer next := by
  refine ⟨h.reflected fresh, ?_⟩
  intro machine position action held
  obtain ⟨answer, next, step⟩ := exists_step? held machine action
  obtain ⟨resolver, held, taken⟩ := takes_of_step? step
  have marks := h.reflected fresh position resolver held
  refine ⟨answer, next, step, ?_, ?_, ?_, fun _ _ found => taken.keeps held found⟩
  · intro args resolves
    rw [taken.resolveOnce_eq resolves, Answer.resolved.injEq]
    exact (resolveOnce_of_reflects marks args).1
  · intro args resolves unused
    rw [taken.resolveOnce_eq resolves]
    obtain ⟨config, answered, same⟩ := (resolveOnce_of_reflects marks args).2 unused
    exact ⟨config, congrArg _ answered, same⟩
  · rintro rfl
    cases taken
    refine ⟨rfl, ?_⟩
    simp [held]

def bareMachine : Machine := ⟨"/w", fun _ => false, true⟩

/-- A resolver is copied, and then resolves a command line. -/
def copiedThenUsed : List Event :=
  [⟨0, .resolve [], .resolved (.ok ((Resolver.default.host bareMachine).resolve []))⟩,
    ⟨0, .clone, .clonedTo 1⟩]

/-- A resolver and a copy of it, of which only the first has resolved a command line. -/
theorem Reaches.single_use_sample :
    Resolver.default.used = false ∧
      ∃ past pool, Reaches .default past pool ∧ Used past 0 ∧ ¬ Used past 1 ∧
        (∃ next, pool.step? bareMachine 0 (.resolveOnceOnClone []) =
          some (.resolved (.error .alreadyResolved), next)) ∧
        ∃ config next, pool.step? bareMachine 1 (.resolve ["-"]) =
          some (.resolved (.ok config), next) := by
  have copied : Reaches .default [⟨0, .clone, .clonedTo 1⟩] [.default, .default] :=
    .step .start (show Pool.step? bareMachine [.default] 0 .clone = _ from rfl)
  have reached : Reaches .default copiedThenUsed
      [{ Resolver.default with used := true }, .default] :=
    .step copied (show Pool.step? bareMachine _ 0 (.resolve []) = _ from rfl)
  have used : Used copiedThenUsed 0 := .resolved
  have unused : ¬ Used copiedThenUsed 1 := by
    rw [copiedThenUsed, used_resolved_iff, used_cloned_iff]
    rintro (other | ⟨-, never⟩ | never)
    · cases other
    · cases never
    · cases never
  obtain ⟨-, obeys⟩ := reached.single_use rfl
  refine ⟨rfl, _, _, reached, used, unused, ?_, ?_⟩
  · obtain ⟨answer, next, step, h⟩ := obeys bareMachine 0 (.resolveOnceOnClone []) (by decide)
    obtain rfl := (h.refused [] (.inr rfl)).mpr used
    exact ⟨next, step⟩
  · obtain ⟨answer, next, step, h⟩ := obeys bareMachine 1 (.resolve ["-"]) (by decide)
    obtain ⟨config, rfl, -⟩ := h.resolved ["-"] (.inl rfl) unused
    exact ⟨config, next, step⟩

/-- The answers that a program gets for its actions are those of a history. -/
theorem reaches_of_runActions {actions : List (Nat × Action)} {answers : List Answer}
    (h : Reaches first past pool) (ran : pool.runActions machine actions = some answers) :
    ∃ (events : List Event) (final : Pool), Reaches first (events.reverse ++ past) final ∧
      events.map (fun event => (event.position, event.action)) = actions ∧
      events.map Event.answer = answers := by
  induction actions generalizing past pool answers with
  | nil =>
      cases ran
      exact ⟨[], pool, h, rfl, rfl⟩
  | cons head rest ih =>
      obtain ⟨position, action⟩ := head
      rw [runActions] at ran
      split at ran
      · cases ran
      next answer next step =>
        obtain ⟨others, rest_ran, rfl⟩ := Option.map_eq_some_iff.mp ran
        obtain ⟨events, final, reaches, rfl, rfl⟩ := ih (h.step step) rest_ran
        refine ⟨⟨position, action, answer⟩ :: events, final, ?_, rfl, rfl⟩
        rwa [List.reverse_cons, List.append_assoc]

end Pool

end ShellLaunch
