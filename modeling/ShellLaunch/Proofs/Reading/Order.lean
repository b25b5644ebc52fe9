import ShellLaunch.Proofs.Reading.Accepted

/-!
# The order of two groups

Two neighbouring groups of different switches can change places. Either they write different
fields of the draft, or they exclude each other, like two kinds of server, and then the second
is refused whichever comes first. The one exception is the pair of switches that say whether
the user is asked anything, of which the last one counts.

`Reading.draft_swap` is about the draft, `Host.groupRefusal?_add` about what is refused, and
`Host.accepts_swap` puts the two together.
-/

namespace ShellLaunch

open Reading (upTo)

namespace Flag

variable {first second : Flag}

/-- Each server is asked for by one switch. -/
theorem eq_of_transport? {requested : Transport} (asks : first.transport? = some requested)
    (also : second.transport? = some requested) : first = second := by
  cases first <;> cases asks <;> cases second <;> cases also <;> rfl

theorem eq_of_apartment? {requested : Apartment} (asks : first.apartment? = some requested)
    (also : second.apartment? = some requested) : first = second := by
  cases first <;> cases asks <;> cases second <;> cases also <;> rfl

end Flag

namespace TokenGroup

/-- The switch of a group. Asking for standard input counts as the switch for a script file,
with or without it. -/
def switch : TokenGroup → Switch
  | alone _ flag => .flag flag
  | withValue _ parameter _ => .parameter parameter
  | dash | fileDash _ => .file

/-- The groups are of different switches, and not of the two that say whether the user is
asked. -/
structure Independent (left right : TokenGroup) : Prop where
  switch_ne : left.switch ≠ right.switch
  interactive : left.switch = .flag .interactive → right.switch ≠ .flag .nonInteractive
  nonInteractive : left.switch = .flag .nonInteractive → right.switch ≠ .flag .interactive

/-- Of the two groups at most one can be accepted. -/
structure Exclusive (left right : TokenGroup) : Prop where
  switch_ne : left.switch ≠ right.switch
  kind : (left.isSource = true ∧ right.isSource = true) ∨
    ((left.flag?.bind Flag.transport?).isSome = true ∧
      (right.flag?.bind Flag.transport?).isSome = true) ∨
    ((left.flag?.bind Flag.apartment?).isSome = true ∧
      (right.flag?.bind Flag.apartment?).isSome = true)

variable {left right : TokenGroup}

theorem Independent.symm (h : left.Independent right) : right.Independent left where
  switch_ne := h.switch_ne.symm
  interactive asks answer := h.nonInteractive answer asks
  nonInteractive answer asks := h.interactive asks answer

theorem Exclusive.symm (h : left.Exclusive right) : right.Exclusive left where
  switch_ne := h.switch_ne.symm
  kind := by
    rcases h.kind with ⟨first, second⟩ | ⟨first, second⟩ | ⟨first, second⟩
    · exact .inl ⟨second, first⟩
    · exact .inr (.inl ⟨second, first⟩)
    · exact .inr (.inr ⟨second, first⟩)

theorem switch_of_flag? {group : TokenGroup} {flag : Flag} (h : group.flag? = some flag) :
    group.switch = .flag flag := by
  cases group <;> cases h
  rfl

theorem switch_of_valueOf? {group : TokenGroup} {parameter : Parameter} {value : String}
    (h : group.valueOf? parameter = some value) : group.switch = .parameter parameter := by
  cases group with
  | alone | dash | fileDash => cases h
  | withValue token given text =>
      simp only [valueOf?, Option.ite_none_right_eq_some] at h
      exact congrArg Switch.parameter h.1

/-- At most one of two groups of different switches gives a value for a parameter. -/
theorem valueOf?_eq_none (h : left.switch ≠ right.switch) (parameter : Parameter) :
    left.valueOf? parameter = none ∨ right.valueOf? parameter = none := by
  cases first : left.valueOf? parameter with
  | none => exact .inl rfl
  | some =>
      cases second : right.valueOf? parameter with
      | none => exact .inr rfl
      | some => exact absurd ((switch_of_valueOf? first).trans (switch_of_valueOf? second).symm) h

theorem switch_of_nonInteractive? {group : TokenGroup} {answer : Bool}
    (h : group.flag?.bind Flag.nonInteractive? = some answer) :
    group.switch = .flag .interactive ∨ group.switch = .flag .nonInteractive := by
  obtain ⟨flag, flag_eq, answer_eq⟩ := Option.bind_eq_some_iff.mp h
  rw [switch_of_flag? flag_eq]
  cases flag with
  | interactive => exact .inl rfl
  | nonInteractive => exact .inr rfl
  | _ => cases answer_eq

/-- Two groups that make the same request are of the same switch, where each request is that
of one switch. -/
theorem switch_eq_of_request {α : Type} {request? : Flag → Option α} {requested : α}
    (one : ∀ {first second : Flag}, request? first = some requested →
      request? second = some requested → first = second)
    (asks : left.flag?.bind request? = some requested)
    (also : right.flag?.bind request? = some requested) : left.switch = right.switch := by
  obtain ⟨first, first_eq, asks⟩ := Option.bind_eq_some_iff.mp asks
  obtain ⟨second, second_eq, also⟩ := Option.bind_eq_some_iff.mp also
  rw [switch_of_flag? first_eq, switch_of_flag? second_eq, one asks also]

/-- At most one of two independent groups tells whether the user is asked. -/
theorem Independent.nonInteractive?_eq_none (h : left.Independent right) :
    left.flag?.bind Flag.nonInteractive? = none ∨
      right.flag?.bind Flag.nonInteractive? = none := by
  cases first : left.flag?.bind Flag.nonInteractive? with
  | none => exact .inl rfl
  | some =>
      cases second : right.flag?.bind Flag.nonInteractive? with
      | none => exact .inr rfl
      | some =>
          exfalso
          rcases switch_of_nonInteractive? first with first | first <;>
            rcases switch_of_nonInteractive? second with second | second
          · exact h.switch_ne (first.trans second.symm)
          · exact h.interactive first second
          · exact h.nonInteractive first second
          · exact h.switch_ne (first.trans second.symm)

/-- At most one of two groups makes a request of a kind that both cannot make. -/
theorem request_eq_none {α : Type} {request? : Flag → Option α}
    (h : ¬ ((left.flag?.bind request?).isSome = true ∧
      (right.flag?.bind request?).isSome = true)) :
    left.flag?.bind request? = none ∨ right.flag?.bind request? = none := by
  cases first : left.flag?.bind request? with
  | none => exact .inl rfl
  | some =>
      cases second : right.flag?.bind request? with
      | none => exact .inr rfl
      | some => exact absurd ⟨by rw [first]; rfl, by rw [second]; rfl⟩ h

theorem transport?_eq_none (different : left.switch ≠ right.switch)
    (h : ¬ left.Exclusive right) :
    left.flag?.bind Flag.transport? = none ∨ right.flag?.bind Flag.transport? = none :=
  request_eq_none fun both => h ⟨different, .inr (.inl both)⟩

theorem apartment?_eq_none (different : left.switch ≠ right.switch)
    (h : ¬ left.Exclusive right) :
    left.flag?.bind Flag.apartment? = none ∨ right.flag?.bind Flag.apartment? = none :=
  request_eq_none fun both => h ⟨different, .inr (.inr both)⟩

end TokenGroup

namespace Reading

variable {host : Host} {reading : Reading} {left right : TokenGroup}

/-- Where at most one of two values is there, it does not matter which is looked at first. -/
theorem or_left_comm {α : Type} {first second : Option α} (h : first = none ∨ second = none)
    (other : Option α) : second.or (first.or other) = first.or (second.or other) := by
  rcases h with rfl | rfl
  · simp
  · simp

theorem getD_left_comm {α : Type} {first second : Option α} (h : first = none ∨ second = none)
    (other : α) : second.getD (first.getD other) = first.getD (second.getD other) := by
  rcases h with rfl | rfl
  · simp
  · simp

/-- The draft of a reading is told by these fields alone. -/
theorem draft_congr {first second : Reading} (ending : first.ending = second.ending)
    (has : first.has = second.has) (lastValue? : first.lastValue? = second.lastValue?)
    (transport : first.transport = second.transport)
    (apartment? : first.apartment? = second.apartment?)
    (nonInteractive? : first.nonInteractive? = second.nonInteractive?)
    (args : first.args = second.args) (readsStdin : first.readsStdin = second.readsStdin) :
    first.draft host = second.draft host := by
  simp only [draft, config, target, ending, has, lastValue?, transport, apartment?,
    nonInteractive?, args, readsStdin]

/-- Two groups that are independent, and do not exclude each other, can change places. -/
theorem draft_swap (exhausted : reading.ending = .exhausted) (h : left.Independent right)
    (compatible : ¬ left.Exclusive right) :
    ((reading.add left).add right).draft host = ((reading.add right).add left).draft host := by
  have value := TokenGroup.valueOf?_eq_none h.switch_ne
  apply draft_congr
  case ending => rfl
  case has =>
    funext flag
    simp only [has_add, Bool.or_right_comm]
  case lastValue? =>
    funext parameter
    simp only [lastValue?_add, or_left_comm (value parameter)]
  case transport =>
    simp only [transport_add, getD_left_comm (TokenGroup.transport?_eq_none h.switch_ne compatible)]
  case apartment? =>
    simp only [apartment?_add, or_left_comm (TokenGroup.apartment?_eq_none h.switch_ne compatible)]
  case nonInteractive? => simp only [nonInteractive?_add, or_left_comm h.nonInteractive?_eq_none]
  case args =>
    have exhaustedLeft : (reading.add left).ending = .exhausted := exhausted
    have exhaustedRight : (reading.add right).ending = .exhausted := exhausted
    rw [args_add exhaustedLeft, args_add exhaustedRight, args_add exhausted, args_add exhausted]
    rcases value .encodedArguments with noLeft | noRight
    · simp [noLeft]
    · simp [noRight]
  case readsStdin => simp only [readsStdin_add, Bool.or_right_comm]

end Reading

namespace Host

variable {host : Host} {reading : Reading} {left right group : TokenGroup}
variable {groups more : List TokenGroup}

/-! ### What is refused -/

/-- What a group is refused for is looked up in few places of the draft. -/
theorem groupRefusal?_congr {draft other : Draft}
    (transport : (group.flag?.bind Flag.transport?).isSome = true →
      other.config.transport = draft.config.transport)
    (apartment : (group.flag?.bind Flag.apartment?).isSome = true →
      other.config.apartment = draft.config.apartment)
    (target : group.isSource = true → other.hasScriptTarget = draft.hasScriptTarget) :
    host.groupRefusal? other group = host.groupRefusal? draft group := by
  cases group with
  | dash | fileDash => simp only [groupRefusal?, Draft.targetObjection?, target rfl]
  | withValue token parameter value =>
      cases parameter with
      | encodedCommand =>
          simp only [groupRefusal?, objection?, Draft.targetObjection?, target rfl]
      | _ => rfl
  | alone token flag =>
      cases flag with
      | sta | mta =>
          simp only [groupRefusal?, flagRefusal?, Flag.transport?, Flag.apartment?,
            apartmentRefusal?, apartment rfl]
      | socketServerMode | namedPipeServerMode | sshServerMode | serverMode =>
          simp only [groupRefusal?, flagRefusal?, Flag.transport?, Draft.transportRefusal?,
            transport rfl]
      | _ => rfl

theorem hasScriptTarget_add_of_not_isSource (exhausted : reading.ending = .exhausted)
    (other : group.isSource = false) :
    ((reading.add group).draft host).hasScriptTarget =
      (reading.draft host).hasScriptTarget := by
  simp only [Draft.hasScriptTarget, Reading.draft, Reading.config, Reading.readsStdin_add,
    Reading.target_add exhausted, TokenGroup.readsStdin_of_not_isSource other,
    TokenGroup.valueOf?_of_not_isSource other]
  simp

/-- A group is not refused for another one that it does not exclude. -/
theorem groupRefusal?_add (exhausted : reading.ending = .exhausted)
    (different : left.switch ≠ right.switch) (compatible : ¬ left.Exclusive right) :
    host.groupRefusal? ((reading.add left).draft host) right =
      host.groupRefusal? (reading.draft host) right := by
  apply groupRefusal?_congr
  · intro asks
    have transport_eq := Reading.transport_add reading left
    rcases TokenGroup.transport?_eq_none different compatible with none | none
    · rwa [none] at transport_eq
    · rw [none] at asks
      cases asks
  · intro asks
    have apartment_eq := Reading.apartment?_add reading left
    rcases TokenGroup.apartment?_eq_none different compatible with none | none
    · rwa [none, Option.none_or] at apartment_eq
    · rw [none] at asks
      cases asks
  · intro source
    cases other : left.isSource with
    | false => exact hasScriptTarget_add_of_not_isSource exhausted other
    | true => exact absurd ⟨different, .inl ⟨other, source⟩⟩ compatible

/-- Of two groups that exclude each other, the second is refused if the first is not. -/
theorem groupRefusal?_ne_none (exhausted : reading.ending = .exhausted)
    (exclusive : left.Exclusive right)
    (accepted : host.groupRefusal? (reading.draft host) left = none) :
    host.groupRefusal? ((reading.add left).draft host) right ≠ none := by
  intro also
  rcases exclusive.kind with ⟨source, alsoSource⟩ | ⟨asks, alsoAsks⟩ | ⟨asks, alsoAsks⟩
  · have settled := hasScriptTarget_add exhausted accepted
    rw [hasScriptTarget_of_isSource also alsoSource, source] at settled
    cases settled
  · obtain ⟨earlier, asks⟩ := Option.isSome_iff_exists.mp asks
    obtain ⟨requested, alsoAsks⟩ := Option.isSome_iff_exists.mp alsoAsks
    have asked : (reading.add left).transports.getLast? = some earlier := by
      rw [Reading.transports, Reading.getLast?_requests_add, asks, Option.some_or]
    obtain rfl := transport_of_accepted also alsoAsks asked
    exact exclusive.switch_ne
      (TokenGroup.switch_eq_of_request Flag.eq_of_transport? asks alsoAsks)
  · obtain ⟨earlier, asks⟩ := Option.isSome_iff_exists.mp asks
    obtain ⟨requested, alsoAsks⟩ := Option.isSome_iff_exists.mp alsoAsks
    have asked : ((reading.add left).draft host).config.apartment = some earlier := by
      have apartment_eq := Reading.apartment?_add reading left
      rwa [asks, Option.some_or] at apartment_eq
    obtain rfl := (apartment_of_accepted also alsoAsks).2 earlier asked
    exact exclusive.switch_ne
      (TokenGroup.switch_eq_of_request Flag.eq_of_apartment? asks alsoAsks)

/-! ### What is accepted -/

theorem accepts_concat_iff :
    host.Accepts (groups ++ [group]) ↔
      host.Accepts groups ∧ group.Spelled host.platform ∧
        host.groupRefusal? ((upTo groups).draft host) group = none := by
  constructor
  · intro h
    generalize all_eq : groups ++ [group] = all at h
    cases h with
    | nil => simp at all_eq
    | concat before spelled accepted =>
        obtain ⟨rfl, last⟩ := List.append_inj' all_eq rfl
        obtain rfl := List.singleton_inj.mp last
        exact ⟨before, spelled, accepted⟩
  · rintro ⟨before, spelled, accepted⟩
    exact before.concat spelled accepted

/-- What is accepted is accepted group after group. -/
theorem Accepts.of_prefix (h : host.Accepts more) (front : groups <+: more) :
    host.Accepts groups := by
  induction h with
  | nil =>
      rw [List.prefix_nil.mp front]
      exact .nil
  | concat before spelled accepted ih =>
      rcases List.prefix_concat_iff.mp front with rfl | shorter
      · exact before.concat spelled accepted
      · exact ih shorter

/-- Two groups that are accepted one after the other are not exclusive, and are accepted the
other way round. -/
theorem accepts_swap (independent : left.Independent right)
    (h : host.Accepts (groups ++ [left, right])) :
    ¬ left.Exclusive right ∧ host.Accepts (groups ++ [right, left]) := by
  rw [List.append_cons] at h ⊢
  obtain ⟨h, rightSpelled, rightAccepted⟩ := accepts_concat_iff.mp h
  obtain ⟨before, leftSpelled, leftAccepted⟩ := accepts_concat_iff.mp h
  rw [Reading.upTo_concat] at rightAccepted
  have compatible : ¬ left.Exclusive right :=
    fun exclusive => groupRefusal?_ne_none rfl exclusive leftAccepted rightAccepted
  rw [groupRefusal?_add rfl independent.switch_ne compatible] at rightAccepted
  refine ⟨compatible, (before.concat rightSpelled rightAccepted).concat leftSpelled ?_⟩
  rw [Reading.upTo_concat, groupRefusal?_add rfl independent.symm.switch_ne
    fun exclusive => compatible exclusive.symm]
  exact leftAccepted

theorem draft_upTo_swap (independent : left.Independent right)
    (compatible : ¬ left.Exclusive right) :
    (upTo (groups ++ [left, right])).draft host = (upTo (groups ++ [right, left])).draft host := by
  rw [List.append_cons, List.append_cons groups right, Reading.upTo_concat, Reading.upTo_concat,
    Reading.upTo_concat, Reading.upTo_concat]
  exact Reading.draft_swap rfl independent compatible

end Host

end ShellLaunch
