import ShellLaunch.Proofs.Reading.Step

/-!
# Groups that are accepted

A command line is read as far as its groups are accepted, each in the draft that the
groups before it left. Either all of them are, and the draft is that of the reading so
far, or there is a first one that is refused (`Host.accepts_or_refused`).

What is accepted fits together: at most one group says what the host runs, all servers
that are asked for are the same, and so are all apartments.
-/

namespace ShellLaunch.Host

open Reading (upTo)

/-- The groups are read one after the other, and none is refused. -/
inductive Accepts (host : Host) : List TokenGroup → Prop where
  | nil : host.Accepts []
  | concat {groups : List TokenGroup} {group : TokenGroup} (before : host.Accepts groups)
      (spelled : group.Spelled host.platform)
      (accepted : host.groupRefusal? ((upTo groups).draft host) group = none) :
      host.Accepts (groups ++ [group])

variable {host : Host} {groups : List TokenGroup}

namespace Accepts

theorem spelled (h : host.Accepts groups) : ∀ group ∈ groups, group.Spelled host.platform := by
  induction h with
  | nil => simp
  | concat _ spelled _ ih =>
      intro group member
      rcases List.mem_append.mp member with member | member
      · exact ih group member
      · rwa [List.mem_singleton.mp member]

/-- Each of the groups is accepted in some draft. -/
theorem accepted (h : host.Accepts groups) :
    ∀ group ∈ groups, ∃ draft, host.groupRefusal? draft group = none := by
  induction h with
  | nil => simp
  | concat _ _ accepted ih =>
      intro group member
      rcases List.mem_append.mp member with member | member
      · exact ih group member
      · rw [List.mem_singleton.mp member]
        exact ⟨_, accepted⟩

end Accepts

/-- More groups are all accepted, or read up to the first that is not. -/
theorem accepts_append_or_refused (h : host.Accepts groups) {more : List TokenGroup}
    (spelled : ∀ group ∈ more, group.Spelled host.platform) :
    host.Accepts (groups ++ more) ∨
      ∃ before group after diagnostic, more = before ++ group :: after ∧
        host.Accepts (groups ++ before) ∧
        host.groupRefusal? ((upTo (groups ++ before)).draft host) group = some diagnostic := by
  induction more generalizing groups with
  | nil => exact .inl (by rwa [List.append_nil])
  | cons group more ih =>
      cases refusal : host.groupRefusal? ((upTo groups).draft host) group with
      | some diagnostic =>
          refine .inr ⟨[], group, more, diagnostic, rfl, ?_, ?_⟩ <;> rwa [List.append_nil]
      | none =>
          have longer := h.concat (spelled group List.mem_cons_self) refusal
          rw [List.append_cons]
          rcases ih longer fun other member => spelled other (List.mem_cons_of_mem _ member) with
            accepted | ⟨before, other, after, diagnostic, rfl, accepted, refused⟩
          · exact .inl accepted
          · rw [← List.append_cons] at accepted refused
            exact .inr ⟨group :: before, other, after, diagnostic, rfl, accepted, refused⟩

theorem accepts_or_refused (spelled : ∀ group ∈ groups, group.Spelled host.platform) :
    host.Accepts groups ∨
      ∃ before group after diagnostic, groups = before ++ group :: after ∧
        host.Accepts before ∧
        host.groupRefusal? ((upTo before).draft host) group = some diagnostic :=
  accepts_append_or_refused .nil spelled

/-- A run goes past groups that are accepted, and its draft is then that of their reading. -/
theorem run_accepted (h : host.Accepts groups) (rest : List String) :
    host.run .initial (TokenGroup.tokensOf groups ++ rest) =
      host.run ((upTo groups).draft host) rest := by
  induction h generalizing rest with
  | nil => rfl
  | @concat groups group _ spelled accepted ih =>
      rw [TokenGroup.tokensOf_append, List.append_assoc, ih, TokenGroup.tokensOf_cons,
        TokenGroup.tokensOf_nil, List.append_nil, run_group spelled,
        Reading.apply_draft rfl accepted, Reading.upTo_concat]
      simp

/-- A run stops at the first group that is refused, and leaves its diagnostic. -/
theorem run_refused {group : TokenGroup} {diagnostic : Diagnostic} (h : host.Accepts groups)
    (spelled : group.Spelled host.platform)
    (refused : host.groupRefusal? ((upTo groups).draft host) group = some diagnostic)
    (rest : List String) :
    host.run .initial (TokenGroup.tokensOf groups ++ (group.tokens ++ rest)) =
      ((upTo groups).draft host).fail diagnostic := by
  rw [run_accepted h, run_group spelled, apply_of_refusal refused]
  simp

/-! ### What is accepted fits together -/

/-- A group that says what the host runs is accepted only where nothing else did. -/
theorem hasScriptTarget_of_isSource {reading : Reading} {group : TokenGroup}
    (accepted : host.groupRefusal? (reading.draft host) group = none)
    (source : group.isSource = true) : (reading.draft host).hasScriptTarget = false := by
  cases group with
  | alone => cases source
  | dash | fileDash => exact Draft.targetObjection?_eq_none_iff.mp accepted
  | withValue token parameter value =>
      cases parameter with
      | encodedCommand =>
          exact Draft.targetObjection?_eq_none_iff.mp (Option.or_eq_none_iff.mp accepted).1
      | _ => cases source

/-- It is settled what the host runs as soon as a group says so. -/
theorem hasScriptTarget_add {reading : Reading} (exhausted : reading.ending = .exhausted)
    {group : TokenGroup} (accepted : host.groupRefusal? (reading.draft host) group = none) :
    ((reading.add group).draft host).hasScriptTarget =
      (group.isSource || (reading.draft host).hasScriptTarget) := by
  simp only [Draft.hasScriptTarget, Reading.draft, Reading.config, Reading.readsStdin_add,
    Reading.target_add exhausted]
  cases group with
  | alone | dash | fileDash =>
      simp [TokenGroup.isSource, TokenGroup.valueOf?, TokenGroup.readsStdin]
  | withValue token parameter value =>
      have valid := (Option.or_eq_none_iff.mp accepted).2
      cases parameter with
      | encodedCommand =>
          cases decoded : Encoding.decodeCommand value with
          | ok text =>
              simp [TokenGroup.isSource, TokenGroup.valueOf?, Reading.decodedTarget, decoded]
          | error => simp [valueRefusal?, decoded] at valid
      | _ => simp [TokenGroup.isSource, TokenGroup.valueOf?, TokenGroup.readsStdin]

/-- At most one accepted group says what the host runs, and the draft knows whether one
does. -/
theorem Accepts.countP_isSource (h : host.Accepts groups) :
    groups.countP TokenGroup.isSource = ((upTo groups).draft host).hasScriptTarget.toNat := by
  induction h with
  | nil => rfl
  | @concat groups group _ _ accepted ih =>
      rw [List.countP_append, List.countP_singleton, ih, Reading.upTo_concat,
        hasScriptTarget_add rfl accepted]
      cases source : group.isSource with
      | true => simp [hasScriptTarget_of_isSource accepted source]
      | false => simp

/-- A server is accepted where none is asked for yet, or the same one. -/
theorem transport_of_accepted {reading : Reading} {group : TokenGroup}
    {requested earlier : Transport}
    (accepted : host.groupRefusal? (reading.draft host) group = none)
    (asks : group.flag?.bind Flag.transport? = some requested)
    (asked : reading.transports.getLast? = some earlier) : earlier = requested := by
  obtain ⟨flag, given, asks⟩ := Option.bind_eq_some_iff.mp asks
  have current : (reading.draft host).config.transport = earlier := by
    simp [Reading.draft, Reading.config, Reading.transport, asked]
  have served : earlier ≠ .console :=
    Reading.ne_console_of_mem_transports (List.mem_of_getLast? asked)
  cases group with
  | withValue | dash | fileDash => cases given
  | alone token other =>
      cases given
      rw [groupRefusal?, flagRefusal?_of_transport? asks, Draft.transportRefusal?,
        current] at accepted
      by_cases same : earlier = requested
      · exact same
      · simp [served, same] at accepted

/-- An apartment is accepted where threads have apartments and none is asked for yet, or
the same one. -/
theorem apartment_of_accepted {draft : Draft} {group : TokenGroup} {requested : Apartment}
    (accepted : host.groupRefusal? draft group = none)
    (asks : group.flag?.bind Flag.apartment? = some requested) :
    host.platform.desktopApartments = true ∧
      ∀ earlier, draft.config.apartment = some earlier → earlier = requested := by
  obtain ⟨flag, given, asks⟩ := Option.bind_eq_some_iff.mp asks
  cases group with
  | withValue | dash | fileDash => cases given
  | alone token other =>
      cases given
      rw [groupRefusal?, flagRefusal?_of_apartment? asks] at accepted
      simp only [apartmentRefusal?] at accepted
      split at accepted
      · cases accepted
      rename_i supported
      split at accepted
      · cases accepted
      rename_i fits
      refine ⟨by simpa using supported, ?_⟩
      intro earlier asked
      simpa [asked] using fits

/-- All requests of a kind are the same where each is accepted only after itself. -/
theorem Accepts.getLast?_requests {α : Type} {request? : Flag → Option α}
    (h : host.Accepts groups)
    (fits : ∀ {reading : Reading} {group : TokenGroup} {requested earlier : α},
      host.groupRefusal? (reading.draft host) group = none →
      group.flag?.bind request? = some requested →
      (reading.flags.filterMap request?).getLast? = some earlier → earlier = requested) :
    ∀ requested ∈ (upTo groups).flags.filterMap request?,
      ((upTo groups).flags.filterMap request?).getLast? = some requested := by
  induction h with
  | nil => simp [Reading.flags, upTo]
  | @concat groups group _ _ accepted ih =>
      intro requested member
      rw [Reading.upTo_concat, Reading.getLast?_requests_add]
      rw [Reading.upTo_concat, Reading.requests_add] at member
      cases asks : group.flag?.bind request? with
      | none =>
          simp only [asks, Option.toList_none, List.append_nil] at member
          exact ih requested member
      | some current =>
          simp only [asks, Option.toList_some, List.mem_append, List.mem_singleton] at member
          rcases member with earlier | now
          · rw [fits accepted asks (ih requested earlier), Option.some_or]
          · rw [now, Option.some_or]

/-- All servers that are asked for are the same. -/
theorem Accepts.transports (h : host.Accepts groups) :
    ∀ requested ∈ (upTo groups).transports, requested = (upTo groups).transport := by
  intro requested member
  have last : (upTo groups).transports.getLast? = some requested :=
    h.getLast?_requests transport_of_accepted requested member
  rw [Reading.transport, last, Option.getD_some]

/-- All apartments that are asked for are the same. -/
theorem Accepts.apartments (h : host.Accepts groups) :
    ∀ requested ∈ (upTo groups).apartments, (upTo groups).apartment? = some requested :=
  h.getLast?_requests fun accepted asks asked => (apartment_of_accepted accepted asks).2 _ asked

/-- Where an apartment is asked for, threads have apartments. -/
theorem Accepts.desktopApartments (h : host.Accepts groups) {requested : Apartment}
    (asked : requested ∈ (upTo groups).apartments) : host.platform.desktopApartments = true := by
  obtain ⟨flag, member, asks⟩ := List.mem_filterMap.mp asked
  obtain ⟨group, member, given⟩ := List.mem_filterMap.mp member
  obtain ⟨draft, accepted⟩ := h.accepted group member
  exact (apartment_of_accepted accepted (Option.bind_eq_some_iff.mpr ⟨flag, given, asks⟩)).1

/-- Where a window style is asked for, there are windows. -/
theorem Accepts.isWindows_of_windowStyle (h : host.Accepts groups) {value : String}
    (asked : value ∈ (upTo groups).values .windowStyle) : host.platform.isWindows = true := by
  obtain ⟨group, member, given⟩ := List.mem_filterMap.mp asked
  obtain ⟨draft, accepted⟩ := h.accepted group member
  cases group with
  | alone | dash | fileDash => cases given
  | withValue token parameter text =>
      simp only [TokenGroup.valueOf?, Option.ite_none_right_eq_some] at given
      rw [given.1] at accepted
      have allowed := (Option.or_eq_none_iff.mp accepted).1
      simpa [objection?] using allowed

/-- The switch that cuts the working directory is spelled on Windows only. -/
theorem Accepts.isWindows_of_has (h : host.Accepts groups)
    (asked : (upTo groups).has .removeWorkingDirectoryTrailingCharacter = true) :
    host.platform.isWindows = true := by
  obtain ⟨group, member, given⟩ := List.mem_filterMap.mp (List.contains_iff_mem.mp asked)
  have spelled := h.spelled group member
  cases group with
  | withValue | dash | fileDash => cases given
  | alone token flag =>
      cases given
      exact Switch.isAvailable_of_lookup? spelled

/-- Commands come from standard input only where nothing is selected to run. -/
theorem Accepts.target_of_readsStdin (h : host.Accepts groups)
    (reads : (upTo groups).readsStdin = true) : (upTo groups).target host = .none := by
  induction h with
  | nil => rfl
  | @concat groups group _ _ accepted ih =>
      rw [Reading.upTo_concat, Reading.target_add rfl]
      rw [Reading.upTo_concat, Reading.readsStdin_add] at reads
      cases source : group.isSource with
      | true =>
          have settled := hasScriptTarget_of_isSource accepted source
          obtain ⟨noTarget, noStdin⟩ := Reading.hasScriptTarget_eq_false_iff.mp settled
          rw [noStdin, Bool.false_or] at reads
          cases group with
          | alone | withValue => cases reads
          | dash | fileDash => exact noTarget
      | false =>
          rw [TokenGroup.readsStdin_of_not_isSource source, Bool.or_false] at reads
          rw [TokenGroup.valueOf?_of_not_isSource source]
          exact ih reads

/-- Every value that is accepted is one that its switch takes. -/
theorem Accepts.values (h : host.Accepts groups) (parameter : Parameter) :
    ∀ value ∈ (upTo groups).values parameter, host.valueRefusal? value parameter = none := by
  intro value member
  obtain ⟨group, member, given⟩ := List.mem_filterMap.mp member
  obtain ⟨draft, accepted⟩ := h.accepted group member
  cases group with
  | alone | dash | fileDash => cases given
  | withValue token other text =>
      simp only [TokenGroup.valueOf?, Option.ite_none_right_eq_some, Option.some.injEq] at given
      obtain ⟨rfl, rfl⟩ := given
      exact (Option.or_eq_none_iff.mp accepted).2

end ShellLaunch.Host
