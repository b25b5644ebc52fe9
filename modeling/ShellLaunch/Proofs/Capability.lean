import ShellLaunch.Proofs.Refinement

/-!
# Hosts that can do more

A command line is resolved by asking its host: whether threads have apartments, how long a
pipe name may be, whether standard input is redirected, whether a path is a file. A negative
answer is always an error and never a reason to do something else. So where a resolution has
no error, a host that says yes at least as often comes to the same configuration.

What a group or an ending makes of a draft depends on the host only by how it makes a path
absolute; all that is left to compare is what is refused.
-/

namespace ShellLaunch

open Reading (upTo)

/-- What a token spells depends on the platform only by whether it is Windows. -/
theorem Switch.lookup?_congr {platform other : Platform}
    (same : other.isWindows = platform.isWindows) (token : String) :
    Switch.lookup? other token = Switch.lookup? platform token := by
  have available : ∀ s : Switch, s.isAvailable other = s.isAvailable platform := by
    intro s
    simp only [Switch.isAvailable, same]
  have lead : ∀ text, Switch.afterLead? other text = Switch.afterLead? platform text := by
    intro text
    cases text <;> simp only [Switch.afterLead?, same]
  have found : Switch.findKey? Switch.all other = Switch.findKey? Switch.all platform := by
    funext key
    simp only [Switch.findKey?, available]
  simp only [Switch.lookup?, Switch.key?, lead, found]

/-- The other host can do whatever this one can. It has the same switches, and paths begin at
the same directory. -/
structure Host.CoveredBy (host other : Host) : Prop where
  isWindows : other.platform.isWindows = host.platform.isWindows
  desktopApartments : host.platform.desktopApartments = true →
    other.platform.desktopApartments = true
  /-- A ceiling is no lower than the one it replaces, and there is none where there was none. -/
  maxPipeNameLength : ∀ ceiling ∈ other.platform.maxPipeNameLength,
    ∃ lower ∈ host.platform.maxPipeNameLength, lower ≤ ceiling
  isRedirected : host.isRedirected = true → other.isRedirected = true
  workingDirectory : other.machine.workingDirectory = host.machine.workingDirectory
  isFile : ∀ path, host.isFile path = true → other.isFile path = true

namespace Host.CoveredBy

variable {host other : Host} {draft : Draft}

theorem absolute_eq (h : host.CoveredBy other) (path : String) :
    other.absolute path = host.absolute path := by
  rw [Host.absolute, Host.absolute, h.workingDirectory]

/-! ### The same tokens have the same reading and the same effect -/

theorem group_spelled (h : host.CoveredBy other) {group : TokenGroup}
    (spelled : group.Spelled host.platform) : group.Spelled other.platform := by
  cases group with
  | dash => trivial
  | alone | withValue | fileDash => exact (Switch.lookup?_congr h.isWindows _).trans spelled

theorem ending_spelled (h : host.CoveredBy other) {ending : Ending}
    (spelled : ending.Spelled host.platform) : ending.Spelled other.platform := by
  have same := Switch.lookup?_congr h.isWindows
  cases ending with
  | exhausted => trivial
  | help | version | commandDash | crowded => exact (same _).trans spelled
  | command | file | script | unfinished => exact ⟨(same _).trans spelled.1, spelled.2⟩

theorem splits (h : host.CoveredBy other) {reading : Reading} {args : List String}
    (splits : reading.Splits host.platform args) : reading.Splits other.platform args where
  tokens_eq := splits.tokens_eq
  groups group member := h.group_spelled (splits.groups group member)
  ending := h.ending_spelled splits.ending

theorem config_eq (h : host.CoveredBy other) (reading : Reading) :
    reading.config other = reading.config host := by
  have target_eq : reading.target other = reading.target host := by
    have same : Ending.target? other = Ending.target? host := by
      funext ending
      simp only [Ending.target?, h.absolute_eq]
    rw [Reading.target, same, Reading.target]
  simp only [Reading.config, target_eq]

theorem draft_eq (h : host.CoveredBy other) (reading : Reading) :
    reading.draft other = reading.draft host := by
  rw [Reading.draft, Reading.draft, h.config_eq]

/-! ### What is not refused stays so -/

theorem apartmentRefusal?_eq_none (h : host.CoveredBy other) {requested : Apartment}
    (allowed : host.apartmentRefusal? draft requested = none) :
    other.apartmentRefusal? draft requested = none := by
  cases supported : host.platform.desktopApartments with
  | false => simp [Host.apartmentRefusal?, supported] at allowed
  | true =>
      simp only [Host.apartmentRefusal?, supported] at allowed
      simpa only [Host.apartmentRefusal?, h.desktopApartments supported] using allowed

theorem flagRefusal?_eq_none (h : host.CoveredBy other) {flag : Flag}
    (allowed : host.flagRefusal? draft flag = none) : other.flagRefusal? draft flag = none := by
  cases flag with
  | sta | mta => exact h.apartmentRefusal?_eq_none allowed
  | _ => exact allowed

theorem objection?_eq (h : host.CoveredBy other) (token : String) (parameter : Parameter) :
    other.objection? draft token parameter = host.objection? draft token parameter := by
  simp only [Host.objection?, h.isWindows]

theorem valueRefusal?_eq_none (h : host.CoveredBy other) {value : String}
    {parameter : Parameter} (allowed : host.valueRefusal? value parameter = none) :
    other.valueRefusal? value parameter = none := by
  cases parameter with
  | customPipeName =>
      cases limit : other.platform.maxPipeNameLength with
      | none => simp only [Host.valueRefusal?, limit]
      | some ceiling =>
          obtain ⟨lower, given, le⟩ := h.maxPipeNameLength ceiling limit
          have given : host.platform.maxPipeNameLength = some lower := given
          simp only [Host.valueRefusal?, given, ite_eq_right_iff, reduceCtorEq, imp_false,
            Nat.not_lt] at allowed
          simp only [Host.valueRefusal?, limit, if_neg (Nat.not_lt.mpr (Nat.le_trans allowed le))]
  | settingsFile =>
      simp only [Host.valueRefusal?, ite_eq_left_iff, reduceCtorEq, imp_false,
        Bool.not_eq_true, Bool.not_eq_false] at allowed
      simp only [Host.valueRefusal?, h.absolute_eq, h.isFile _ allowed, if_true]
  | _ => exact allowed

theorem groupRefusal?_eq_none (h : host.CoveredBy other) {group : TokenGroup}
    (allowed : host.groupRefusal? draft group = none) :
    other.groupRefusal? draft group = none := by
  cases group with
  | alone => exact h.flagRefusal?_eq_none allowed
  | dash | fileDash => exact allowed
  | withValue token parameter value =>
      obtain ⟨unobjected, valid⟩ := Option.or_eq_none_iff.mp allowed
      rw [Host.groupRefusal?, h.objection?_eq, unobjected, Option.none_or]
      exact h.valueRefusal?_eq_none valid

theorem lateRefusal?_eq_none (h : host.CoveredBy other) {ending : Ending}
    (allowed : host.lateRefusal? ending = none) : other.lateRefusal? ending = none := by
  cases ending with
  | commandDash =>
      simp only [Host.lateRefusal?, ite_eq_left_iff, reduceCtorEq, imp_false,
        Bool.not_eq_true, Bool.not_eq_false] at allowed
      simp only [Host.lateRefusal?, h.isRedirected allowed, if_true]
  | file | script =>
      simp only [Host.lateRefusal?, ite_eq_left_iff, reduceCtorEq, imp_false,
        Bool.not_eq_true, Bool.not_eq_false] at allowed
      simp only [Host.lateRefusal?, h.absolute_eq, h.isFile _ allowed, if_true]
  | _ => rfl

theorem accepts (h : host.CoveredBy other) {groups : List TokenGroup}
    (accepted : host.Accepts groups) : other.Accepts groups := by
  induction accepted with
  | nil => exact .nil
  | concat _ spelled allowed ih =>
      refine ih.concat (h.group_spelled spelled) ?_
      rw [h.draft_eq]
      exact h.groupRefusal?_eq_none allowed

theorem admits (h : host.CoveredBy other) {reading : Reading}
    (admitted : host.Admits reading) : other.Admits reading where
  groups := h.accepts admitted.groups
  spelled := h.ending_spelled admitted.spelled
  ending := by
    have whole := admitted.isWhole
    have allowed := admitted.ending
    rw [h.draft_eq]
    -- Only a switch without its value is refused for what the host says.
    cases ending : reading.ending with
    | unfinished | crowded =>
        rw [ending] at whole
        exact whole.elim
    | _ =>
        rw [ending] at allowed
        exact allowed

end Host.CoveredBy

namespace Host

variable {host other : Host} {args : List String}

/-- Where there is no error, the ending does not fail late either. -/
theorem lateRefusal?_of_error_eq_none {reading : Reading}
    (splits : reading.Splits host.platform args) (admitted : host.Admits reading)
    (h : (host.resolve args).error = none) : host.lateRefusal? reading.ending = none := by
  rw [resolve, Draft.error_freeze, run_of_admits splits admitted] at h
  cases late : host.lateRefusal? reading.ending with
  | none => rfl
  | some diagnostic =>
      simp only [late, Draft.error_fail Reading.draft_failed, reduceCtorEq] at h

theorem resolve_of_admits {reading : Reading} (splits : reading.Splits host.platform args)
    (admitted : host.Admits reading) (late : host.lateRefusal? reading.ending = none) :
    host.resolve args = reading.config host := by
  rw [resolve, run_of_admits splits admitted, late]
  exact Reading.freeze_draft

/-- A host that can do more comes to the same configuration, where the resolution has no
error. -/
theorem resolve_of_coveredBy (covered : host.CoveredBy other)
    (settled : (host.resolve args).error = none) : other.resolve args = host.resolve args := by
  have splits := Reading.splits_ofArgs host.platform args
  obtain ⟨admitted, config_eq⟩ := admits_of_error_eq_none splits settled
  have late := lateRefusal?_of_error_eq_none splits admitted settled
  have found := resolve_of_admits (covered.splits splits) (covered.admits admitted)
    (covered.lateRefusal?_eq_none late)
  rw [found, covered.config_eq, config_eq]

/-- The sample with apartments, longer pipe names and one more file. Its standard input is
found to be redirected. -/
def roomySample : Host :=
  ⟨⟨false, true, some 200⟩, .detect,
    ⟨"/w", fun path => path == "/w/run" || path == "/w/more", false⟩⟩

theorem sample_coveredBy_roomySample : sample.CoveredBy roomySample where
  isWindows := rfl
  desktopApartments _ := rfl
  maxPipeNameLength := by
    rintro ceiling ⟨⟩
    exact ⟨91, rfl, by decide⟩
  isRedirected _ := rfl
  workingDirectory := rfl
  isFile path found := Bool.or_eq_true_iff.mpr (.inl found)

/-- A pipe name, a settings file and standard input, which the sample allows already. -/
theorem resolve_of_coveredBy_sample :
    sample.CoveredBy roomySample ∧
      (sample.resolve ["-cus", "pipe", "-settings", "run", "-c", "-"]).error = none ∧
      roomySample.resolve ["-cus", "pipe", "-settings", "run", "-c", "-"] =
        sample.resolve ["-cus", "pipe", "-settings", "run", "-c", "-"] :=
  have settled : (sample.resolve ["-cus", "pipe", "-settings", "run", "-c", "-"]).error =
      none := by
    decide +kernel
  ⟨sample_coveredBy_roomySample, settled,
    resolve_of_coveredBy sample_coveredBy_roomySample settled⟩

end Host

end ShellLaunch
