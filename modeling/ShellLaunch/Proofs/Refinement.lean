import ShellLaunch.Proofs.Resolution

/-!
# A resolution is a reading

A resolution goes over its command line once and changes one draft along the way. Where it
ends without an error, the result can be told without any of that: the command line has one
reading, the reading is coherent, and every field of the configuration is a function of it.
-/

namespace ShellLaunch

open Reading (upTo)

/-- What a reading says fits together, and each value is one that its switch takes. -/
structure Reading.Coherent (host : Host) (reading : Reading) : Prop where
  whole : reading.ending.IsWhole
  /-- At most one group, the ending included, says what the host runs. -/
  sources : reading.sources ≤ 1
  transports : ∀ requested ∈ reading.transports, requested = reading.transport
  apartments : ∀ requested ∈ reading.apartments, reading.apartment? = some requested
  values : ∀ parameter, ∀ value ∈ reading.values parameter,
    host.valueRefusal? value parameter = none

namespace Host

variable {host : Host} {reading : Reading} {args : List String}

/-- An ending that says what the host runs is admitted only where no group does. -/
theorem Admits.hasScriptTarget_of_isSource (h : host.Admits reading)
    (source : reading.ending.isSource = true) :
    ((upTo reading.groups).draft host).hasScriptTarget = false := by
  have accepted := h.ending
  cases ending : reading.ending with
  | commandDash | command | file | script =>
      rw [ending] at accepted
      exact Draft.targetObjection?_eq_none_iff.mp accepted
  | _ =>
      rw [ending] at source
      cases source

theorem Admits.sources_le_one (h : host.Admits reading) : reading.sources ≤ 1 := by
  rw [Reading.sources, h.groups.countP_isSource]
  cases source : reading.ending.isSource with
  | true => simp [h.hasScriptTarget_of_isSource source]
  | false => simpa using Bool.toNat_le _

theorem Admits.coherent (h : host.Admits reading) : reading.Coherent host where
  whole := h.isWhole
  sources := h.sources_le_one
  transports := h.groups.transports
  apartments := h.groups.apartments
  values := h.groups.values

/-- Where nothing is wrong with a command line, its one reading is admitted, and the
configuration is the one that the reading asks for. -/
theorem admits_of_error_eq_none (splits : reading.Splits host.platform args)
    (h : (host.resolve args).error = none) :
    host.Admits reading ∧ host.resolve args = reading.config host := by
  have outcome := outcome_of_splits splits
  rw [resolve, Draft.error_freeze] at h
  rw [resolve]
  generalize host.run .initial args = final at outcome h
  cases outcome with
  | done admitted => exact ⟨admitted, Reading.freeze_draft⟩
  | refused | late =>
      rw [Draft.error_fail rfl] at h
      cases h

/-- A resolution without an error reads its command line in the only way there is, and
each field of the configuration is what that reading says. -/
theorem resolve_eq_config (h : (host.resolve args).error = none) :
    ∃ reading : Reading, reading.Splits host.platform args ∧
      (∀ other : Reading, other.Splits host.platform args → other = reading) ∧
      reading.Coherent host ∧ host.resolve args = reading.config host := by
  have splits := Reading.splits_ofArgs host.platform args
  obtain ⟨admitted, config_eq⟩ := admits_of_error_eq_none splits h
  refine ⟨_, splits, ?_, admitted.coherent, config_eq⟩
  intro other also
  exact Reading.splits_iff.mp also

/-- A value that looks like a switch, then a script file and an argument for it. -/
theorem resolve_eq_config_sample :
    (sample.resolve ["-noexit", "-wd", "-c", "run", "-c"]).error = none ∧
      ∃ reading : Reading, reading.Splits .unix ["-noexit", "-wd", "-c", "run", "-c"] ∧
        (∀ other : Reading,
          other.Splits .unix ["-noexit", "-wd", "-c", "run", "-c"] → other = reading) ∧
        reading.Coherent sample ∧
        sample.resolve ["-noexit", "-wd", "-c", "run", "-c"] = reading.config sample :=
  have settled : (sample.resolve ["-noexit", "-wd", "-c", "run", "-c"]).error = none := by
    decide +kernel
  ⟨settled, resolve_eq_config settled⟩

end Host

end ShellLaunch
