import ShellLaunch.Program.Outcome

/-!
# Settings that load can be used

Settings are validated when they are loaded, and a platform is chosen with them later, by
other code. The two agree: settings that load give a possible platform for every choice,
and those that do not load would describe one that is not possible, or have a malformed
filter.

What overrides make of a platform is said first by rules (`Overrides.Overlays`), so that
it is the capabilities with the overrides, and not the overrides, that have to fit together.
-/

namespace ShellLaunch

/-- A platform as there can be one: only Windows has desktop apartments, and where pipe
names have a ceiling, it leaves room for a name. -/
structure Platform.IsPossible (platform : Platform) : Prop where
  isWindows : platform.desktopApartments = true → platform.isWindows = true
  ceiling : platform.maxPipeNameLength ≠ some 0

namespace Platform

theorem isPossible_unix : unix.IsPossible := ⟨nofun, by decide⟩

theorem isPossible_windowsDesktop : windowsDesktop.IsPossible := ⟨fun _ => rfl, nofun⟩

theorem isPossible_windowsCore : windowsCore.IsPossible := ⟨nofun, nofun⟩

theorem isPossible_current : current.IsPossible := isPossible_unix

end Platform

/-! ### Overlays -/

namespace Overrides

/-- What becomes of a capability: it is pinned, or it stays as it is. -/
inductive Pins {α : Type} : Option α → α → α → Prop where
  | pinned {base value : α} : Pins (some value) base value
  | kept {base : α} : Pins .none base base

/-- What becomes of the ceiling: zero takes it away. -/
inductive PinsCeiling : Option Nat → Option Nat → Option Nat → Prop where
  | removed {base : Option Nat} : PinsCeiling (some 0) base .none
  | pinned {base : Option Nat} {ceiling : Nat} (positive : ceiling ≠ 0) :
      PinsCeiling (some ceiling) base (some ceiling)
  | kept {base : Option Nat} : PinsCeiling .none base base

/-- The platform is the base with the pinned capabilities in place of its own. -/
structure Overlays (overrides : Overrides) (base platform : Platform) : Prop where
  isWindows : Pins overrides.windows base.isWindows platform.isWindows
  desktopApartments :
    Pins overrides.desktopApartments base.desktopApartments platform.desktopApartments
  maxPipeNameLength :
    PinsCeiling overrides.maxPipeNameLength base.maxPipeNameLength platform.maxPipeNameLength

/-- With the pinned capabilities, the base has desktop apartments without being Windows. -/
def Contradicts (overrides : Overrides) (base : Platform) : Prop :=
  ∃ platform, overrides.Overlays base platform ∧
    platform.desktopApartments = true ∧ platform.isWindows = false

variable {overrides : Overrides} {base platform : Platform}

theorem pins_getD {α : Type} (override : Option α) (base : α) :
    Pins override base (override.getD base) := by
  cases override with
  | none => exact .kept
  | some value => exact .pinned

theorem Pins.eq_getD {α : Type} {override : Option α} {base value : α}
    (h : Pins override base value) : value = override.getD base := by
  cases h <;> rfl

/-- Applying overrides is the one way to lay them over a platform. -/
theorem overlays_iff : overrides.Overlays base platform ↔ platform = overrides.apply base := by
  constructor
  · rintro ⟨windows, apartments, ceiling⟩
    have ceiling_eq : platform.maxPipeNameLength = (overrides.apply base).maxPipeNameLength := by
      rw [apply]
      generalize overrides.maxPipeNameLength = override at ceiling
      generalize platform.maxPipeNameLength = value at ceiling
      cases ceiling with
      | removed | kept => rfl
      | @pinned _ n positive =>
          cases n with
          | zero => exact absurd rfl positive
          | succ n => rfl
    calc platform
      _ = ⟨platform.isWindows, platform.desktopApartments, platform.maxPipeNameLength⟩ := rfl
      _ = overrides.apply base := by rw [windows.eq_getD, apartments.eq_getD, ceiling_eq]; rfl
  · rintro rfl
    refine ⟨pins_getD _ _, pins_getD _ _, ?_⟩
    rw [apply]
    rcases overrides.maxPipeNameLength with _ | _ | n
    · exact .kept
    · exact .removed
    · exact .pinned (Nat.succ_ne_zero n)

theorem contradicts_iff : overrides.Contradicts base ↔
    (overrides.apply base).desktopApartments = true ∧
      (overrides.apply base).isWindows = false := by
  simp only [Contradicts, overlays_iff, exists_eq_left]

/-- No override is a ceiling of zero. -/
theorem maxPipeNameLength_apply_ne (h : base.maxPipeNameLength ≠ some 0) :
    (overrides.apply base).maxPipeNameLength ≠ some 0 := by
  rw [apply]
  rcases overrides.maxPipeNameLength with _ | _ | n
  · exact h
  · exact nofun
  · exact nofun

end Overrides

/-- The fault is found in settings that have been read. -/
def SettingsFault.isInvalid : SettingsFault → Bool
  | impossiblePlatform | badFilter .. => true
  | unreadable .. | malformed _ => false

namespace Settings

variable {settings : Settings} {base platform : Platform} {path : String}

/-! ### Platforms -/

theorem platformFor_of_contradicts (h : settings.overrides.Contradicts base) :
    settings.platformFor base = .error .impossiblePlatform := by
  obtain ⟨apartments, noWindows⟩ := Overrides.contradicts_iff.mp h
  simp [platformFor, apartments, noWindows]

theorem platformFor_of_not_contradicts (h : ¬ settings.overrides.Contradicts base) :
    settings.platformFor base = .ok (settings.overrides.apply base) := by
  rw [Overrides.contradicts_iff] at h
  simpa [platformFor] using h

/-- Overrides that do not contradict a possible platform make another one of it. -/
theorem isPossible_apply (real : base.IsPossible)
    (h : ¬ settings.overrides.Contradicts base) :
    (settings.overrides.apply base).IsPossible where
  isWindows := by
    intro apartments
    rw [Overrides.contradicts_iff] at h
    simpa [apartments] using h
  ceiling := Overrides.maxPipeNameLength_apply_ne real.ceiling

/-! ### Validation -/

theorem fault?_of_contradicts (h : settings.overrides.Contradicts .current) :
    settings.fault? = some .impossiblePlatform := by
  rw [fault?, platformFor_of_contradicts h]

theorem fault?_of_not_contradicts (h : ¬ settings.overrides.Contradicts .current) :
    settings.fault? = (LogFilter.check settings.filter).map (.badFilter settings.filter) := by
  rw [fault?, platformFor_of_not_contradicts h]

/-- A user who has no settings has valid ones. -/
theorem fault?_default : default.fault? = none := by decide

theorem fault?_eq_none_iff : settings.fault? = none ↔
    ¬ settings.overrides.Contradicts .current ∧ LogFilter.check settings.filter = none := by
  by_cases h : settings.overrides.Contradicts .current
  · simp [fault?_of_contradicts h, h]
  · simp [fault?_of_not_contradicts h, h]

/-! ### Loading -/

section

variable {content : ByteArray} {text : String} {fault : SettingsFault}

theorem load_of_invalid (readable : String.fromUTF8? content = some text)
    (wellFormed : parse? text = some settings) (invalid : settings.fault? = some fault) :
    load path (some (.file content)) = .error fault := by
  simp only [load, readable, wellFormed, invalid]

theorem load_of_valid (readable : String.fromUTF8? content = some text)
    (wellFormed : parse? text = some settings) (valid : settings.fault? = none) :
    load path (some (.file content)) = .ok settings := by
  simp only [load, readable, wellFormed, valid]

end

/-- Settings that load are valid, whether they are read from a file or not. -/
theorem fault?_of_load {found : Option Entry} (h : load path found = .ok settings) :
    settings.fault? = none := by
  rcases found with _ | _ | content | _
  · cases h
    exact fault?_default
  · cases h
  · cases readable : String.fromUTF8? content with
    | none =>
        simp only [load, readable] at h
        cases h
    | some text =>
        cases wellFormed : parse? text with
        | none =>
            simp only [load, readable, wellFormed] at h
            cases h
        | some given =>
            cases fault : given.fault? with
            | none =>
                rw [load_of_valid readable wellFormed fault] at h
                cases h
                exact fault
            | some invalid =>
                rw [load_of_invalid readable wellFormed fault] at h
                cases h
  · cases h

/-- Valid settings give a possible platform, whatever choice is made of one. -/
theorem exists_platform (valid : settings.fault? = none) (choice : Program.PlatformChoice) :
    ∃ platform, choice.platform settings = .ok platform ∧ platform.IsPossible := by
  cases choice with
  | detect =>
      obtain ⟨consistent, -⟩ := fault?_eq_none_iff.mp valid
      exact ⟨_, platformFor_of_not_contradicts consistent,
        isPossible_apply Platform.isPossible_current consistent⟩
  | windowsDesktop => exact ⟨_, rfl, Platform.isPossible_windowsDesktop⟩
  | windowsCore => exact ⟨_, rfl, Platform.isPossible_windowsCore⟩
  | unix => exact ⟨_, rfl, Platform.isPossible_unix⟩

/-- What a document whose settings can be read comes to, the platform being looked at before
the filter. -/
structure LoadsBy (settings : Settings) (result : Except SettingsFault Settings) : Prop where
  invalid : (∃ fault, result = .error fault ∧ fault.isInvalid = true) ↔
    settings.overrides.Contradicts .current ∨ ∃ fault, LogFilter.check settings.filter = some fault
  platform : settings.overrides.Contradicts .current → result = .error .impossiblePlatform
  filter : ¬ settings.overrides.Contradicts .current →
    ∀ fault, LogFilter.check settings.filter = some fault →
      result = .error (.badFilter settings.filter fault)
  ok : ¬ settings.overrides.Contradicts .current → LogFilter.check settings.filter = none →
    result = .ok settings

/-- The outcome for a document is that of validating the settings that it gives. -/
theorem loadsBy_of_parse? {content : ByteArray} {text : String}
    (readable : String.fromUTF8? content = some text)
    (wellFormed : parse? text = some settings) :
    settings.LoadsBy (load path (some (.file content))) := by
  by_cases contradicts : settings.overrides.Contradicts .current
  · rw [load_of_invalid readable wellFormed (fault?_of_contradicts contradicts)]
    exact ⟨iff_of_true ⟨_, rfl, rfl⟩ (.inl contradicts), fun _ => rfl,
      fun consistent => absurd contradicts consistent,
      fun consistent => absurd contradicts consistent⟩
  · have fault_eq := fault?_of_not_contradicts contradicts
    cases filter : LogFilter.check settings.filter with
    | some fault =>
        rw [filter] at fault_eq
        rw [load_of_invalid readable wellFormed fault_eq]
        refine ⟨iff_of_true ⟨_, rfl, rfl⟩ (.inr ⟨fault, filter⟩),
          fun h => absurd h contradicts, ?_, ?_⟩
        · intro _ other given
          rw [Option.some.inj (filter.symm.trans given)]
        · intro _ valid
          cases filter.symm.trans valid
    | none =>
        rw [filter] at fault_eq
        rw [load_of_valid readable wellFormed fault_eq]
        refine ⟨iff_of_false nofun ?_, fun h => absurd h contradicts, ?_, fun _ _ => rfl⟩
        · rintro (h | ⟨fault, given⟩)
          · exact contradicts h
          · cases filter.symm.trans given
        · intro _ other given
          cases filter.symm.trans given

/-- Settings that load are valid and give a possible platform for every choice, and only the
detected platform depends on them; overrides are refused exactly where the platform with the
overrides would contradict itself; and a document whose settings can be read is refused for
that reason, or else for its filter. -/
theorem load_agrees :
    (∀ path found settings, load path found = .ok settings →
      settings.fault? = none ∧
        ∀ choice : Program.PlatformChoice,
          ∃ platform, choice.platform settings = .ok platform ∧ platform.IsPossible) ∧
    (∀ choice : Program.PlatformChoice, choice ≠ .detect →
      ∀ settings other, choice.platform settings = choice.platform other) ∧
    (∀ (settings : Settings) (base : Platform),
      (∃ fault, settings.platformFor base = .error fault) ↔
        settings.overrides.Contradicts base) ∧
    ∀ path content text settings, String.fromUTF8? content = some text →
      parse? text = some settings → settings.LoadsBy (load path (some (.file content))) := by
  refine ⟨?_, ?_, ?_, ?_⟩
  · intro path found settings loaded
    have valid := fault?_of_load loaded
    exact ⟨valid, exists_platform valid⟩
  · intro choice preset settings other
    cases choice with
    | detect => exact absurd rfl preset
    | windowsDesktop | windowsCore | unix => rfl
  · intro settings base
    constructor
    · rintro ⟨fault, failed⟩
      by_cases contradicts : settings.overrides.Contradicts base
      · exact contradicts
      · rw [platformFor_of_not_contradicts contradicts] at failed
        cases failed
    · intro contradicts
      exact ⟨_, platformFor_of_contradicts contradicts⟩
  · intro path content text settings readable wellFormed
    exact loadsBy_of_parse? readable wellFormed

/-- A document that pins desktop apartments and not Windows, and has a malformed filter. -/
def impossibleText : String :=
  "[platform]\ndesktop_apartments = true\n[logging]\nfilter = \"a=b\"\n"

/-- The platform of such a document is reported, and not its filter; and no document at all
gives a possible platform. -/
theorem load_agrees_sample :
    String.fromUTF8? impossibleText.toUTF8 = some impossibleText ∧
      parse? impossibleText = some ⟨⟨none, some true, none⟩, "a=b"⟩ ∧
      (LogFilter.check "a=b").isSome = true ∧
      load "c" (some (.file impossibleText.toUTF8)) = .error .impossiblePlatform ∧
      load "c" none = .ok default ∧
      ∃ platform, Program.PlatformChoice.detect.platform default = .ok platform ∧
        platform.IsPossible := by
  obtain ⟨serves, -, -, loads⟩ := load_agrees
  have readable : String.fromUTF8? impossibleText.toUTF8 = some impossibleText := by
    decide +kernel
  have wellFormed : parse? impossibleText = some ⟨⟨none, some true, none⟩, "a=b"⟩ := by
    decide +kernel
  have contradicts : (⟨none, some true, none⟩ : Overrides).Contradicts .current :=
    Overrides.contradicts_iff.mpr ⟨rfl, rfl⟩
  exact ⟨readable, wellFormed, by decide +kernel,
    (loads "c" _ _ _ readable wellFormed).platform contradicts, rfl,
    (serves "c" none default rfl).2 .detect⟩

end Settings

end ShellLaunch
