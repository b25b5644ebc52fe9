import ShellLaunch.Proofs.Extension
import ShellLaunch.Proofs.SingleSource

/-!
# The spelling of a switch

Which switch a token spells does not depend on how the token begins, as long as it begins
like a switch, nor on the case of its letters; and nothing in a resolution depends on the
token but through the switch, except for the message that names a token in conflict with
what the host runs already.
-/

namespace ShellLaunch

namespace Text

/-- Every character that differs from an ASCII character in case alone is ASCII too. -/
theorem ascii_of_toLower_eq {c d : Char} (ascii : c.toNat < 128) (same : d.toLower = c.toLower) :
    d.toNat < 128 := by
  have lowered : ∀ n < 128, (Char.ofNat n).toLower.toNat < 128 := by decide
  have small : d.toLower.toNat < 128 := by
    rw [same]
    simpa using lowered c.toNat ascii
  unfold Char.toLower at small
  split at small
  next upper =>
    have bound : d.val.toNat ≤ 'Z'.val.toNat := UInt32.le_iff_toNat_le.mp upper.2
    exact Nat.lt_of_le_of_lt bound (by decide)
  next => exact small

/-- The lower-case form of an ASCII text does not depend on the case of its letters. -/
theorem lower_eq_of_map_toLower_eq {letters letters' : List Char}
    (ascii : ∀ c ∈ letters, c.toNat < 128)
    (same : letters'.map Char.toLower = letters.map Char.toLower) :
    lower letters' = lower letters := by
  rw [lower_of_ascii ascii, lower_of_ascii, same]
  intro d member
  have lowered : d.toLower ∈ letters.map Char.toLower := same ▸ List.mem_map_of_mem member
  obtain ⟨c, member, same⟩ := List.mem_map.mp lowered
  exact ascii_of_toLower_eq (ascii c member) same.symm

end Text

namespace Switch

/-- What a switch can begin with on a platform: a dash, two dashes, or a slash on Windows. -/
inductive Lead (platform : Platform) : List Char → Prop where
  | dash {d : Char} (first : isDash d = true) : Lead platform [d]
  | dashes {d e : Char} (first : isDash d = true) (second : isDash e = true) :
      Lead platform [d, e]
  | slash (windows : platform.isWindows = true) : Lead platform ['/']

/-- The text is not empty and does not begin with a dash. -/
def FollowsLead (letters : List Char) : Prop :=
  ∃ c rest, letters = c :: rest ∧ isDash c = false

variable {platform : Platform} {lead other letters letters' : List Char}

/-- The key of a token is what follows its lead, in lower case. -/
theorem key?_of_lead (h : Lead platform lead) (follows : FollowsLead letters) :
    key? platform (String.ofList (lead ++ letters)) = some (Text.lower letters) := by
  obtain ⟨c, rest, rfl, noDash⟩ := follows
  cases h with
  | dash first => simp [key?, afterLead?, dropDash, first, noDash]
  | dashes first second => simp [key?, afterLead?, dropDash, first, second]
  | slash windows =>
      have noDash : isDash '/' = false := by decide
      simp [key?, afterLead?, noDash, windows]

/-- A token spells what the key behind its lead stands for. -/
theorem lookup?_of_lead (h : Lead platform lead) (follows : FollowsLead letters) :
    lookup? platform (String.ofList (lead ++ letters)) =
      findKey? all platform (Text.lower letters) := by
  rw [lookup?, key?_of_lead h follows, Option.bind_some]

/-- Of the ASCII characters only the hyphen is a dash, and it has no case. -/
theorem isDash_of_toLower_eq {c d : Char} (ascii : c.toNat < 128) (same : d.toLower = c.toLower)
    (noDash : isDash c = false) : isDash d = false := by
  have caseless : ∀ n < 128, isDash (Char.ofNat n).toLower = isDash (Char.ofNat n) := by decide
  have lowered : ∀ e : Char, e.toNat < 128 → isDash e.toLower = isDash e := by
    intro e small
    simpa using caseless e.toNat small
  rw [← lowered d (Text.ascii_of_toLower_eq ascii same), same, lowered c ascii, noDash]

theorem FollowsLead.of_map_toLower_eq (follows : FollowsLead letters)
    (ascii : ∀ c ∈ letters, c.toNat < 128)
    (same : letters'.map Char.toLower = letters.map Char.toLower) : FollowsLead letters' := by
  obtain ⟨c, rest, rfl, noDash⟩ := follows
  cases letters' with
  | nil => cases same
  | cons d rest' =>
      obtain ⟨first, -⟩ := List.cons.inj same
      exact ⟨d, rest', rfl, isDash_of_toLower_eq (ascii c List.mem_cons_self) first noDash⟩

end Switch

namespace Host

variable {host : Host} {draft : Draft} {token other : String} {switch : Switch}
variable {start rest : List String}

/-- Where a switch does not say what the host runs, or nothing is settled about that, a step
does not depend on how the switch is spelled. -/
theorem step_respelled (spelled : Switch.lookup? host.platform token = some switch)
    (alike : Switch.lookup? host.platform other = some switch)
    (unsettled : draft.hasScriptTarget = false ∨ Switch.selectsSource (some switch) = false)
    (rest : List String) : host.step draft other rest = host.step draft token rest := by
  have noObjection (selects : Switch.selectsSource (some switch) = true) (token : String) :
      draft.targetObjection? token = none := by
    rcases unsettled with unsettled | selectsNot
    · exact Draft.targetObjection?_eq_none_iff.mpr unsettled
    · rw [selects] at selectsNot
      cases selectsNot
  cases switch with
  | help => rw [step_help spelled, step_help alike]
  | version => rw [step_version spelled, step_version alike]
  | flag flag => rw [step_flag spelled, step_flag alike]
  | parameter parameter =>
      rw [step_parameter spelled, step_parameter alike]
      cases parameter with
      | encodedCommand => simp only [readParameter, objection?, noObjection rfl]
      | _ => rfl
  | command =>
      rw [step_command spelled, step_command alike]
      simp only [readCommand, noObjection rfl]
  | file =>
      rw [step_file spelled, step_file alike]
      simp only [readFile, noObjection rfl]

/-- Where a switch says what the host runs, and that is settled, its token is refused by
name, whatever follows. -/
theorem step_of_conflict (settled : draft.hasScriptTarget = true)
    (spelled : Switch.lookup? host.platform token = some switch)
    (selects : Switch.selectsSource (some switch) = true) (rest : List String) :
    host.step draft token rest = .stop (draft.fail (.conflictingScriptTarget token)) := by
  rw [← spelled] at selects
  exact step_of_objectionAt? (objectionAt?_of_settled settled selects) rest

/-- Two spellings of a switch behind a command line that could have gone on lead to the same
configuration, unless they are refused themselves, each by its name. -/
theorem resolve_respelled (goesOn : (host.resolve start).Open)
    (spelled : Switch.lookup? host.platform token = some switch)
    (alike : Switch.lookup? host.platform other = some switch) (rest : List String) :
    host.resolve (start ++ [other] ++ rest) = host.resolve (start ++ [token] ++ rest) ∨
      (host.step (host.run .initial start) token rest).draft.config.error =
          some (.conflictingScriptTarget token) ∧
        (host.resolve (start ++ [token] ++ rest)).error =
          some (.conflictingScriptTarget token) ∧
        host.resolve (start ++ [other] ++ rest) =
          { host.resolve (start ++ [token] ++ rest) with
            error := some (.conflictingScriptTarget other) } := by
  obtain ⟨groups, accepted, rfl⟩ := accepts_of_open goesOn
  simp only [List.append_assoc, List.singleton_append, resolve_of_accepts accepted,
    accepted.run_initial]
  by_cases conflict : ((Reading.upTo groups).draft host).hasScriptTarget = true ∧
      Switch.selectsSource (some switch) = true
  · obtain ⟨settled, selects⟩ := conflict
    have refused := step_of_conflict settled spelled selects rest
    refine .inr ⟨?_, ?_, ?_⟩
    · rw [refused]
      rfl
    · rw [run_of_stop refused]
      rfl
    · rw [run_of_stop refused, run_of_stop (step_of_conflict settled alike selects rest)]
      rfl
  · refine .inl ?_
    have unsettled : ((Reading.upTo groups).draft host).hasScriptTarget = false ∨
        Switch.selectsSource (some switch) = false := by
      simpa only [Classical.not_and_iff_not_or_not, Bool.not_eq_true] using conflict
    rw [run, run, step_respelled spelled alike unsettled]

/-- How a switch is spelled makes no difference on a host. -/
structure IgnoresSpelling (host : Host) : Prop where
  /-- All leads are alike in front of a text. -/
  lead : ∀ {lead other letters : List Char},
    Switch.Lead host.platform lead → Switch.Lead host.platform other →
    Switch.FollowsLead letters →
      Switch.lookup? host.platform (String.ofList (other ++ letters)) =
        Switch.lookup? host.platform (String.ofList (lead ++ letters))
  /-- So are all texts of ASCII characters that differ in the case of their letters. -/
  letters : ∀ {lead letters letters' : List Char},
    Switch.Lead host.platform lead → Switch.FollowsLead letters →
    (∀ c ∈ letters, c.toNat < 128) →
    letters'.map Char.toLower = letters.map Char.toLower →
      Switch.lookup? host.platform (String.ofList (lead ++ letters')) =
        Switch.lookup? host.platform (String.ofList (lead ++ letters))
  /-- Tokens for one switch change places without effect on any field of a configuration,
  except that each is named where it is in conflict with what the host runs already. -/
  tokens : ∀ {start : List String} {token other : String} {switch : Switch},
    (host.resolve start).Open →
    Switch.lookup? host.platform token = some switch →
    Switch.lookup? host.platform other = some switch →
    ∀ rest : List String,
      host.resolve (start ++ [other] ++ rest) = host.resolve (start ++ [token] ++ rest) ∨
        (host.step (host.run .initial start) token rest).draft.config.error =
            some (.conflictingScriptTarget token) ∧
          (host.resolve (start ++ [token] ++ rest)).error =
            some (.conflictingScriptTarget token) ∧
          host.resolve (start ++ [other] ++ rest) =
            { host.resolve (start ++ [token] ++ rest) with
              error := some (.conflictingScriptTarget other) }

/-- Neither the look-up of switches nor a resolution depends on how a switch is spelled. -/
theorem ignoresSpelling (host : Host) : host.IgnoresSpelling where
  lead := by
    intro lead other letters h also follows
    rw [Switch.lookup?_of_lead h follows, Switch.lookup?_of_lead also follows]
  letters := by
    intro lead letters letters' h follows ascii same
    have follows' := follows.of_map_toLower_eq ascii same
    rw [Switch.lookup?_of_lead h follows, Switch.lookup?_of_lead h follows',
      Text.lower_eq_of_map_toLower_eq ascii same]
  tokens := resolve_respelled

/-- Two spellings of the switch for a script file, behind an encoded command. -/
theorem ignoresSpelling_sample :
    Switch.lookup? .unix "——FILE" = Switch.lookup? .unix "-FILE" ∧
      Switch.lookup? .unix "-FILE" = Switch.lookup? .unix "-file" ∧
      (sample.resolve ["-ec", "YQA="]).Open ∧
      Switch.lookup? .unix "-f" = some .file ∧ Switch.lookup? .unix "——FILE" = some .file ∧
      sample.resolve ["-ec", "YQA=", "——FILE", "run"] =
        { sample.resolve ["-ec", "YQA=", "-f", "run"] with
          error := some (.conflictingScriptTarget "——FILE") } := by
  have dash : Switch.Lead .unix ['-'] := .dash (by decide)
  have dashes : Switch.Lead .unix ['—', '—'] := .dashes (by decide) (by decide)
  have goesOn : (sample.resolve ["-ec", "YQA="]).Open :=
    ⟨by decide +kernel, by decide +kernel, by decide +kernel, by decide +kernel,
      .inr ⟨"a", by decide +kernel⟩⟩
  have short : Switch.lookup? sample.platform "-f" = some .file := by decide +kernel
  have long : Switch.lookup? sample.platform "——FILE" = some .file := by decide +kernel
  refine ⟨(ignoresSpelling sample).lead dash dashes ⟨'F', ['I', 'L', 'E'], rfl, by decide⟩,
    (ignoresSpelling sample).letters dash ⟨'f', ['i', 'l', 'e'], rfl, by decide⟩
      (by simp) (by decide), goesOn, short, long, ?_⟩
  rcases (ignoresSpelling sample).tokens goesOn short long ["run"] with same | ⟨-, -, named⟩
  · have differs : (sample.resolve ["-ec", "YQA=", "——FILE", "run"]).error ≠
        (sample.resolve ["-ec", "YQA=", "-f", "run"]).error := by
      decide +kernel
    exact absurd (congrArg LaunchConfig.error same) differs
  · exact named

end Host

end ShellLaunch
