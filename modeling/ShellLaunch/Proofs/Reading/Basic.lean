import ShellLaunch.Switch.Spelling

/-!
# Readings of a command line

A reading splits a command line into groups and says how it ends, before anything is
done with it. Which switch a token spells depends on the platform alone, and so does the
reading; whether the groups fit together is a later question.

Every command line has exactly one reading. It is the one that `Reading.ofArgs` computes.
-/

namespace ShellLaunch

/-- A dash alone spells no switch. -/
@[simp] theorem Switch.lookup?_dash (platform : Platform) :
    Switch.lookup? platform "-" = none := rfl

/-- A token spells only switches that are known on the platform. -/
theorem Switch.isAvailable_of_lookup? {platform : Platform} {token : String} {switch : Switch}
    (h : Switch.lookup? platform token = some switch) : switch.isAvailable platform = true := by
  obtain ⟨key, -, found⟩ := Option.bind_eq_some_iff.mp h
  have fits := List.find?_some found
  exact (Bool.and_eq_true_iff.mp fits).1

/-- A group after which a command line can go on. -/
inductive TokenGroup where
  /-- A switch without a value. -/
  | alone (token : String) (flag : Flag)
  /-- A switch and its value, whatever the value looks like. -/
  | withValue (token : String) (parameter : Parameter) (value : String)
  /-- `-` where a switch could stand. -/
  | dash
  /-- The switch for a script file with `-` for the file. -/
  | fileDash (token : String)
  deriving DecidableEq

/-- How a command line ends after its groups. -/
inductive Ending where
  /-- The tokens are used up. -/
  | exhausted
  /-- The switch for usage; what follows is ignored. -/
  | help (token : String) (ignored : List String)
  /-- The switch for the version; what follows is ignored. -/
  | version (token : String) (ignored : List String)
  /-- The switch for a command with `-` for the command, and no more. -/
  | commandDash (token : String)
  /-- The switch for a command, the command and the arguments for it. -/
  | command (token text : String) (args : List String)
  /-- The switch for a script file, its path and the arguments for it. -/
  | file (token path : String) (args : List String)
  /-- The path of a script file without a switch, and the arguments for it. -/
  | script (path : String) (args : List String)
  /-- A switch whose value is missing. -/
  | unfinished (token : String) (switch : Switch)
  /-- The switch for a command with `-` for the command, and more tokens after it. -/
  | crowded (token next : String) (more : List String)
  deriving DecidableEq

/-- A command line in groups. -/
structure Reading where
  groups : List TokenGroup
  ending : Ending
  deriving DecidableEq

namespace TokenGroup

def tokens : TokenGroup → List String
  | alone token _ => [token]
  | withValue token _ value => [token, value]
  | dash => ["-"]
  | fileDash token => [token, "-"]

/-- The tokens of a group spell the switch that the group says. -/
def Spelled (platform : Platform) : TokenGroup → Prop
  | alone token flag => Switch.lookup? platform token = some (.flag flag)
  | withValue token parameter _ => Switch.lookup? platform token = some (.parameter parameter)
  | dash => True
  | fileDash token => Switch.lookup? platform token = some .file

theorem exists_tokens (group : TokenGroup) :
    ∃ token behind, group.tokens = token :: behind := by
  cases group <;> exact ⟨_, _, rfl⟩

def tokensOf (groups : List TokenGroup) : List String :=
  groups.flatMap tokens

@[simp] theorem tokensOf_nil : tokensOf [] = [] := rfl

@[simp] theorem tokensOf_cons (group : TokenGroup) (groups : List TokenGroup) :
    tokensOf (group :: groups) = group.tokens ++ tokensOf groups := rfl

@[simp] theorem tokensOf_append (left right : List TokenGroup) :
    tokensOf (left ++ right) = tokensOf left ++ tokensOf right :=
  List.flatMap_append

end TokenGroup

namespace Ending

def tokens : Ending → List String
  | exhausted => []
  | help token ignored => token :: ignored
  | version token ignored => token :: ignored
  | commandDash token => [token, "-"]
  | command token text args => token :: text :: args
  | file token path args => token :: path :: args
  | script path args => path :: args
  | unfinished token _ => [token]
  | crowded token next more => token :: "-" :: next :: more

/-- The tokens of an ending spell what the ending says. -/
def Spelled (platform : Platform) : Ending → Prop
  | exhausted => True
  | help token _ => Switch.lookup? platform token = some .help
  | version token _ => Switch.lookup? platform token = some .version
  | commandDash token => Switch.lookup? platform token = some .command
  | command token text _ => Switch.lookup? platform token = some .command ∧ text ≠ "-"
  | file token path _ => Switch.lookup? platform token = some .file ∧ path ≠ "-"
  | script path _ => Switch.lookup? platform path = none ∧ path ≠ "-"
  | unfinished token switch =>
    Switch.lookup? platform token = some switch ∧ switch.arity ≠ .noValue
  | crowded token _ _ => Switch.lookup? platform token = some .command

theorem exists_tokens {ending : Ending} (h : ending ≠ exhausted) :
    ∃ token rest, ending.tokens = token :: rest := by
  cases ending with
  | exhausted => exact absurd rfl h
  | _ => exact ⟨_, _, rfl⟩

/-- Nothing is missing at the end, and nothing is too much. -/
def IsWhole : Ending → Prop
  | unfinished .. | crowded .. => False
  | _ => True

end Ending

namespace Reading

def tokens (reading : Reading) : List String :=
  TokenGroup.tokensOf reading.groups ++ reading.ending.tokens

/-- The reading is one of the given command line: nothing is left out, added or moved,
and each switch is the one that its token spells. -/
structure Splits (platform : Platform) (args : List String) (reading : Reading) : Prop where
  tokens_eq : reading.tokens = args
  groups : ∀ group ∈ reading.groups, group.Spelled platform
  ending : reading.ending.Spelled platform

def cons (group : TokenGroup) (reading : Reading) : Reading :=
  { reading with groups := group :: reading.groups }

/-- The tokens of a reading, cut at one of its groups. -/
theorem tokens_of_groups {reading : Reading} {before after : List TokenGroup}
    {group : TokenGroup} (groups_eq : reading.groups = before ++ group :: after) :
    reading.tokens = TokenGroup.tokensOf before ++
      (group.tokens ++ (TokenGroup.tokensOf after ++ reading.ending.tokens)) := by
  simp [tokens, groups_eq]

/-- The reading of a command line, from the left. -/
def ofArgs (platform : Platform) : List String → Reading
  | [] => ⟨[], .exhausted⟩
  | token :: rest =>
    match Switch.lookup? platform token with
    | some .help => ⟨[], .help token rest⟩
    | some .version => ⟨[], .version token rest⟩
    | some (.flag flag) => (ofArgs platform rest).cons (.alone token flag)
    | some (.parameter parameter) =>
      match rest with
      | [] => ⟨[], .unfinished token (.parameter parameter)⟩
      | value :: rest => (ofArgs platform rest).cons (.withValue token parameter value)
    | some .command =>
      match rest with
      | [] => ⟨[], .unfinished token .command⟩
      | text :: args =>
        if text = "-" then
          match args with
          | [] => ⟨[], .commandDash token⟩
          | next :: more => ⟨[], .crowded token next more⟩
        else ⟨[], .command token text args⟩
    | some .file =>
      match rest with
      | [] => ⟨[], .unfinished token .file⟩
      | path :: rest =>
        if path = "-" then (ofArgs platform rest).cons (.fileDash token)
        else ⟨[], .file token path rest⟩
    | none =>
      if token = "-" then (ofArgs platform rest).cons .dash
      else ⟨[], .script token rest⟩

variable {platform : Platform} {args rest : List String} {reading : Reading}

/-- A reading of the rest is one of the whole, with the group in front that was taken off. -/
theorem Splits.cons (h : reading.Splits platform rest) (group : TokenGroup)
    (spelled : group.Spelled platform) :
    (reading.cons group).Splits platform (group.tokens ++ rest) where
  tokens_eq := by
    simp only [Reading.tokens, Reading.cons, TokenGroup.tokensOf_cons, List.append_assoc]
    rw [← Reading.tokens, h.tokens_eq]
  groups := by
    intro other member
    rcases List.mem_cons.mp member with rfl | member
    · exact spelled
    · exact h.groups other member
  ending := h.ending

/-- A command line that is all ending. -/
theorem splits_of_ending (ending : Ending) (spelled : ending.Spelled platform) :
    (Reading.mk [] ending).Splits platform ending.tokens where
  tokens_eq := rfl
  groups := by simp
  ending := spelled

theorem splits_ofArgs (platform : Platform) (args : List String) :
    (ofArgs platform args).Splits platform args := by
  fun_induction ofArgs platform args with
  | case1 => exact splits_of_ending .exhausted trivial
  | case2 token ignored hswitch =>
      exact splits_of_ending (.help token ignored) hswitch
  | case3 token ignored hswitch =>
      exact splits_of_ending (.version token ignored) hswitch
  | case4 token rest flag hswitch ih => exact ih.cons (.alone token flag) hswitch
  | case5 token parameter hswitch =>
      exact splits_of_ending (.unfinished token (.parameter parameter))
        ⟨hswitch, by simp [Switch.arity]⟩
  | case6 token parameter hswitch value rest ih =>
      exact ih.cons (.withValue token parameter value) hswitch
  | case7 token hswitch =>
      exact splits_of_ending (.unfinished token .command) ⟨hswitch, by decide⟩
  | case8 token hswitch => exact splits_of_ending (.commandDash token) hswitch
  | case9 token hswitch next more =>
      exact splits_of_ending (.crowded token next more) hswitch
  | case10 token hswitch text args htext =>
      exact splits_of_ending (.command token text args) ⟨hswitch, htext⟩
  | case11 token hswitch =>
      exact splits_of_ending (.unfinished token .file) ⟨hswitch, by decide⟩
  | case12 token hswitch rest ih => exact ih.cons (.fileDash token) hswitch
  | case13 token hswitch path args hpath =>
      exact splits_of_ending (.file token path args) ⟨hswitch, hpath⟩
  | case14 rest _ ih => exact ih.cons .dash trivial
  | case15 path args hswitch hpath =>
      exact splits_of_ending (.script path args) ⟨hswitch, hpath⟩

/-- A group at the beginning of a command line is the first group of its reading. -/
theorem ofArgs_group {group : TokenGroup} (spelled : group.Spelled platform)
    (rest : List String) :
    ofArgs platform (group.tokens ++ rest) = (ofArgs platform rest).cons group := by
  rw [ofArgs.eq_def]
  cases group with
  | dash => simp [TokenGroup.tokens]
  | alone | withValue | fileDash =>
      simp only [TokenGroup.Spelled] at spelled
      simp [TokenGroup.tokens, spelled]

/-- The tokens of an ending hold no group. -/
theorem ofArgs_ending {ending : Ending} (spelled : ending.Spelled platform) :
    ofArgs platform ending.tokens = ⟨[], ending⟩ := by
  rw [ofArgs.eq_def]
  cases ending with
  | exhausted => rfl
  | help | version | commandDash | crowded =>
      simp only [Ending.Spelled] at spelled
      simp [Ending.tokens, spelled]
  | command | file | script =>
      obtain ⟨hswitch, hvalue⟩ := spelled
      simp [Ending.tokens, hswitch, hvalue]
  | unfinished token switch =>
      obtain ⟨hswitch, arity⟩ := spelled
      cases switch with
      | help | version | flag => exact absurd rfl arity
      | parameter | command | file => simp [Ending.tokens, hswitch]

theorem ofArgs_tokens (groups : List TokenGroup) {ending : Ending}
    (spelled : ∀ group ∈ groups, group.Spelled platform)
    (hending : ending.Spelled platform) :
    ofArgs platform (TokenGroup.tokensOf groups ++ ending.tokens) = ⟨groups, ending⟩ := by
  induction groups with
  | nil => exact ofArgs_ending hending
  | cons group groups ih =>
      rw [TokenGroup.tokensOf_cons, List.append_assoc,
        ofArgs_group (spelled group List.mem_cons_self),
        ih fun other member => spelled other (List.mem_cons_of_mem _ member)]
      rfl

/-- Every command line has exactly one reading. -/
theorem splits_iff : reading.Splits platform args ↔ reading = ofArgs platform args := by
  constructor
  · intro h
    rw [← h.tokens_eq]
    exact (ofArgs_tokens reading.groups h.groups h.ending).symm
  · rintro rfl
    exact splits_ofArgs platform args

end Reading

end ShellLaunch
