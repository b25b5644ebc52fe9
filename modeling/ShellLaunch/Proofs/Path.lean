import ShellLaunch.FilePath
import ShellLaunch.Proofs.Text.Cut
import ShellLaunch.Proofs.Text.Split

/-!
# Normal forms of paths

An absolute path is told by its root, its names and whether a slash is at its end, and written
from them it is in normal form (`render`). Each component that is pushed is one more name of a
normal form (`foldl_push_render`), so what a path is made absolute to is a normal form
(`absoluteChars_eq`). Root, names and slash are found in a normal form again, so making it absolute
leaves it as it is (`absoluteChars_render`).
-/

namespace ShellLaunch.Path

variable {s part : List Char} {names : List (List Char)} {double slash : Bool}

/-- What can be a component of a path in normal form. -/
def IsName (name : List Char) : Prop :=
  name ≠ [] ∧ name ≠ ['.'] ∧ '/' ∉ name

/-- The names with a slash in front of each. -/
def join (names : List (List Char)) : List Char :=
  names.flatMap fun name => '/' :: name

/-- The names from the root, and a slash at the end if there is one. -/
def body (names : List (List Char)) (slash : Bool) : List Char :=
  if names = [] then ['/'] else join names ++ if slash then ['/'] else []

/-- The path in normal form with the given names, the root being written with two slashes if
it is `double`. -/
def render (double : Bool) (names : List (List Char)) (slash : Bool) : List Char :=
  if double then '/' :: body names slash else body names slash

/-! ### Components -/

theorem isName_of_mem_components (member : part ∈ components s) : IsName part := by
  obtain ⟨found, kept⟩ := List.mem_filter.mp member
  obtain ⟨nonempty, notDot⟩ := of_decide_eq_true kept
  exact ⟨nonempty, notDot, Text.not_mem_of_mem_split found⟩

theorem join_cons (name : List Char) (names : List (List Char)) :
    join (name :: names) = '/' :: (name ++ join names) :=
  List.flatMap_cons

theorem split_join (proper : ∀ name ∈ names, IsName name) :
    Text.split '/' (join names) = [] :: names := by
  induction names with
  | nil => rfl
  | cons name names ih =>
      obtain ⟨first, others⟩ := List.forall_mem_cons.mp proper
      rw [join_cons, Text.split_separator, Text.split_append first.2.2 (ih others), List.append_nil]

theorem split_body (proper : ∀ name ∈ names, IsName name) (slash : Bool) :
    ∃ after, Text.split '/' (body names slash) = [] :: (names ++ after) ∧
      ∀ part ∈ after, part = [] := by
  by_cases root : names = []
  · subst root
    exact ⟨[[]], rfl, by simp⟩
  · rw [body, if_neg root]
    cases slash with
    | false => exact ⟨[], by simp [split_join proper], by simp⟩
    | true =>
        refine ⟨[[]], ?_, by simp⟩
        rw [if_pos rfl, Text.split_append_separator, split_join proper]
        rfl

/-- Between the slashes of a normal form are its names, with nothing in front of the root and
behind the last slash. -/
theorem split_render (proper : ∀ name ∈ names, IsName name) (double slash : Bool) :
    ∃ before after, Text.split '/' (render double names slash) = before ++ (names ++ after) ∧
      (∀ part ∈ before, part = []) ∧ ∀ part ∈ after, part = [] := by
  obtain ⟨after, found, empty⟩ := split_body proper slash
  cases double with
  | false => exact ⟨[[]], after, found, by simp, empty⟩
  | true =>
      refine ⟨[[], []], after, ?_, by simp, empty⟩
      rw [render, if_pos rfl, Text.split_separator, found]
      rfl

/-- The parts of a normal form that are not empty are its names. -/
theorem filter_split_render (proper : ∀ name ∈ names, IsName name) {keep : List Char → Bool}
    (nonempty : keep [] = false) :
    (Text.split '/' (render double names slash)).filter keep = names.filter keep := by
  obtain ⟨before, after, found, empty, empty'⟩ := split_render proper double slash
  have none : ∀ {parts : List (List Char)}, (∀ part ∈ parts, part = []) →
      parts.filter keep = [] := by
    intro parts empty
    rw [List.filter_eq_nil_iff]
    intro part member
    rw [empty part member, nonempty]
    exact Bool.false_ne_true
  rw [found, List.filter_append, List.filter_append, none empty, none empty', List.nil_append,
    List.append_nil]

theorem components_render (proper : ∀ name ∈ names, IsName name) :
    components (render double names slash) = names := by
  rw [components, filter_split_render proper rfl, List.filter_eq_self]
  intro name member
  exact decide_eq_true ⟨(proper name member).1, (proper name member).2.1⟩

/-! ### The root and the end -/

theorem exists_of_isRooted (h : isRooted s = true) : ∃ rest, s = '/' :: rest := by
  cases s with
  | nil => cases h
  | cons c rest =>
      rw [isRooted, List.head?_cons, beq_iff_eq] at h
      obtain rfl := Option.some.inj h
      exact ⟨rest, rfl⟩

theorem exists_body (names : List (List Char)) (slash : Bool) :
    ∃ rest, body names slash = '/' :: rest := by
  cases names with
  | nil => exact ⟨[], rfl⟩
  | cons name names => exact ⟨_, by rw [body, if_neg (List.cons_ne_nil _ _), join_cons]; rfl⟩

/-- In a normal form, no slash follows another but at a double root. -/
theorem not_infix_body (proper : ∀ name ∈ names, IsName name) (slash : Bool) :
    ¬ ['/', '/'] <:+: body names slash := by
  have joined : ∀ {names : List (List Char)}, (∀ name ∈ names, IsName name) →
      ¬ ['/', '/'] <:+: join names ++ if slash then ['/'] else [] := by
    intro names proper
    induction names with
    | nil => cases slash <;> exact fun h => absurd h.length_le (by decide)
    | cons name names ih =>
        obtain ⟨⟨nonempty, -, free⟩, others⟩ := List.forall_mem_cons.mp proper
        rw [join_cons, List.cons_append, List.append_assoc, List.infix_cons_iff, not_or,
          Text.infix_append_iff free]
        refine ⟨?_, ih others⟩
        cases name with
        | nil => exact absurd rfl nonempty
        | cons c name =>
            intro begins
            obtain ⟨-, begins⟩ := List.cons_prefix_cons.mp begins
            obtain ⟨rfl, -⟩ := List.cons_prefix_cons.mp begins
            exact free List.mem_cons_self
  rw [body]
  split
  · exact fun h => absurd h.length_le (by decide)
  · exact joined proper

theorem isRooted_render : isRooted (render double names slash) = true := by
  obtain ⟨rest, starts⟩ := exists_body names slash
  rw [render, starts]
  split <;> rfl

theorem hasDoubleRoot_render (proper : ∀ name ∈ names, IsName name) :
    hasDoubleRoot (render double names slash) = double := by
  obtain ⟨rest, starts⟩ := exists_body names slash
  have single := not_infix_body proper slash
  rw [starts] at single
  have notRooted : isRooted rest = false := by
    rw [Bool.eq_false_iff]
    intro rooted
    obtain ⟨rest, rfl⟩ := exists_of_isRooted rooted
    exact single ⟨[], rest, rfl⟩
  rw [render, starts]
  cases double with
  | false =>
      rw [if_neg Bool.false_ne_true]
      unfold hasDoubleRoot
      split
      next same =>
        obtain rfl := (List.cons.inj same).2
        cases notRooted
      next => rfl
  | true =>
      rw [if_pos rfl, hasDoubleRoot, notRooted]
      rfl

theorem endsWithSlash_append (front : List Char) (h : s ≠ []) :
    endsWithSlash (front ++ s) = endsWithSlash s := by
  rw [endsWithSlash, List.getLast?_append, List.getLast?_eq_some_getLast h, Option.some_or,
    ← List.getLast?_eq_some_getLast h, ← endsWithSlash]

theorem endsWithSlash_join (proper : ∀ name ∈ names, IsName name) :
    endsWithSlash (join names) = false := by
  rcases List.eq_nil_or_concat names with rfl | ⟨before, name, rfl⟩
  · rfl
  · obtain ⟨nonempty, -, free⟩ := proper name (by simp)
    have last : join (before.concat name) = (join before ++ ['/']) ++ name := by
      simp [join]
    rw [last, endsWithSlash_append _ nonempty, endsWithSlash, beq_eq_false_iff_ne]
    intro same
    exact free (List.mem_of_getLast? same)

theorem endsWithSlash_render (proper : ∀ name ∈ names, IsName name) (named : names ≠ []) :
    endsWithSlash (render double names slash) = slash := by
  have body_eq : body names slash = join names ++ if slash then ['/'] else [] := if_neg named
  have ends : endsWithSlash (body names slash) = slash := by
    cases slash with
    | false =>
        rw [body_eq, if_neg Bool.false_ne_true, List.append_nil]
        exact endsWithSlash_join proper
    | true =>
        rw [body_eq]
        exact endsWithSlash_append _ (List.cons_ne_nil _ _)
  obtain ⟨rest, starts⟩ := exists_body names slash
  have nonempty : body names slash ≠ [] := starts ▸ List.cons_ne_nil _ _
  rw [render]
  split
  · exact (endsWithSlash_append ['/'] nonempty).trans ends
  · exact ends

/-! ### Making a path absolute -/

theorem hasDoubleRoot_of_not_isRooted (h : isRooted s = false) : hasDoubleRoot s = false := by
  unfold hasDoubleRoot
  split
  · cases h
  · rfl

theorem render_ne_nil : render double names slash ≠ [] := by
  intro empty
  have rooted : isRooted (render double names slash) = true := isRooted_render
  rw [empty] at rooted
  cases rooted

theorem render_root : render double [] slash = if double then ['/', '/'] else ['/'] := by
  cases double <;> rfl

theorem render_of_ne_nil (named : names ≠ []) :
    render double names slash =
      (if double then ['/'] else []) ++ join names ++ if slash then ['/'] else [] := by
  rw [render, body, if_neg named]
  cases double <;> rfl

theorem join_concat (names : List (List Char)) (name : List Char) :
    join (names ++ [name]) = join names ++ '/' :: name := by
  simp [join]

/-- Only the root ends with a slash, where none is asked for. -/
theorem push_render (proper : ∀ name ∈ names, IsName name) (part : List Char) :
    push (render double names false) part =
      if names = [] then render double [] false ++ part
      else render double names false ++ '/' :: part := by
  by_cases root : names = []
  · subst root
    have ends : endsWithSlash (render double [] false) = true := by cases double <;> rfl
    rw [push, if_pos (.inr ends), if_pos rfl]
  · have unended : ¬ (render double names false = [] ∨
        endsWithSlash (render double names false) = true) := by
      rw [or_iff_right render_ne_nil, endsWithSlash_render proper root]
      exact Bool.false_ne_true
    rw [push, if_neg unended, if_neg root]

/-- A component that is pushed is one more name. -/
theorem push_render_name (proper : ∀ name ∈ names, IsName name) (name : List Char) :
    push (render double names false) name = render double (names ++ [name]) false := by
  rw [push_render proper, render_of_ne_nil (List.append_ne_nil_of_right_ne_nil _ (by simp)),
    join_concat]
  by_cases root : names = []
  · subst root
    rw [if_pos rfl]
    cases double <;> simp [render_root, join]
  · rw [if_neg root, render_of_ne_nil root]
    simp

theorem foldl_push_render {parts : List (List Char)} (double : Bool)
    (proper : ∀ name ∈ names, IsName name) (proper' : ∀ part ∈ parts, IsName part) :
    parts.foldl push (render double names false) = render double (names ++ parts) false := by
  induction parts generalizing names with
  | nil => rw [List.foldl_nil, List.append_nil]
  | cons part parts ih =>
      obtain ⟨first, others⟩ := List.forall_mem_cons.mp proper'
      have more : ∀ name ∈ names ++ [part], IsName name := by
        intro name member
        rcases List.mem_append.mp member with old | new
        · exact proper name old
        · exact List.mem_singleton.mp new ▸ first
      rw [List.foldl_cons, push_render_name proper, ih more others, List.append_assoc,
        List.singleton_append]

/-- Pushing the empty component puts a slash at the end. -/
theorem push_render_nil (proper : ∀ name ∈ names, IsName name) :
    push (render double names false) [] = render double names true := by
  rw [push_render proper]
  by_cases root : names = []
  · rw [if_pos root, root, render_root, render_root, List.append_nil]
  · rw [if_neg root, render_of_ne_nil root, render_of_ne_nil root]
    simp

/-- The names that a path leads along from the root: its own, behind those of the directory if
it does not begin at the root. -/
def namesFrom (names : List (List Char)) (s : List Char) : List (List Char) :=
  (if isRooted s then [] else names) ++ components s

theorem isName_of_mem_namesFrom (proper : ∀ name ∈ names, IsName name)
    (member : part ∈ namesFrom names s) : IsName part := by
  rcases List.mem_append.mp member with first | last
  · split at first
    · cases first
    · exact proper part first
  · exact isName_of_mem_components last

theorem start_render (names : List (List Char)) (s : List Char) :
    start (render false names false) s =
      render (hasDoubleRoot s) (if isRooted s then [] else names) false := by
  rw [start]
  cases rooted : isRooted s with
  | true => rw [if_pos rfl, if_pos rfl, render_root]
  | false =>
      rw [if_neg Bool.false_ne_true, if_neg Bool.false_ne_true,
        hasDoubleRoot_of_not_isRooted rooted]

/-- Any path but the empty one is made absolute to a normal form. -/
theorem absoluteChars_eq (nonempty : s ≠ []) (proper : ∀ name ∈ names, IsName name) :
    absoluteChars (render false names false) s =
      render (hasDoubleRoot s) (namesFrom names s) (endsWithSlash s) := by
  have begins : ∀ name ∈ if isRooted s then [] else names, IsName name := by
    intro name member
    exact isName_of_mem_namesFrom proper (List.mem_append_left _ member)
  have parts : ∀ part ∈ components s, IsName part := fun _ => isName_of_mem_components
  have whole := foldl_push_render (hasDoubleRoot s) begins parts
  rw [absoluteChars, if_neg nonempty, start_render, whole, ← namesFrom]
  cases endsWithSlash s with
  | true => exact push_render_nil fun _ => isName_of_mem_namesFrom proper
  | false => rfl

/-- A normal form is absolute already, whichever the directory is. -/
theorem absoluteChars_render (directory : List Char) (proper : ∀ name ∈ names, IsName name) :
    absoluteChars directory (render double names slash) = render double names slash := by
  have rooted : isRooted (render double names slash) = true := isRooted_render
  have anywhere : absoluteChars directory (render double names slash) =
      absoluteChars (render false [] false) (render double names slash) := by
    simp only [absoluteChars, start, rooted, if_true]
  rw [anywhere, absoluteChars_eq render_ne_nil (by simp), hasDoubleRoot_render proper, namesFrom,
    if_pos rooted, List.nil_append, components_render proper]
  by_cases root : names = []
  · rw [root, render_root, render_root]
  · rw [endsWithSlash_render proper root]

/-! ### Normalization -/

/-- A directory as a path in normal form: the root, or names without a slash at the end. -/
def IsClean (directory : String) : Prop :=
  ∃ names, (∀ name ∈ names, IsName name) ∧ directory.toList = render false names false

/-- The parts of a path that lead upwards. -/
def parents (s : List Char) : List (List Char) :=
  (Text.split '/' s).filter (· == ['.', '.'])

/-- The result is a normal form, and it is that of the path. -/
structure IsNormalized (directory path result : String) : Prop where
  again : absolute directory result = result
  empty : path = "" → result = ""
  rooted : path ≠ "" → isRooted result.toList = true
  noDot : ['.'] ∉ Text.split '/' result.toList
  /-- Only the first slash can have another one behind it. -/
  single : ¬ ['/', '/'] <:+: result.toList.tail
  double : hasDoubleRoot result.toList = hasDoubleRoot path.toList
  components : path ≠ "" → components result.toList =
    (if isRooted path.toList then [] else components directory.toList) ++ components path.toList
  parents : path ≠ "" → parents result.toList =
    (if isRooted path.toList then [] else parents directory.toList) ++ parents path.toList
  /-- The slash at the end is that of the root or one that the path has, too. -/
  ends : endsWithSlash result.toList = true ↔
    result = "/" ∨ result = "//" ∨ endsWithSlash path.toList = true

theorem toList_absolute (directory path : String) :
    (absolute directory path).toList = absoluteChars directory.toList path.toList :=
  String.toList_ofList

theorem parents_render (proper : ∀ name ∈ names, IsName name) :
    parents (render double names slash) = names.filter (· == ['.', '.']) :=
  filter_split_render proper rfl

/-- No component that leads upwards is left out. -/
theorem filter_components (s : List Char) :
    (components s).filter (· == ['.', '.']) = parents s := by
  rw [components, parents, List.filter_filter]
  refine List.filter_congr fun part _ => ?_
  by_cases up : part = ['.', '.'] <;> simp [up]

theorem notDot_render (proper : ∀ name ∈ names, IsName name) :
    ['.'] ∉ Text.split '/' (render double names slash) := by
  intro member
  obtain ⟨before, after, found, empty, empty'⟩ := split_render proper double slash
  rw [found, List.mem_append, List.mem_append] at member
  rcases member with early | named | late
  · cases empty _ early
  · exact (proper _ named).2.1 rfl
  · cases empty' _ late

theorem not_infix_render (proper : ∀ name ∈ names, IsName name) :
    ¬ ['/', '/'] <:+: (render double names slash).tail := by
  have single := not_infix_body proper slash
  rw [render]
  split
  · exact single
  · exact fun repeated => single (repeated.trans (List.tail_suffix _).isInfix)

/-- The slash at the end of the root is there in any case. -/
theorem endsWithSlash_render_iff (proper : ∀ name ∈ names, IsName name) :
    endsWithSlash (render double names slash) = true ↔
      render double names slash = ['/'] ∨ render double names slash = ['/', '/'] ∨
        slash = true := by
  by_cases root : names = []
  · subst root
    cases double with
    | false => exact iff_of_true rfl (.inl rfl)
    | true => exact iff_of_true rfl (.inr (.inl rfl))
  · rw [endsWithSlash_render proper root]
    have notRoot : ∀ {s : List Char}, components s = [] → render double names slash ≠ s := by
      intro s empty same
      rw [← same, components_render proper] at empty
      exact root empty
    rw [or_iff_right (notRoot rfl), or_iff_right (notRoot rfl)]

theorem isNormalized_empty (directory : String) : IsNormalized directory "" "" where
  again := rfl
  empty _ := rfl
  rooted nonempty := absurd rfl nonempty
  noDot := by decide
  single := fun h => absurd h.length_le (by decide)
  double := rfl
  components nonempty := absurd rfl nonempty
  parents nonempty := absurd rfl nonempty
  ends := by decide

/-- What a path is made absolute to is in normal form. -/
theorem isNormalized_absolute {directory : String} (clean : IsClean directory) (path : String) :
    IsNormalized directory path (absolute directory path) := by
  by_cases empty : path = ""
  · subst empty
    exact isNormalized_empty directory
  obtain ⟨names, proper, directory_eq⟩ := clean
  have result := absoluteChars_eq (s := path.toList) (by simpa using empty) proper
  rw [← directory_eq, ← toList_absolute] at result
  have proper' : ∀ name ∈ namesFrom names path.toList, IsName name := fun _ member =>
    isName_of_mem_namesFrom proper member
  refine ⟨?again, fun same => absurd same empty, fun _ => ?rooted, ?noDot, ?single, ?double,
    fun _ => ?components, fun _ => ?parents, ?ends⟩
  case again =>
    rw [← String.toList_inj, toList_absolute, result]
    exact absoluteChars_render directory.toList proper'
  case rooted =>
    rw [result]
    exact isRooted_render
  case noDot =>
    rw [result]
    exact notDot_render proper'
  case single =>
    rw [result]
    exact not_infix_render proper'
  case double =>
    rw [result]
    exact hasDoubleRoot_render proper'
  case components =>
    rw [result, directory_eq, components_render proper', components_render proper, namesFrom]
  case parents =>
    rw [result, directory_eq, parents_render proper', parents_render proper, namesFrom,
      List.filter_append, filter_components]
    split <;> rfl
  case ends =>
    rw [← String.toList_inj, ← String.toList_inj, result]
    exact endsWithSlash_render_iff proper'

/-- A result that is not empty begins at the root. -/
theorem IsNormalized.eq_empty_or_isRooted {directory path result : String}
    (h : IsNormalized directory path result) : result = "" ∨ isRooted result.toList = true := by
  by_cases empty : path = ""
  · exact .inl (h.empty empty)
  · exact .inr (h.rooted empty)

end ShellLaunch.Path

/-! ### File paths -/

namespace ShellLaunch.FilePath

variable {directory : FilePath} {path token : String}

theorem eq_of_text? {path : FilePath} (h : path.text? = some token) : path = token := by
  cases path with
  | text => exact congrArg text (Option.some.inj h)
  | foreign => cases h

@[simp] theorem absolute_empty (directory : FilePath) : directory.absolute "" = "" := by
  cases directory <;> rfl

/-- A path is shown alike whether it is text or not. -/
theorem shown_absolute (directory : FilePath) (path : String) :
    (directory.absolute path).shown = Path.absolute directory.shown path := by
  cases directory with
  | text => rfl
  | foreign =>
      rw [absolute]
      split <;> rfl

/-- A text that a path is made absolute to is absolute already. -/
theorem absolute_again (clean : Path.IsClean directory.shown)
    (h : directory.absolute path = token) : directory.absolute token = token := by
  have normal := Path.isNormalized_absolute clean path
  rw [← shown_absolute, h] at normal
  have again : Path.absolute directory.shown token = token := normal.again
  cases directory with
  | text => exact congrArg text again
  | foreign =>
      have begins : token = "" ∨ Path.isRooted token.toList = true := normal.eq_empty_or_isRooted
      rw [absolute, if_pos begins]
      exact congrArg text again

end ShellLaunch.FilePath
