import Mathlib.Data.List.Basic
import ShellLaunch.Json

/-!
# What a JSON text determines

A value can be told from its text. It can even be cancelled from the front of a longer text, as
long as no digit follows that would make a number longer (`cancels_chars`): the first character
says which kind of value is written, an escaped character is no beginning of another one, and
between the brackets of a list each item ends where a comma or the last line begins.
-/

namespace ShellLaunch.Json

/-- Induction over a value and all that is inside its brackets. -/
theorem induct {motive : Json → Prop} (null : motive .null)
    (boolean : ∀ value, motive (.boolean value)) (number : ∀ value, motive (.number value))
    (string : ∀ text, motive (.string text))
    (list : ∀ items, (∀ item ∈ items, motive item) → motive (.list items))
    (object : ∀ fields, (∀ field ∈ fields, motive field.2) → motive (.object fields))
    (value : Json) : motive value := by
  -- The motives are for values, lists of items, lists of fields, and fields.
  refine @Json.rec motive (fun items => ∀ item ∈ items, motive item)
    (fun fields => ∀ field ∈ fields, motive field.2) (fun field => motive field.2)
    null boolean number string list object ?_ ?_ ?_ ?_ ?_ value
  · exact List.forall_mem_nil _
  · exact fun _ _ first others => List.forall_mem_cons.mpr ⟨first, others⟩
  · exact List.forall_mem_nil _
  · exact fun _ _ first others => List.forall_mem_cons.mpr ⟨first, others⟩
  · exact fun _ _ written => written

variable {c d : Char} {s t : List Char} {depth : Nat}

/-! ### Strings -/

/-- The characters that are not written as they are. -/
def escaped : List Char :=
  '"' :: '\\' :: (List.range 0x20).map Char.ofNat

theorem le_toNat_of_not_mem (plain : c ∉ escaped) : 0x20 ≤ c.toNat := by
  by_contra control
  have found : c ∈ (List.range 0x20).map Char.ofNat :=
    List.mem_map.mpr ⟨c.toNat, List.mem_range.mpr (by omega), Char.ofNat_toNat c⟩
  exact plain (List.mem_cons_of_mem _ (List.mem_cons_of_mem _ found))

theorem escape_of_not_mem (plain : c ∉ escaped) : escape c = [c] := by
  have control : ¬ c.toNat < 0x20 := Nat.not_lt_of_le (le_toNat_of_not_mem plain)
  have other : ∀ special ∈ escaped, c ≠ special := by
    rintro special member rfl
    exact plain member
  rw [escape, if_neg (other _ (by decide)), if_neg (other _ (by decide)),
    if_neg (other _ (by decide)), if_neg (other _ (by decide)), if_neg (other _ (by decide)),
    if_neg (other _ (by decide)), if_neg (other _ (by decide)), if_neg control]

theorem head_escape_of_mem (member : c ∈ escaped) : (escape c).head? = some '\\' := by
  have table : escaped.all fun c => (escape c).head? == some '\\' := by decide +kernel
  exact beq_iff_eq.mp (List.all_eq_true.mp table c member)

theorem eq_of_prefix_of_mem (first : c ∈ escaped) (second : d ∈ escaped)
    (begins : escape c <+: escape d) : c = d := by
  have table : escaped.all fun c => escaped.all fun d =>
      !(escape c).isPrefixOf (escape d) || c == d := by decide +kernel
  have apart := List.all_eq_true.mp (List.all_eq_true.mp table c first) d second
  rw [List.isPrefixOf_iff_prefix.mpr begins] at apart
  exact beq_iff_eq.mp apart

theorem exists_escape (c : Char) : ∃ first rest, escape c = first :: rest ∧ first ≠ '"' := by
  by_cases member : c ∈ escaped
  · obtain ⟨rest, starts⟩ := List.head?_eq_some_iff.mp (head_escape_of_mem member)
    exact ⟨'\\', rest, starts, by decide⟩
  · refine ⟨c, [], escape_of_not_mem member, ?_⟩
    rintro rfl
    exact member (by decide)

/-- No character is written as the beginning of another one. -/
theorem eq_of_prefix_escape (begins : escape c <+: escape d) : c = d := by
  have heads : (escape c).head? = (escape d).head? := by
    obtain ⟨more, longer⟩ := begins
    obtain ⟨_, _, starts, -⟩ := exists_escape c
    rw [← longer, starts]
    rfl
  by_cases first : c ∈ escaped <;> by_cases second : d ∈ escaped
  · exact eq_of_prefix_of_mem first second begins
  · rw [head_escape_of_mem first, escape_of_not_mem second] at heads
    cases heads
    exact absurd (by decide) second
  · rw [head_escape_of_mem second, escape_of_not_mem first] at heads
    cases heads
    exact absurd (by decide) first
  · rw [escape_of_not_mem first, escape_of_not_mem second] at heads
    exact Option.some.inj heads

theorem escape_append_inj (h : escape c ++ s = escape d ++ t) : c = d ∧ s = t := by
  have same : c = d := by
    rcases List.prefix_or_prefix_of_prefix (List.prefix_append (escape c) s)
      (h ▸ List.prefix_append (escape d) t) with begins | begins
    · exact eq_of_prefix_escape begins
    · exact (eq_of_prefix_escape begins).symm
  subst same
  exact ⟨rfl, List.append_cancel_left h⟩

theorem flatMap_escape_inj {xs ys : List Char}
    (h : xs.flatMap escape ++ '"' :: s = ys.flatMap escape ++ '"' :: t) : xs = ys ∧ s = t := by
  have unclosed : ∀ {c : Char} {s t : List Char}, escape c ++ s ≠ '"' :: t := by
    intro c s t same
    obtain ⟨_, _, starts, notQuote⟩ := exists_escape c
    rw [starts] at same
    exact notQuote (List.cons.inj same).1
  induction xs generalizing ys with
  | nil =>
      cases ys with
      | nil => exact ⟨rfl, (List.cons.inj h).2⟩
      | cons d ys =>
          rw [List.flatMap_cons, List.append_assoc] at h
          exact absurd h.symm unclosed
  | cons c xs ih =>
      rw [List.flatMap_cons, List.append_assoc] at h
      cases ys with
      | nil => exact absurd h unclosed
      | cons d ys =>
          rw [List.flatMap_cons, List.append_assoc] at h
          obtain ⟨rfl, rest⟩ := escape_append_inj h
          obtain ⟨rfl, after⟩ := ih rest
          exact ⟨rfl, after⟩

theorem quoted_append_inj {x y : String} (h : quoted x ++ s = quoted y ++ t) : x = y ∧ s = t := by
  have inside : x.toList.flatMap escape ++ '"' :: s = y.toList.flatMap escape ++ '"' :: t := by
    simpa [quoted] using h
  obtain ⟨same, rest⟩ := flatMap_escape_inj inside
  exact ⟨String.toList_inj.mp same, rest⟩

/-! ### Numbers -/

/-- The text goes on with no digit. -/
def Stops (rest : List Char) : Prop :=
  ∀ c ∈ rest.head?, c.isDigit = false

theorem stops_cons (h : c.isDigit = false) : Stops (c :: s) := by
  rintro _ ⟨⟩
  exact h

theorem takeWhile_toDigits (n : Nat) (stops : Stops s) :
    (Nat.toDigits 10 n ++ s).takeWhile Char.isDigit = Nat.toDigits 10 n := by
  have digits : ∀ c ∈ Nat.toDigits 10 n, c.isDigit = true := fun _ =>
    Nat.isDigit_of_mem_toDigits (by decide) (by decide)
  rw [List.takeWhile_append_of_pos digits, List.append_right_eq_self]
  cases s with
  | nil => rfl
  | cons c s => exact List.takeWhile_cons_of_neg (by simp [stops c rfl])

theorem toDigits_append_inj {n m : Nat} (stops : Stops s) (stops' : Stops t)
    (h : Nat.toDigits 10 n ++ s = Nat.toDigits 10 m ++ t) : n = m ∧ s = t := by
  have digits : Nat.toDigits 10 n = Nat.toDigits 10 m := by
    rw [← takeWhile_toDigits n stops, h, takeWhile_toDigits m stops']
  refine ⟨?_, ?_⟩
  · rw [← @Nat.ofDigitChars_toDigits 10 n (by decide) (by decide), digits,
      Nat.ofDigitChars_toDigits (by decide) (by decide)]
  · rw [digits] at h
    exact List.append_cancel_left h

/-! ### Brackets -/

variable {α : Type} {written : α → List Char} {xs ys : List α} {opening closing : Char}

/-- What is written can be cancelled from the front of a longer text that stops its numbers. -/
def Cancels (written : α → List Char) (x : α) : Prop :=
  ∀ (y : α) (s t : List Char), Stops s → Stops t →
    written x ++ s = written y ++ t → x = y ∧ s = t

/-- An element on a line of its own, behind a comma. -/
def line (depth : Nat) (written : α → List Char) (x : α) : List Char :=
  ',' :: newLine depth ++ written x

/-- Elements between brackets that are `depth` levels in. -/
def bracketed (opening closing : Char) (depth : Nat) (written : α → List Char) :
    List α → List Char
  | [] => [opening, closing]
  | x :: xs =>
    opening :: newLine (depth + 1) ++ written x ++ xs.flatMap (line (depth + 1) written) ++
      newLine depth ++ [closing]

theorem stops_lines (xs : List α) : Stops (xs.flatMap (line depth written) ++ '\n' :: s) := by
  cases xs with
  | nil => exact stops_cons (by decide)
  | cons => exact stops_cons (by decide)

/-- Elements end at the line behind them, which no comma begins. -/
theorem lines_append_inj (cancels : ∀ x ∈ xs, Cancels written x)
    (h : xs.flatMap (line depth written) ++ '\n' :: s =
      ys.flatMap (line depth written) ++ '\n' :: t) : xs = ys ∧ s = t := by
  induction xs generalizing ys with
  | nil =>
      cases ys with
      | nil => exact ⟨rfl, (List.cons.inj h).2⟩
      | cons => cases h
  | cons x xs ih =>
      cases ys with
      | nil => cases h
      | cons y ys =>
          obtain ⟨first, others⟩ := List.forall_mem_cons.mp cancels
          simp only [List.flatMap_cons, line, List.cons_append, List.append_assoc,
            List.cons.injEq, true_and, List.append_cancel_left_eq] at h
          obtain ⟨rfl, behind⟩ := first y _ _ (stops_lines xs) (stops_lines ys) h
          obtain ⟨rfl, after⟩ := ih others behind
          exact ⟨rfl, after⟩

theorem bracketed_append_inj (closes : closing ≠ '\n') (cancels : ∀ x ∈ xs, Cancels written x)
    (h : bracketed opening closing depth written xs ++ s =
      bracketed opening closing depth written ys ++ t) : xs = ys ∧ s = t := by
  -- The second character tells an empty pair of brackets from one with lines between.
  cases xs with
  | nil =>
      cases ys with
      | nil => exact ⟨rfl, List.append_cancel_left h⟩
      | cons => exact absurd (List.cons.inj (List.cons.inj h).2).1 closes
  | cons x xs =>
      cases ys with
      | nil => exact absurd (List.cons.inj (List.cons.inj h).2).1.symm closes
      | cons y ys =>
          have lines :
              (x :: xs).flatMap (line (depth + 1) written) ++ (newLine depth ++ closing :: s) =
                (y :: ys).flatMap (line (depth + 1) written) ++
                  (newLine depth ++ closing :: t) := by
            simpa [bracketed, line] using h
          obtain ⟨same, behind⟩ := lines_append_inj cancels lines
          exact ⟨same, (List.cons.inj (List.append_cancel_left behind)).2⟩

/-! ### Values -/

def fieldChars (depth : Nat) (field : String × Json) : List Char :=
  quoted field.1 ++ [':', ' '] ++ field.2.chars depth

theorem itemsChars_eq (items : List Json) :
    itemsChars depth items = items.flatMap (line depth (chars depth)) := by
  induction items with
  | nil => rfl
  | cons item items ih => rw [itemsChars, ih, List.flatMap_cons, line]

theorem fieldsChars_eq (fields : List (String × Json)) :
    fieldsChars depth fields = fields.flatMap (line depth (fieldChars depth)) := by
  induction fields with
  | nil => rfl
  | cons field fields ih =>
      rw [fieldsChars, ih, List.flatMap_cons, line, fieldChars]
      simp

theorem chars_list (items : List Json) :
    (list items).chars depth = bracketed '[' ']' depth (chars (depth + 1)) items := by
  cases items with
  | nil => rfl
  | cons => rw [chars, itemsChars_eq, bracketed]

theorem chars_object (fields : List (String × Json)) :
    (object fields).chars depth =
      bracketed '\x7b' '\x7d' depth (fieldChars (depth + 1)) fields := by
  cases fields with
  | nil => rfl
  | cons =>
      rw [chars, fieldsChars_eq, bracketed, fieldChars]
      simp

theorem cancels_fieldChars {field : String × Json} (cancels : Cancels (chars depth) field.2) :
    Cancels (fieldChars depth) field := by
  intro other s t stops stops' h
  simp only [fieldChars, List.append_assoc] at h
  obtain ⟨name_eq, behind⟩ := quoted_append_inj h
  obtain ⟨value_eq, after⟩ := cancels other.2 s t stops stops' (List.append_cancel_left behind)
  exact ⟨Prod.ext name_eq value_eq, after⟩

/-- The kind of a value, as a character that can begin its text. -/
def mark : Json → Char
  | null => 'n'
  | boolean _ => 't'
  | number _ => '0'
  | string _ => '"'
  | list _ => '['
  | object _ => '\x7b'

/-- The kind of the value whose text begins with a character. -/
def markOf (first : Char) : Char :=
  if first.isDigit then '0' else if first = 'f' then 't' else first

theorem exists_chars (depth : Nat) (value : Json) :
    ∃ first rest, value.chars depth = first :: rest ∧ markOf first = value.mark := by
  cases value with
  | null => exact ⟨_, _, rfl, rfl⟩
  | boolean value => cases value <;> exact ⟨_, _, rfl, rfl⟩
  | number value =>
      have nonempty : Nat.toDigits 10 value ≠ [] := Nat.toDigits_ne_nil
      obtain ⟨first, rest, digits⟩ := List.exists_cons_of_ne_nil nonempty
      have isDigit : first.isDigit = true :=
        Nat.isDigit_of_mem_toDigits (by decide) (by decide) (digits ▸ List.mem_cons_self)
      exact ⟨first, rest, digits, if_pos isDigit⟩
  | string text => exact ⟨_, _, rfl, rfl⟩
  | list items => cases items <;> exact ⟨_, _, rfl, rfl⟩
  | object fields => cases fields <;> exact ⟨_, _, rfl, rfl⟩

theorem mark_eq {a b : Json} (h : a.chars depth ++ s = b.chars depth ++ t) : a.mark = b.mark := by
  obtain ⟨_, _, starts, mark_eq⟩ := exists_chars depth a
  obtain ⟨_, _, starts', mark_eq'⟩ := exists_chars depth b
  rw [starts, starts'] at h
  rw [← mark_eq, ← mark_eq', (List.cons.inj h).1]

/-- A value can be cancelled from the front of a longer text that stops its numbers. -/
theorem cancels_chars (value : Json) : ∀ depth, Cancels (chars depth) value := by
  induction value using induct with
  | null =>
      intro depth other s t _ _ h
      have marks := mark_eq h
      cases other with
      | null => exact ⟨rfl, List.append_cancel_left h⟩
      | _ => cases marks
  | boolean value =>
      intro depth other s t _ _ h
      have marks := mark_eq h
      cases other with
      | boolean other =>
          cases value <;> cases other <;> first
            | exact ⟨rfl, List.append_cancel_left h⟩
            | cases h
      | _ => cases marks
  | number value =>
      intro depth other s t stops stops' h
      have marks := mark_eq h
      cases other with
      | number other =>
          obtain ⟨rfl, behind⟩ := toDigits_append_inj stops stops' h
          exact ⟨rfl, behind⟩
      | _ => cases marks
  | string text =>
      intro depth other s t _ _ h
      have marks := mark_eq h
      cases other with
      | string other =>
          obtain ⟨rfl, behind⟩ := quoted_append_inj h
          exact ⟨rfl, behind⟩
      | _ => cases marks
  | list items cancels =>
      intro depth other s t _ _ h
      have marks := mark_eq h
      cases other with
      | list others =>
          rw [chars_list, chars_list] at h
          have inside : ∀ item ∈ items, Cancels (chars (depth + 1)) item :=
            fun item member => cancels item member (depth + 1)
          obtain ⟨rfl, behind⟩ := bracketed_append_inj (by decide) inside h
          exact ⟨rfl, behind⟩
      | _ => cases marks
  | object fields cancels =>
      intro depth other s t _ _ h
      have marks := mark_eq h
      cases other with
      | object others =>
          rw [chars_object, chars_object] at h
          have inside : ∀ field ∈ fields, Cancels (fieldChars (depth + 1)) field :=
            fun field member => cancels_fieldChars (cancels field member (depth + 1))
          obtain ⟨rfl, behind⟩ := bracketed_append_inj (by decide) inside h
          exact ⟨rfl, behind⟩
      | _ => cases marks

/-- No two values have the same text. -/
theorem text_inj {a b : Json} : a.text = b.text ↔ a = b := by
  constructor
  · intro same
    have chars_eq : a.chars 0 ++ [] = b.chars 0 ++ [] := by
      rw [List.append_nil, List.append_nil]
      exact String.ofList_injective same
    exact (cancels_chars a 0 b [] [] nofun nofun chars_eq).1
  · rintro rfl
    rfl

end ShellLaunch.Json
