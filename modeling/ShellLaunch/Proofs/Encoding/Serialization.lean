import ShellLaunch.Proofs.Encoding.ArgumentList
import ShellLaunch.Proofs.Encoding.Command
import ShellLaunch.Proofs.Encoding.Entity
import ShellLaunch.Proofs.Encoding.UnitEscape

/-!
# Serialized argument lists are read back

A list of strings can be spelled in many ways: the code units of any character may be escaped,
any character of what that yields may be written as a reference, a string may have blanks around
it, and the empty string has two short forms. The spellings are told without a reader, layer by
layer, and each layer of the reader undoes its own. So every spelling of a list, in any document
and encoded as a command is, is read as that list (`decodeArguments_of_serializes`).
-/

namespace ShellLaunch.Encoding

open Text (Numeral isBlank trimStart)

variable {text item body document : List Char} {value : String} {values : List String}

namespace ArgumentList

/-! ### Spellings -/

/-- The ways to write a string of a list. -/
inductive SpellsItem : String → List Char → Prop where
  | text {value : String} {plain written : List Char}
      (escaped : UnitEscape.Spells value.toList plain) (referenced : Entity.Spells plain written) :
      SpellsItem value ("<S>".toList ++ written ++ "</S>".toList)
  | short : SpellsItem "" "<S/>".toList
  | spaced : SpellsItem "" "<S />".toList

/-- The ways to write strings in a row. -/
inductive Spells : List String → List Char → Prop where
  | blanks {blanks : List Char} (blank : ∀ c ∈ blanks, isBlank c = true) : Spells [] blanks
  | item {blanks item rest : List Char} {value : String} {values : List String}
      (blank : ∀ c ∈ blanks, isBlank c = true) (first : SpellsItem value item)
      (others : Spells values rest) : Spells (value :: values) (blanks ++ item ++ rest)

/-- The ways to write a document with a list of strings in it. -/
inductive Serializes : List String → List Char → Prop where
  | document {head body tail : List Char} {values : List String}
      (root : "<Objs".toList <+: trimStart head) (first : ¬ "<LST>".toList <:+: head)
      (strings : Spells values body) :
      Serializes values (head ++ "<LST>".toList ++ (body ++ "</LST>".toList ++ tail))

/-! ### Each layer is undone -/

theorem item_of_spellsItem (h : SpellsItem value item) : Item item value := by
  cases h with
  | @text _ plain written escaped referenced =>
      have free : ¬ "</S>".toList <:+: written := fun closes =>
        referenced.not_mem (closes.subset (by decide))
      have item := Item.text free (Entity.decode_of_spells referenced)
        (UnitEscape.decode_of_spells escaped)
      rwa [String.ofList_toList] at item
  | short => exact .short
  | spaced => exact .spaced

theorem items_of_spells (h : Spells values body) : Items body values := by
  induction h with
  | blanks blank => exact .blanks blank
  | item blank first _ ih => exact .item blank (item_of_spellsItem first) ih

/-- No end of a list begins in a string. -/
theorem listEnd_infix_append_iff (h : SpellsItem value item) (rest : List Char) :
    "</LST>".toList <:+: item ++ rest ↔ "</LST>".toList <:+: rest := by
  cases h with
  | @text _ plain written _ referenced =>
      have inside : ∀ rest, "</LST>".toList <:+: written ++ rest ↔ "</LST>".toList <:+: rest :=
        fun rest => Text.infix_append_iff referenced.not_mem
      simp only [String.reduceToList] at inside ⊢
      simp [List.infix_cons_iff, inside]
  | short => simp [List.infix_cons_iff]
  | spaced => simp [List.infix_cons_iff]

theorem not_listEnd_infix (h : Spells values body) : ¬ "</LST>".toList <:+: body := by
  have notTag : ∀ {blanks : List Char}, (∀ c ∈ blanks, isBlank c = true) → '<' ∉ blanks :=
    fun blank member => absurd (blank '<' member) (by decide)
  induction h with
  | blanks blank => exact fun ends => notTag blank (ends.subset (by decide))
  | @item blanks item rest _ _ blank first _ ih =>
      have start : "</LST>".toList <:+: blanks ++ (item ++ rest) ↔
          "</LST>".toList <:+: item ++ rest :=
        Text.infix_append_iff (notTag blank)
      rw [List.append_assoc, start, listEnd_infix_append_iff first]
      exact ih

/-- A text that does not consist of blanks is trimmed whatever follows it. -/
theorem trimStart_append (h : trimStart text ≠ []) (rest : List Char) :
    trimStart (text ++ rest) = trimStart text ++ rest := by
  rw [trimStart] at h
  rw [trimStart, List.dropWhile_append, if_neg (by simpa using h), ← trimStart]

theorem encloses_of_document {head : List Char} (root : "<Objs".toList <+: trimStart head)
    (first : ¬ "<LST>".toList <:+: head) (strings : Spells values body) (tail : List Char) :
    Encloses (head ++ "<LST>".toList ++ (body ++ "</LST>".toList ++ tail)) body := by
  refine ⟨?_, head, tail, rfl, first, not_listEnd_infix strings⟩
  have begun : trimStart head ≠ [] := by
    intro blank
    rw [blank, List.prefix_nil] at root
    exact absurd root (by decide)
  rw [List.append_assoc, trimStart_append begun]
  exact root.trans (List.prefix_append _ _)

theorem parse_of_serializes (h : Serializes values document) : parse document = .ok values := by
  cases h with
  | @document _ _ tail _ root first strings =>
      have enclosed := encloses_of_document root first strings tail
      exact parse_eq_ok_iff.mpr ⟨_, enclosed, items_of_spells strings⟩

/-! ### Every list has a spelling -/

theorem exists_spells (values : List String) : ∃ body, Spells values body := by
  induction values with
  | nil => exact ⟨[], .blanks (List.forall_mem_nil _)⟩
  | cons value values ih =>
      obtain ⟨plain, escaped⟩ := UnitEscape.exists_spells value.toList
      obtain ⟨written, referenced⟩ := Entity.exists_spells plain
      obtain ⟨body, others⟩ := ih
      exact ⟨_, .item (List.forall_mem_nil _) (.text escaped referenced) others⟩

theorem exists_serializes (values : List String) : ∃ document, Serializes values document := by
  obtain ⟨body, strings⟩ := exists_spells values
  exact ⟨_, @Serializes.document "<Objs>".toList _ [] _ (by decide) (by decide +kernel) strings⟩

end ArgumentList

/-! ### Encoded lists -/

open ArgumentList (Serializes Spells)

/-- An encoded document is read as that document. -/
theorem decodeArguments_text (document : List Char) :
    decodeArguments (Base64.text (Utf16.toBytes (Utf16.encode document))) =
      ArgumentList.parse document := by
  have command : decodeCommand (Base64.text (Utf16.toBytes (Utf16.encode document))) =
      .ok (String.ofList document) := by
    rw [decodeCommand_eq_ok_iff, encodeCommand_eq_text, String.toList_ofList]
  rw [decodeArguments, command]
  simp only [String.toList_ofList]

/-- Any list of strings can be given. -/
theorem exists_decodeArguments (values : List String) :
    ∃ value, decodeArguments value = .ok values := by
  obtain ⟨document, serializes⟩ := ArgumentList.exists_serializes values
  exact ⟨_, (decodeArguments_text document).trans (ArgumentList.parse_of_serializes serializes)⟩

/-- Whatever spelling of a list is encoded, that list is read: no string is lost, added, moved
or changed. -/
theorem decodeArguments_of_serializes (h : Serializes values document) :
    decodeArguments (Base64.text (Utf16.toBytes (Utf16.encode document))) = .ok values := by
  rw [decodeArguments_text]
  exact ArgumentList.parse_of_serializes h

/-- A document in which blanks, escapes and references of every kind meet. -/
def sample : List Char :=
  "<Objs><LST> <S>&#x61;&#95;x000a_&lt;</S>\n<S/><S>__x005F_x_xD83D__xde00_ </S></LST>".toList

theorem decodeArguments_of_serializes_sample :
    Serializes ["a\n<", "", "__x😀 "] sample ∧
      decodeArguments (Base64.text (Utf16.toBytes (Utf16.encode sample))) =
        .ok ["a\n<", "", "__x😀 "] := by
  -- the first string: a line break as a unit, and a reference inside its escape
  have newline : UnitEscape.Escapes (Utf16.unitsOfChar '\n') "_x000a_".toList :=
    .of_digits ['0', '0', '0', 'a'] 0x0A rfl rfl .nil
  have letter : Numeral 16 ['6', '1'] 'a'.toNat := (Text.digits?_eq_some_iff (by decide)).mp rfl
  have mark : Numeral 10 ['9', '5'] '_'.toNat := (Text.digits?_eq_some_iff (by decide)).mp rfl
  have less : Entity.Reference '<' "lt".toList :=
    .named (show ("lt", '<') ∈ Entity.names by decide)
  have firstUnits : UnitEscape.Spells "a\n<".toList "a_x000a_<".toList :=
    .raw (by decide) (.escaped newline (.raw (by decide) .nil))
  have firstText : Entity.Spells "a_x000a_<".toList "&#x61;&#95;x000a_&lt;".toList :=
    .reference (.hexadecimal (.inl rfl) letter) (.reference (.decimal mark)
      (.raws "x000a_".toList (by simp) (.reference less .nil)))
  -- the last string: an escaped underscore behind one that is not, and a pair of units
  have face : UnitEscape.Escapes (Utf16.unitsOfChar '😀') "_xD83D__xde00_".toList :=
    .of_digits ['D', '8', '3', 'D'] 0xD83D rfl rfl
      (.of_digits ['d', 'e', '0', '0'] 0xDE00 rfl rfl .nil)
  have lastUnits : UnitEscape.Spells "__x😀 ".toList "__x005F_x_xD83D__xde00_ ".toList :=
    .raw (by decide) (.escaped UnitEscape.escapes_underscore
      (.raw (by decide) (.escaped face (.raw (by decide) .nil))))
  have lastText : Entity.Spells "__x005F_x_xD83D__xde00_ ".toList
      "__x005F_x_xD83D__xde00_ ".toList :=
    .raws "__x005F_x_xD83D__xde00_ ".toList (by simp) .nil
  have strings := Spells.item (List.forall_mem_singleton.mpr (show isBlank ' ' = true by decide))
    (.text firstUnits firstText)
    (.item (List.forall_mem_singleton.mpr (show isBlank '\n' = true by decide)) .short
      (.item (List.forall_mem_nil _) (.text lastUnits lastText) (.blanks (List.forall_mem_nil _))))
  have serializes : Serializes ["a\n<", "", "__x😀 "] sample := by
    have written :=
      @Serializes.document "<Objs>".toList _ [] _ (by decide) (by decide +kernel) strings
    simp only [String.reduceToList, List.cons_append, List.nil_append] at written
    unfold sample
    simp only [String.reduceToList]
    exact written
  exact ⟨serializes, decodeArguments_of_serializes serializes⟩

end ShellLaunch.Encoding
