import ShellLaunch.Encoding.ArgumentList
import ShellLaunch.Proofs.Encoding.Utf16
import ShellLaunch.Proofs.Result
import ShellLaunch.Proofs.Text.Cut

/-!
# The grammar of serialized argument lists

A serialized list is told here without a reader: a document encloses the body of its list in
the first `<LST>` and the first `</LST>` after it, and a body is a row of strings with blanks
around them. Reading accepts what the grammar derives and nothing else, and yields what it
says; a refusal is put down to a lone surrogate where a readable front of the body is followed
by a string that has one (`parse_exact`).
-/

namespace ShellLaunch.Encoding.ArgumentList

open Text (cut? isBlank trimStart)
open Utf16 (HasUnpairedSurrogate)

variable {s front item rest text plain before behind document : List Char}
variable {value : String} {values : List String} {c : Char}

/-! ### The grammar -/

/-- A string in a list, and what it stands for. -/
inductive Item : List Char → String → Prop where
  | short : Item "<S/>".toList ""
  | spaced : Item "<S />".toList ""
  | text {text plain chars : List Char} (free : ¬ "</S>".toList <:+: text)
      (references : Entity.decode text = .ok plain)
      (escapes : UnitEscape.decode plain = some chars) :
      Item ("<S>".toList ++ text ++ "</S>".toList) (String.ofList chars)

/-- The body of a list, and its strings in their order. -/
inductive Items : List Char → List String → Prop where
  | blanks {blanks : List Char} (blank : ∀ c ∈ blanks, isBlank c = true) : Items blanks []
  | item {blanks item rest : List Char} {value : String} {values : List String}
      (blank : ∀ c ∈ blanks, isBlank c = true) (first : Item item value)
      (others : Items rest values) : Items (blanks ++ item ++ rest) (value :: values)

/-- Behind a readable front of the body stands a string that has a surrogate without a partner
once its references and then its escapes are undone. -/
def HasUnpairedItem (body : List Char) : Prop :=
  ∃ front values text plain rest,
    body = front ++ ("<S>".toList ++ text ++ "</S>".toList) ++ rest ∧ Items front values ∧
      ¬ "</S>".toList <:+: text ∧ Entity.decode text = .ok plain ∧
      HasUnpairedSurrogate (UnitEscape.units plain)

/-- The body is what stands in the document between the first `<LST>` and the next `</LST>`. -/
def Encloses (document body : List Char) : Prop :=
  "<Objs".toList <+: trimStart document ∧
    ∃ before behind,
      document = before ++ "<LST>".toList ++ (body ++ "</LST>".toList ++ behind) ∧
        ¬ "<LST>".toList <:+: before ∧ ¬ "</LST>".toList <:+: body

theorem Items.first (first : Item item value) (others : Items rest values) :
    Items (item ++ rest) (value :: values) :=
  .item (List.forall_mem_nil _) first others

theorem Items.single (h : Item item value) : Items item [value] := by
  have alone := Items.first h (.blanks (List.forall_mem_nil _))
  rwa [List.append_nil] at alone

theorem Items.prepend_blanks {blanks : List Char} (blank : ∀ c ∈ blanks, isBlank c = true)
    (h : Items rest values) : Items (blanks ++ rest) values := by
  cases h with
  | blanks others => exact .blanks (List.forall_mem_append.mpr ⟨blank, others⟩)
  | item others first rest =>
      rw [← List.append_assoc, ← List.append_assoc]
      exact .item (List.forall_mem_append.mpr ⟨blank, others⟩) first rest

theorem Items.append {following : List String} (h : Items front values)
    (others : Items rest following) : Items (front ++ rest) (values ++ following) := by
  induction h with
  | blanks blank => exact others.prepend_blanks blank
  | item blank first _ ih =>
      rw [List.append_assoc]
      exact .item blank first ih

/-! ### Marks -/

theorem cut?_listStart_iff :
    cut? "<LST>".toList s = some (before, behind) ↔
      s = before ++ "<LST>".toList ++ behind ∧ ¬ "<LST>".toList <:+: before :=
  Text.cut?_eq_some_iff (by decide : '<' ∉ ['L', 'S', 'T', '>'])

theorem cut?_listEnd_iff :
    cut? "</LST>".toList s = some (before, behind) ↔
      s = before ++ "</LST>".toList ++ behind ∧ ¬ "</LST>".toList <:+: before :=
  Text.cut?_eq_some_iff (by decide : '<' ∉ ['/', 'L', 'S', 'T', '>'])

theorem cut?_stringEnd_iff :
    cut? "</S>".toList s = some (before, behind) ↔
      s = before ++ "</S>".toList ++ behind ∧ ¬ "</S>".toList <:+: before :=
  Text.cut?_eq_some_iff (by decide : '<' ∉ ['/', 'S', '>'])

/-! ### One string -/

theorem decodeItem_of_ok {chars : List Char} (references : Entity.decode text = .ok plain)
    (escapes : UnitEscape.decode plain = some chars) :
    decodeItem text = .ok (String.ofList chars) := by
  simp only [decodeItem, references, escapes]

theorem decodeItem_of_unpaired (references : Entity.decode text = .ok plain)
    (alone : HasUnpairedSurrogate (UnitEscape.units plain)) :
    decodeItem text = .error .unpairedSurrogate := by
  have escapes : UnitEscape.decode plain = none := Utf16.decode_eq_none_iff.mpr alone
  simp only [decodeItem, references, escapes]

/-- What the text of a string comes to. -/
inductive ItemOutcome (text : List Char) : Except Fault String → Prop where
  | value {plain chars : List Char} (references : Entity.decode text = .ok plain)
      (escapes : UnitEscape.decode plain = some chars) :
      ItemOutcome text (.ok (String.ofList chars))
  | unpaired {plain : List Char} (references : Entity.decode text = .ok plain)
      (alone : HasUnpairedSurrogate (UnitEscape.units plain)) :
      ItemOutcome text (.error .unpairedSurrogate)
  | malformed (fault : ListFault) : ItemOutcome text (.error (.list fault))

theorem decodeItem_outcome (text : List Char) : ItemOutcome text (decodeItem text) := by
  cases references : Entity.decode text with
  | error fault =>
      simp only [decodeItem, references]
      exact .malformed fault
  | ok plain =>
      cases escapes : UnitEscape.decode plain with
      | some chars =>
          rw [decodeItem_of_ok references escapes]
          exact .value references escapes
      | none =>
          have alone := Utf16.decode_eq_none_iff.mp escapes
          rw [decodeItem_of_unpaired references alone]
          exact .unpaired references alone

/-! ### What a body begins with -/

theorem readItems_blank (blank : isBlank c = true) (rest : List Char) :
    readItems none (c :: rest) = readItems none rest := by
  have notTag : c ≠ '<' := by
    rintro rfl
    exact absurd blank (by decide)
  rw [readItems.eq_def]
  dsimp only
  split
  · exact (notTag rfl).elim
  · exact (notTag rfl).elim
  · exact (notTag rfl).elim
  · rw [if_pos blank]

theorem readItems_short (rest : List Char) :
    readItems none ("<S/>".toList ++ rest) = (readItems none rest).map ("" :: ·) := rfl

theorem readItems_spaced (rest : List Char) :
    readItems none ("<S />".toList ++ rest) = (readItems none rest).map ("" :: ·) := rfl

theorem readItems_inside_cons (inside : List Char) (goesOn : ¬ "</S>".toList <+: c :: rest) :
    readItems (some inside) (c :: rest) = readItems (some (c :: inside)) rest := by
  rw [readItems.eq_def]
  dsimp only
  split
  next => exact (goesOn (List.prefix_append ['<', '/', 'S', '>'] _)).elim
  next => rfl

/-- Reading inside a string runs to the first `</S>`. -/
theorem readItems_inside (inside s : List Char) :
    readItems (some inside) s =
      match cut? "</S>".toList s with
      | none => .error (.list .unterminatedItem)
      | some (text, rest) =>
        match decodeItem (inside.reverse ++ text) with
        | .error fault => .error fault
        | .ok value => (readItems none rest).map (value :: ·) := by
  induction s generalizing inside with
  | nil => rfl
  | cons c rest ih =>
      by_cases closes : "</S>".toList <+: c :: rest
      · obtain ⟨rest, same⟩ := closes
        have here : cut? "</S>".toList ("</S>".toList ++ rest) = some ([], rest) :=
          cut?_stringEnd_iff.mpr ⟨rfl, by decide⟩
        rw [← same, here]
        dsimp only
        rw [List.append_nil]
        rfl
      · rw [readItems_inside_cons inside closes, ih, cut?,
          if_neg (by rwa [List.isPrefixOf_iff_prefix])]
        cases cut? "</S>".toList rest with
        | none => rfl
        | some parts => simp [List.append_assoc]

theorem readItems_text (free : ¬ "</S>".toList <:+: text) (rest : List Char) :
    readItems none ("<S>".toList ++ text ++ "</S>".toList ++ rest) =
      match decodeItem text with
      | .error fault => .error fault
      | .ok value => (readItems none rest).map (value :: ·) := by
  have opened : readItems none ("<S>".toList ++ text ++ "</S>".toList ++ rest) =
      readItems (some []) (text ++ "</S>".toList ++ rest) := rfl
  rw [opened, readItems_inside, cut?_stringEnd_iff.mpr ⟨rfl, free⟩]
  rfl

theorem readItems_unclosed (free : ¬ "</S>".toList <:+: rest) :
    readItems none ("<S>".toList ++ rest) = .error (.list .unterminatedItem) := by
  have opened : readItems none ("<S>".toList ++ rest) = readItems (some []) rest := rfl
  rw [opened, readItems_inside, Text.cut?_eq_none_iff.mpr free]

theorem readItems_foreign (blank : ¬ isBlank c = true) (short : ¬ "<S/>".toList <+: c :: rest)
    (spaced : ¬ "<S />".toList <+: c :: rest) (opened : ¬ "<S>".toList <+: c :: rest) :
    readItems none (c :: rest) = .error (.list (.unsupportedItem (tag (c :: rest)))) := by
  rw [readItems.eq_def]
  dsimp only
  split
  · exact (short (List.prefix_append ['<', 'S', '/', '>'] _)).elim
  · exact (spaced (List.prefix_append ['<', 'S', ' ', '/', '>'] _)).elim
  · exact (opened (List.prefix_append ['<', 'S', '>'] _)).elim
  · rw [if_neg blank]

/-- The forms of a body that reading tells apart. -/
inductive Body : List Char → Prop where
  | nil : Body []
  | blank {c : Char} {rest : List Char} (blank : isBlank c = true) (others : Body rest) :
      Body (c :: rest)
  | short {rest : List Char} (others : Body rest) : Body ("<S/>".toList ++ rest)
  | spaced {rest : List Char} (others : Body rest) : Body ("<S />".toList ++ rest)
  | text {text rest : List Char} (free : ¬ "</S>".toList <:+: text) (others : Body rest) :
      Body ("<S>".toList ++ text ++ "</S>".toList ++ rest)
  | unclosed {rest : List Char} (free : ¬ "</S>".toList <:+: rest) :
      Body ("<S>".toList ++ rest)
  | foreign {c : Char} {rest : List Char} (blank : ¬ isBlank c = true)
      (short : ¬ "<S/>".toList <+: c :: rest) (spaced : ¬ "<S />".toList <+: c :: rest)
      (opened : ¬ "<S>".toList <+: c :: rest) : Body (c :: rest)

/-- Every text has one of them. -/
theorem body_form (s : List Char) : Body s := by
  induction size : s.length using Nat.strongRecOn generalizing s with
  | ind n ih =>
      have shorter : ∀ rest : List Char, rest.length < s.length → Body rest := by
        intro rest less
        exact ih rest.length (size ▸ less) rest rfl
      by_cases short : "<S/>".toList <+: s
      · obtain ⟨rest, rfl⟩ := short
        exact .short (shorter rest (List.length_append ▸ Nat.lt_add_of_pos_left (by decide)))
      by_cases spaced : "<S />".toList <+: s
      · obtain ⟨rest, rfl⟩ := spaced
        exact .spaced (shorter rest (by simp; omega))
      by_cases opened : "<S>".toList <+: s
      · obtain ⟨inner, rfl⟩ := opened
        cases cut : cut? "</S>".toList inner with
        | none => exact .unclosed (Text.cut?_eq_none_iff.mp cut)
        | some parts =>
            obtain ⟨rfl, free⟩ := cut?_stringEnd_iff.mp cut
            rw [← List.append_assoc, ← List.append_assoc]
            exact .text free (shorter parts.2 (by simp; omega))
      cases s with
      | nil => exact .nil
      | cons c rest =>
          by_cases blank : isBlank c = true
          · exact .blank blank (shorter rest (by simp))
          · exact .foreign blank short spaced opened

/-! ### The body of a list -/

theorem readItems_item (first : Item item value) (rest : List Char) :
    readItems none (item ++ rest) = (readItems none rest).map (value :: ·) := by
  cases first with
  | short => exact readItems_short rest
  | spaced => exact readItems_spaced rest
  | text free references escapes =>
      rw [readItems_text free, decodeItem_of_ok references escapes]

theorem readItems_blanks {blanks : List Char} (blank : ∀ c ∈ blanks, isBlank c = true)
    (rest : List Char) : readItems none (blanks ++ rest) = readItems none rest := by
  induction blanks with
  | nil => rfl
  | cons c blanks ih =>
      obtain ⟨first, others⟩ := List.forall_mem_cons.mp blank
      rw [List.cons_append, readItems_blank first, ih others]

/-- A readable front is read whatever follows it. -/
theorem readItems_append (h : Items front values) (rest : List Char) :
    readItems none (front ++ rest) = (readItems none rest).map (values ++ ·) := by
  induction h with
  | blanks blank =>
      rw [readItems_blanks blank]
      cases readItems none rest <;> rfl
  | item blank first _ ih =>
      rw [List.append_assoc, List.append_assoc, readItems_blanks blank, readItems_item first, ih]
      cases readItems none rest <;> rfl

theorem readItems_of_items (h : Items s values) : readItems none s = .ok values := by
  have read := readItems_append h []
  rw [List.append_nil] at read
  rw [read]
  exact congrArg Except.ok (List.append_nil values)

/-- What reading a body comes to. -/
inductive BodyOutcome (body : List Char) : Except Fault (List String) → Prop where
  | items {values : List String} (items : Items body values) : BodyOutcome body (.ok values)
  | unpaired (unpaired : HasUnpairedItem body) : BodyOutcome body (.error .unpairedSurrogate)
  | malformed (fault : ListFault) : BodyOutcome body (.error (.list fault))

/-- Behind a readable front, a body comes to what the rest of it comes to. -/
theorem BodyOutcome.prepend (h : BodyOutcome rest (readItems none rest))
    (first : Items front values) :
    BodyOutcome (front ++ rest) (readItems none (front ++ rest)) := by
  rw [readItems_append first]
  generalize readItems none rest = result at h
  cases h with
  | items items => exact .items (first.append items)
  | unpaired unpaired =>
      obtain ⟨inner, others, text, plain, behind, rfl, read, unread⟩ := unpaired
      refine .unpaired ⟨front ++ inner, values ++ others, text, plain, behind, ?_,
        first.append read, unread⟩
      simp only [List.append_assoc]
  | malformed fault => exact .malformed fault

theorem readItems_outcome (s : List Char) : BodyOutcome s (readItems none s) := by
  induction body_form s with
  | nil => exact .items (.blanks (List.forall_mem_nil _))
  | blank blank _ ih => exact ih.prepend (.blanks (List.forall_mem_singleton.mpr blank))
  | short _ ih => exact ih.prepend (.single .short)
  | spaced _ ih => exact ih.prepend (.single .spaced)
  | @text text rest free _ ih =>
      have outcome := decodeItem_outcome text
      have read := readItems_text free rest
      generalize decodeItem text = result at outcome read
      cases outcome with
      | value references escapes => exact ih.prepend (.single (.text free references escapes))
      | unpaired references alone =>
          rw [read]
          exact .unpaired ⟨[], [], text, _, rest, rfl, .blanks (List.forall_mem_nil _), free,
            references, alone⟩
      | malformed fault =>
          rw [read]
          exact .malformed fault
  | unclosed free =>
      rw [readItems_unclosed free]
      exact .malformed _
  | foreign blank short spaced opened =>
      rw [readItems_foreign blank short spaced opened]
      exact .malformed _

theorem readItems_eq_ok_iff : readItems none s = .ok values ↔ Items s values := by
  constructor
  · intro read
    have outcome := readItems_outcome s
    rw [read] at outcome
    cases outcome with
    | items items => exact items
  · exact readItems_of_items

/-- A body is made of strings in one way. -/
theorem Items.unique {others : List String} (h : Items s values) (also : Items s others) :
    values = others :=
  Except.ok.inj ((readItems_of_items h).symm.trans (readItems_of_items also))

theorem readItems_eq_unpaired_iff :
    readItems none s = .error .unpairedSurrogate ↔ HasUnpairedItem s := by
  constructor
  · intro refused
    have outcome := readItems_outcome s
    rw [refused] at outcome
    cases outcome with
    | unpaired unpaired => exact unpaired
  · rintro ⟨front, values, text, plain, rest, rfl, read, free, references, alone⟩
    rw [List.append_assoc, readItems_append read, readItems_text free,
      decodeItem_of_unpaired references alone]
    rfl

/-! ### The document -/

/-- A document encloses one body at most. -/
theorem Encloses.unique {body other : List Char} (h : Encloses document body)
    (also : Encloses document other) : body = other := by
  obtain ⟨-, before, behind, split, first, next⟩ := h
  obtain ⟨-, before', behind', split', first', next'⟩ := also
  have sameStart : (before, body ++ "</LST>".toList ++ behind) =
      (before', other ++ "</LST>".toList ++ behind') :=
    Option.some.inj ((cut?_listStart_iff.mpr ⟨split, first⟩).symm.trans
      (cut?_listStart_iff.mpr ⟨split', first'⟩))
  have sameEnd : (body, behind) = (other, behind') :=
    Option.some.inj ((cut?_listEnd_iff.mpr ⟨rfl, next⟩).symm.trans
      (cut?_listEnd_iff.mpr ⟨congrArg Prod.snd sameStart, next'⟩))
  exact congrArg Prod.fst sameEnd

/-- A document is read where it encloses a body, and then by that body alone. -/
theorem parse_of_encloses {body : List Char} (h : Encloses document body) :
    parse document = readItems none body := by
  obtain ⟨root, before, behind, split, first, next⟩ := h
  have root : "<Objs".toList.isPrefixOf (trimStart document) = true :=
    List.isPrefixOf_iff_prefix.mpr root
  rw [parse, root, cut?_listStart_iff.mpr ⟨split, first⟩]
  simp only [cut?_listEnd_iff.mpr ⟨rfl, next⟩]
  rfl

theorem parse_of_not_encloses (h : ∀ body, ¬ Encloses document body) :
    ∃ fault, parse document = .error (.list fault) := by
  rw [parse]
  by_cases root : "<Objs".toList <+: trimStart document
  · rw [List.isPrefixOf_iff_prefix.mpr root]
    cases start : cut? "<LST>".toList document with
    | none => exact ⟨.missingList, rfl⟩
    | some parts =>
        cases finish : cut? "</LST>".toList parts.2 with
        | none =>
            simp only [finish]
            exact ⟨.unterminatedList, rfl⟩
        | some inner =>
            obtain ⟨split, first⟩ := cut?_listStart_iff.mp start
            obtain ⟨rest, next⟩ := cut?_listEnd_iff.mp finish
            exact (h inner.1 ⟨root, parts.1, inner.2, rest ▸ split, first, next⟩).elim
  · rw [← List.isPrefixOf_iff_prefix, Bool.not_eq_true] at root
    rw [root]
    exact ⟨.missingRoot, rfl⟩

/-- Apart from what is malformed, a document comes to what the body in it comes to. -/
theorem parse_eq_iff {result : Except Fault (List String)}
    (formed : ∀ fault, result ≠ .error (.list fault)) :
    parse document = result ↔ ∃ body, Encloses document body ∧ readItems none body = result := by
  constructor
  · intro read
    by_cases enclosed : ∃ body, Encloses document body
    · obtain ⟨body, enclosed⟩ := enclosed
      exact ⟨body, enclosed, parse_of_encloses enclosed ▸ read⟩
    · obtain ⟨fault, refused⟩ := parse_of_not_encloses (not_exists.mp enclosed)
      exact (formed fault (read ▸ refused)).elim
  · rintro ⟨body, enclosed, read⟩
    rw [parse_of_encloses enclosed, read]

theorem parse_eq_ok_iff :
    parse document = .ok values ↔ ∃ body, Encloses document body ∧ Items body values := by
  refine (parse_eq_iff (by simp)).trans (exists_congr fun body => and_congr_right fun _ => ?_)
  exact readItems_eq_ok_iff

theorem parse_eq_unpaired_iff :
    parse document = .error .unpairedSurrogate ↔
      ∃ body, Encloses document body ∧ HasUnpairedItem body := by
  refine (parse_eq_iff (by simp)).trans (exists_congr fun body => and_congr_right fun _ => ?_)
  exact readItems_eq_unpaired_iff

theorem parse_malformed_iff :
    (∃ fault, parse document = .error (.list fault)) ↔
      ∀ body, Encloses document body →
        (∀ values, ¬ Items body values) ∧ ¬ HasUnpairedItem body := by
  constructor
  · rintro ⟨fault, refused⟩ body enclosed
    constructor
    · intro values items
      cases refused.symm.trans (parse_eq_ok_iff.mpr ⟨body, enclosed, items⟩)
    · intro unpaired
      cases refused.symm.trans (parse_eq_unpaired_iff.mpr ⟨body, enclosed, unpaired⟩)
  · intro neither
    by_cases enclosed : ∃ body, Encloses document body
    · obtain ⟨body, enclosed⟩ := enclosed
      obtain ⟨unread, paired⟩ := neither body enclosed
      rw [parse_of_encloses enclosed]
      have outcome := readItems_outcome body
      generalize readItems none body = result at outcome
      cases outcome with
      | items items => exact (unread _ items).elim
      | unpaired unpaired => exact (paired unpaired).elim
      | malformed fault => exact ⟨fault, rfl⟩
    · exact parse_of_not_encloses (not_exists.mp enclosed)

/-- The grammar decides what reading a document comes to: its strings, in order and nothing
less, where the body is a row of strings; a lone surrogate where that is what ends the readable
front of the body; and a malformed list in all other cases. -/
theorem parse_exact (document : List Char) :
    (∀ values, parse document = .ok values ↔
        ∃ body, Encloses document body ∧ Items body values) ∧
      (parse document = .error .unpairedSurrogate ↔
        ∃ body, Encloses document body ∧ HasUnpairedItem body) ∧
      ((∃ fault, parse document = .error (.list fault)) ↔
        ∀ body, Encloses document body →
          (∀ values, ¬ Items body values) ∧ ¬ HasUnpairedItem body) :=
  ⟨fun _ => parse_eq_ok_iff, parse_eq_unpaired_iff, parse_malformed_iff⟩

end ShellLaunch.Encoding.ArgumentList
