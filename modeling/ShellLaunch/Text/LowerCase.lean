import ShellLaunch.Text.CaseTable

/-!
# Lower case

The full lower-case form of a text in any script. A letter has one lower-case form
wherever it stands, with one exception: a capital sigma at the end of a word becomes
the final sigma. On ASCII text this is the usual mapping of `A` to `Z`.
-/

namespace ShellLaunch.Text

def isCased (c : Char) : Bool :=
  casedRanges.contains c

/-- Whether a character is passed over when a word is looked for. -/
def isCaseIgnorable (c : Char) : Bool :=
  caseIgnorableRanges.contains c

/-- The lower-case form of one character, wherever it stands. Only `İ` takes two
characters: an `i` and the dot above. -/
def lowerChar (c : Char) : List Char :=
  if c.toNat < 128 then [c.toLower]
  else if c = 'İ' then ['i', '\u0307']
  else
    match lowerRuns.find? (·.holds c.toNat) with
    | some run => [Char.ofNat (c.toNat + run.distance).toNat]
    | none => [c]

/-- Whether a text begins with a cased letter, ignorable characters passed over. -/
def beginsCased (s : List Char) : Bool :=
  match s.dropWhile isCaseIgnorable with
  | c :: _ => isCased c
  | [] => false

/-- The lower-case form of a capital sigma. `before` is the text in front of it, nearest
character first; `after` is the text behind it. -/
def lowerSigma (before after : List Char) : Char :=
  if beginsCased before && !beginsCased after then 'ς' else 'σ'

/-- The lower-case form of a text that follows the text `before`, which is held nearest
character first. -/
def lowerAfter (before : List Char) : List Char → List Char
  | [] => []
  | c :: rest =>
    (if c = 'Σ' then [lowerSigma before rest] else lowerChar c) ++ lowerAfter (c :: before) rest

def lower (s : List Char) : List Char :=
  lowerAfter [] s

@[simp] theorem lowerChar_of_ascii {c : Char} (h : c.toNat < 128) :
    lowerChar c = [c.toLower] := by
  simp [lowerChar, h]

private theorem lowerAfter_of_ascii (before s : List Char) (h : ∀ c ∈ s, c.toNat < 128) :
    lowerAfter before s = s.map Char.toLower := by
  induction s generalizing before with
  | nil => rfl
  | cons c rest ih =>
    have hc : c.toNat < 128 := h c List.mem_cons_self
    have hsigma : c ≠ 'Σ' := by
      rintro rfl
      exact absurd hc (by decide)
    rw [lowerAfter, if_neg hsigma, lowerChar_of_ascii hc,
      ih _ fun d hd => h d (List.mem_cons_of_mem c hd)]
    rfl

/-- On ASCII text lowering works letter by letter. -/
theorem lower_of_ascii {s : List Char} (h : ∀ c ∈ s, c.toNat < 128) :
    lower s = s.map Char.toLower :=
  lowerAfter_of_ascii [] s h

end ShellLaunch.Text
