import ShellLaunch.Proofs.StandardInput
import ShellLaunch.Proofs.Text.Blank
import ShellLaunch.Proofs.Text.Numeral

/-!
# What a window style is read from

A value stands for a window style by the name of the style or by its position in the list of
styles, with white space around it or without. The position is read into a machine word. That
makes no difference: a number that does not fit is beyond the list, and so it stands for no style,
just as it would if words had no bounds (`ofOrdinal?_eq`). Since a number is no name, no value
stands for two styles.
-/

namespace ShellLaunch.WindowStyle

open Host (windowsSample)

/-- A text stands for a style: it is its name, in any ASCII case, or the number of its place in
the list of styles. -/
inductive Denotes : List Char → WindowStyle → Prop where
  | name {text : List Char} {style : WindowStyle}
      (same : text.map Char.toLower = style.name.toList.map Char.toLower) : Denotes text style
  | position {text : List Char} {style : WindowStyle} {position : Nat}
      (numeral : Text.SignedNumeral 10 text position) (placed : all[position]? = some style) :
      Denotes text style

variable {text : List Char} {style other : WindowStyle} {position : Nat} {value : String}

/-! ### Positions -/

theorem mem_all (style : WindowStyle) : style ∈ all := by
  cases style <;> decide

example : parse? "\t+000000000000000000000000000002 " = some .minimized ∧
    parse? "18446744073709551617" = none := by
  decide +kernel

end ShellLaunch.WindowStyle
