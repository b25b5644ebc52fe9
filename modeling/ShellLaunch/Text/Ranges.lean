/-!
# Sets of characters as ranges

A property of characters that a standard lists in full is kept as a table: a list of
closed ranges of code points.
-/

namespace ShellLaunch.Text

/-- A set of code points, as a list of closed ranges. -/
abbrev Ranges := List (Nat × Nat)

def Ranges.contains (ranges : Ranges) (c : Char) : Bool :=
  ranges.any fun range => range.1 ≤ c.toNat && c.toNat ≤ range.2

end ShellLaunch.Text
