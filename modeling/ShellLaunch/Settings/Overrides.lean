import ShellLaunch.Platform

/-!
# Platform overrides

A user can pin the capabilities of the platform. A field that is left out keeps the
capability as it is; a pipe name ceiling of zero takes the ceiling away.
-/

namespace ShellLaunch

/-- What a user pins of the platform. -/
structure Overrides where
  windows : Option Bool
  desktopApartments : Option Bool
  maxPipeNameLength : Option Nat
  deriving DecidableEq

namespace Overrides

def none : Overrides := ⟨.none, .none, .none⟩

def isEmpty (overrides : Overrides) : Bool :=
  overrides.windows.isNone && overrides.desktopApartments.isNone &&
    overrides.maxPipeNameLength.isNone

/-- The platform with the pinned capabilities. -/
def apply (overrides : Overrides) (base : Platform) : Platform where
  isWindows := overrides.windows.getD base.isWindows
  desktopApartments := overrides.desktopApartments.getD base.desktopApartments
  maxPipeNameLength :=
    match overrides.maxPipeNameLength with
    | some 0 => .none
    | some ceiling => some ceiling
    | .none => base.maxPipeNameLength

end Overrides

end ShellLaunch
