import ShellLaunch.Launch.Draft

/-!
# Changes to a draft

A draft with a diagnostic stays as it is, whatever is done to it; a draft without one
takes every change.
-/

namespace ShellLaunch.Draft

variable {draft : Draft}

theorem edit_of_failed (h : draft.failed = true) (change : LaunchConfig → LaunchConfig) :
    draft.edit change = draft :=
  if_pos h

theorem edit_of_not_failed (h : draft.failed = false) (change : LaunchConfig → LaunchConfig) :
    draft.edit change = { draft with config := change draft.config } :=
  if_neg (by simp [h])

/-- The first diagnostic is the one that counts. -/
theorem fail_of_failed (h : draft.failed = true) (diagnostic : Diagnostic) :
    draft.fail diagnostic = draft :=
  edit_of_failed h _

@[simp] theorem fail_failed (draft : Draft) (diagnostic : Diagnostic) :
    (draft.fail diagnostic).failed = true := by
  cases h : draft.failed with
  | true => rw [fail_of_failed h, h]
  | false => rw [fail, edit_of_not_failed h]; rfl

theorem error_fail (h : draft.failed = false) (diagnostic : Diagnostic) :
    (draft.fail diagnostic).config.error = some diagnostic := by
  rw [fail, edit_of_not_failed h]

/-- The finished configuration has the error of the draft. -/
@[simp] theorem error_freeze (draft : Draft) : draft.freeze.error = draft.config.error := rfl

end ShellLaunch.Draft
