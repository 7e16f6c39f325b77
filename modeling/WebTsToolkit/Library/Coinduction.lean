import Mathlib

set_option autoImplicit false

namespace WebTsToolkit.Library

variable {α : Type} [CompleteLattice α] (step : α →o α)

/-- The greatest fixed point of a step that may also end in what is assumed. -/
def gfpAssuming (assumed : α) : α :=
  (step.comp (OrderHom.id ⊔ OrderHom.const α assumed)).gfp

variable {step} {assumed below : α}

theorem le_gfpAssuming (closed : below ≤ step (below ⊔ assumed)) :
    below ≤ gfpAssuming step assumed :=
  OrderHom.le_gfp _ closed

theorem gfpAssuming_eq (step : α →o α) (assumed : α) :
    step (gfpAssuming step assumed ⊔ assumed) = gfpAssuming step assumed :=
  OrderHom.map_gfp (step.comp (OrderHom.id ⊔ OrderHom.const α assumed))

theorem gfpAssuming_bot (step : α →o α) : gfpAssuming step ⊥ = step.gfp := by
  apply le_antisymm
  · apply OrderHom.le_gfp
    have unfolded := gfpAssuming_eq step ⊥
    rw [sup_bot_eq] at unfolded
    exact unfolded.ge
  · apply le_gfpAssuming
    rw [sup_bot_eq]
    exact step.map_gfp.ge

theorem gfp_le_gfpAssuming (step : α →o α) (assumed : α) : step.gfp ≤ gfpAssuming step assumed := by
  apply le_gfpAssuming
  calc step.gfp = step step.gfp := step.map_gfp.symm
    _ ≤ step (step.gfp ⊔ assumed) := step.monotone le_sup_left

/-- What is reached while it is assumed itself holds without that assumption. -/
theorem gfpAssuming_accumulate
    (closed : below ≤ step (gfpAssuming step (assumed ⊔ below) ⊔ (assumed ⊔ below))) :
    below ≤ gfpAssuming step assumed := by
  have inside : gfpAssuming step (assumed ⊔ below) ⊔ (assumed ⊔ below) ≤
      below ⊔ gfpAssuming step (assumed ⊔ below) ⊔ assumed := by
    apply sup_le
    · exact le_sup_right.trans le_sup_left
    · exact sup_le le_sup_right (le_sup_left.trans le_sup_left)
  have grown := step.monotone inside
  have both : below ⊔ gfpAssuming step (assumed ⊔ below) ≤ gfpAssuming step assumed := by
    apply le_gfpAssuming
    apply sup_le
    · exact closed.trans grown
    · rw [gfpAssuming_eq step (assumed ⊔ below)] at grown
      exact grown
  exact le_sup_left.trans both

end WebTsToolkit.Library
