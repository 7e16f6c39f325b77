import Mathlib.Data.List.Basic

set_option autoImplicit false

/- Owner tokens that are drawn once each, so that an owner that was replaced stays replaced. -/
namespace WebTsToolkit.Library

/-- The token of the present owner, and how many tokens were drawn. -/
structure Fence where
  owner : Option Nat
  drawn : Nat

namespace Fence

/-- What may happen to the owner in one step. -/
inductive Moves : Fence → Fence → Prop where
  | keep {fence : Fence} {drawn : Nat} (more : fence.drawn ≤ drawn) :
      Moves fence ⟨fence.owner, drawn⟩
  | replace {fence : Fence} {token drawn : Nat} (fresh : fence.drawn ≤ token)
      (counted : token < drawn) : Moves fence ⟨some token, drawn⟩

/-- A token that was drawn and is not the owner's. -/
def Replaced (fence : Fence) (token : Nat) : Prop :=
  token < fence.drawn ∧ fence.owner ≠ some token

variable {fence next : Fence}

theorem Moves.drawn_le (moves : Moves fence next) : fence.drawn ≤ next.drawn := by
  cases moves with
  | keep more => exact more
  | replace fresh counted => exact Nat.le_trans fresh (Nat.le_of_lt counted)

theorem Moves.owner_lt (moves : Moves fence next)
    (drawn : ∀ token, fence.owner = some token → token < fence.drawn) (token : Nat)
    (owner : next.owner = some token) : token < next.drawn := by
  cases moves with
  | keep more => exact Nat.lt_of_lt_of_le (drawn token owner) more
  | replace fresh counted =>
    rw [← Option.some.inj owner]
    exact counted

theorem Replaced.moves {token : Nat} (replaced : fence.Replaced token) (moves : Moves fence next) :
    next.Replaced token := by
  refine ⟨Nat.lt_of_lt_of_le replaced.1 moves.drawn_le, ?_⟩
  cases moves with
  | keep more => exact replaced.2
  | replace fresh counted =>
    intro same
    have older := replaced.1
    rw [← Option.some.inj same] at older
    exact absurd fresh (Nat.not_le.mpr older)

/-- In a run whose steps move a fence, and keep a fact, a token that was replaced stays so. -/
theorem Replaced.run {State Event : Type} {step : State → Event → Option State}
    (fence : State → Fence) {holds : State → Prop} {token : Nat}
    (keeps : ∀ state event next, holds state → step state event = some next →
      holds next ∧ (fence state).Moves (fence next))
    {events : List Event} {state later : State} (start : holds state)
    (replaced : (fence state).Replaced token) (ran : events.foldlM step state = some later) :
    holds later ∧ (fence later).Replaced token := by
  induction events generalizing state with
  | nil =>
    rw [← Option.some.inj ran]
    exact ⟨start, replaced⟩
  | cons event events ih =>
    rw [List.foldlM_cons] at ran
    obtain ⟨middle, taken, rest⟩ := Option.bind_eq_some_iff.mp ran
    obtain ⟨kept, moves⟩ := keeps state event middle start taken
    exact ih kept (replaced.moves moves) rest

end Fence

end WebTsToolkit.Library
