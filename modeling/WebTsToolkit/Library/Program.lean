import Mathlib.Data.List.Basic

set_option autoImplicit false

/- Programs that change a state, and then return or throw. -/
namespace WebTsToolkit.Library

/-- A change of the state stays when the program throws. -/
abbrev Program (ε σ α : Type) := ExceptT ε (StateM σ) α

namespace Program

variable {ε σ α β : Type}

/-- The program to its end: what it returned or threw, and the state then. -/
def outcome (program : Program ε σ α) (before : σ) : Except ε α × σ :=
  program before

/-- The outcome of a program that may throw, as a value. -/
def attempt (program : Program ε σ α) : Program ε σ (Except ε α) :=
  fun before => (.ok (program.outcome before).1, (program.outcome before).2)

/-- `returns` holds of a program that returned, `throws` of one that threw. -/
def Ended (returns : α → σ → Prop) (throws : ε → σ → Prop) : Except ε α × σ → Prop
  | (.ok value, after) => returns value after
  | (.error error, after) => throws error after

def Ends (program : Program ε σ α) (returns : α → σ → Prop) (throws : ε → σ → Prop)
    (before : σ) : Prop :=
  Ended returns throws (program.outcome before)

variable {program : Program ε σ α} {returns : α → σ → Prop} {throws : ε → σ → Prop} {before : σ}

theorem Ends.mono {returns' : α → σ → Prop} {throws' : ε → σ → Prop}
    (ends : program.Ends returns throws before)
    (onReturn : ∀ value after, returns value after → returns' value after)
    (onThrow : ∀ error after, throws error after → throws' error after) :
    program.Ends returns' throws' before := by
  unfold Ends at ends ⊢
  generalize program.outcome before = result at ends ⊢
  rcases result with ⟨error | value, after⟩
  · exact onThrow _ _ ends
  · exact onReturn _ _ ends

theorem ends_bind {next : α → Program ε σ β} {returns : β → σ → Prop} :
    Ends (program >>= next) returns throws before ↔
      program.Ends (fun value => (next value).Ends returns throws) throws before := by
  have run : (program >>= next).outcome before =
      ExceptT.bindCont next (program.outcome before).1 (program.outcome before).2 := rfl
  unfold Ends
  rw [run]
  generalize program.outcome before = result
  rcases result with ⟨error | value, after⟩
  · rfl
  · rfl

theorem ends_attempt {returns : Except ε α → σ → Prop} :
    Ends program.attempt returns throws before ↔
      program.Ends (fun value => returns (.ok value)) (fun error => returns (.error error))
        before := by
  show Ended returns throws (.ok (program.outcome before).1, (program.outcome before).2) ↔ _
  unfold Ends
  generalize program.outcome before = result
  rcases result with ⟨error | value, after⟩
  · rfl
  · rfl

theorem ends_modify (change : σ → σ) {returns : PUnit → σ → Prop} :
    Ends (modify change : Program ε σ PUnit) returns throws before ↔
      returns PUnit.unit (change before) :=
  Iff.rfl

end Program

end WebTsToolkit.Library
