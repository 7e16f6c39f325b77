import Mathlib.Data.List.Basic

set_option autoImplicit false

namespace WebTsToolkit.Library

variable {σ κ ν : Type}

/-- Neither path is an ancestor of the other. -/
def Unrelated (first second : List κ) : Prop :=
  ¬first <+: second ∧ ¬second <+: first

theorem Unrelated.symm {first second : List κ} (apart : Unrelated first second) :
    Unrelated second first :=
  ⟨apart.2, apart.1⟩

theorem unrelated_of_ne {first second : κ} (apart : first ≠ second) (rest rest' : List κ) :
    Unrelated (first :: rest) (second :: rest') := by
  constructor
  · intro above
    exact apart (List.cons_prefix_cons.mp above).1
  · intro above
    exact apart (List.cons_prefix_cons.mp above).1.symm

theorem unrelated_cons_iff (key : κ) (first second : List κ) :
    Unrelated (key :: first) (key :: second) ↔ Unrelated first second := by
  unfold Unrelated
  rw [List.prefix_cons_inj, List.prefix_cons_inj]

theorem unrelated_append (base : List κ) {first second : List κ}
    (apart : Unrelated first second) : Unrelated (base ++ first) (base ++ second) := by
  induction base with
  | nil => exact apart
  | cons key base ih => exact (unrelated_cons_iff key _ _).mpr ih

theorem Unrelated.ne_nil {first second : List κ} (apart : Unrelated first second) :
    first ≠ [] := by
  intro empty
  apply apart.1
  rw [empty]
  exact List.nil_prefix

/-- Descendants of unrelated paths are unrelated. -/
theorem Unrelated.below {first second path path' : List κ} (apart : Unrelated first second)
    (below : first <+: path) (below' : second <+: path') : Unrelated path path' := by
  constructor
  · intro above
    rcases List.prefix_or_prefix_of_prefix (below.trans above) below' with held | held
    · exact apart.1 held
    · exact apart.2 held
  · intro above
    rcases List.prefix_or_prefix_of_prefix below (below'.trans above) with held | held
    · exact apart.1 held
    · exact apart.2 held

section Runs

variable (write : σ → List κ → ν → σ) (admits : σ → List κ → Prop)

/-- One store is reached from another by admissible writes at eligible paths. -/
inductive Written (eligible : List κ → Prop) : σ → σ → Prop where
  | done (store : σ) : Written eligible store store
  | step {store last : σ} (path : List κ) (value : ν) (admitted : admits store path)
      (allowed : eligible path) (later : Written eligible (write store path value) last) :
      Written eligible store last

variable {write admits} {eligible : List κ → Prop} {first second third : σ}

theorem Written.single {path : List κ} (value : ν) (admitted : admits first path)
    (allowed : eligible path) : Written write admits eligible first (write first path value) :=
  Written.step path value admitted allowed (Written.done _)

theorem Written.trans (run : Written write admits eligible first second)
    (run' : Written write admits eligible second third) :
    Written write admits eligible first third := by
  induction run with
  | done => exact run'
  | step path value admitted allowed _ ih => exact Written.step path value admitted allowed (ih run')

theorem Written.mono {eligible' : List κ → Prop} (wider : ∀ path, eligible path → eligible' path)
    (run : Written write admits eligible first second) :
    Written write admits eligible' first second := by
  induction run with
  | done store => exact Written.done store
  | step path value admitted allowed _ ih =>
    exact Written.step path value admitted (wider path allowed) ih

/-- What each admissible write keeps, a run of them keeps. -/
theorem Written.keeps (kept : σ → σ → Prop) (same : ∀ store, kept store store)
    (further : ∀ first second third, kept first second → kept second third → kept first third)
    (one : ∀ store path value, admits store path → eligible path →
      kept store (write store path value))
    (run : Written write admits eligible first second) : kept first second := by
  induction run with
  | done store => exact same store
  | step path value admitted allowed _ ih =>
    exact further _ _ _ (one _ path value admitted allowed) ih

/-- Paths unrelated to all that is written stay admissible. -/
theorem Written.stillAdmits (stays : ∀ store path path' value, admits store path →
      admits store path' → Unrelated path path' → admits (write store path value) path')
    {path : List κ} (apart : ∀ other, eligible other → Unrelated other path)
    (run : Written write admits eligible first second) (admitted : admits first path) :
    admits second path := by
  induction run with
  | done => exact admitted
  | step other value admitted' allowed _ ih =>
    exact ih (stays _ other path value admitted' admitted (apart other allowed))

end Runs

end WebTsToolkit.Library
