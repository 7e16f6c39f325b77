import Mathlib.Data.List.Basic
import Mathlib.Logic.Relation

set_option autoImplicit false

namespace WebTsToolkit.Library

/-- A system that reacts to events; an event that cannot occur in a state has no successor. -/
structure TransitionSystem (State Event : Type) where
  start : State
  step : State → Event → Option State

namespace TransitionSystem

variable {State Event : Type} (system : TransitionSystem State Event)

/-- States after any events in any order. -/
inductive Reachable : State → Prop where
  | start : Reachable system.start
  | step {state next : State} (event : Event) (reached : Reachable state)
      (taken : system.step state event = some next) : Reachable next

/-- States after events that meet a condition on the state before each. -/
inductive ReachableWhen (meets : State → Event → Prop) : State → Prop where
  | start : ReachableWhen meets system.start
  | step {state next : State} (event : Event) (reached : ReachableWhen meets state)
      (met : meets state event) (taken : system.step state event = some next) :
      ReachableWhen meets next

/-- Some event that meets the condition can occur until a state ends, and whichever of them occur,
such a state is reached. -/
inductive Inevitable (meets : Event → Prop) (ends : State → Prop) : State → Prop where
  | ended {state : State} (ended : ends state) : Inevitable meets ends state
  | step {state : State}
      (possible : ∃ event next, meets event ∧ system.step state event = some next)
      (later : ∀ event next, meets event → system.step state event = some next →
        Inevitable meets ends next) : Inevitable meets ends state

/-- The same system from a state on. -/
def since (state : State) : TransitionSystem State Event :=
  { system with start := state }

/-- The state after a list of events. -/
def run (events : List Event) : Option State :=
  events.foldlM system.step system.start

/-- The state after a list of events that each meet the condition on the state before it. -/
def runWhen (meets : State → Event → Prop) [DecidableRel meets] (events : List Event) :
    Option State :=
  events.foldlM (fun state event => if meets state event then system.step state event else none)
    system.start

variable {system}

/-- What holds at the start and is kept by each step holds in every reachable state. -/
theorem Reachable.invariant {holds : State → Prop} (start : holds system.start)
    (keeps : ∀ state event next, holds state → system.step state event = some next → holds next)
    {state : State} (reached : system.Reachable state) : holds state := by
  induction reached with
  | start => exact start
  | step event _ taken ih => exact keeps _ event _ ih taken

theorem ReachableWhen.invariant {meets : State → Event → Prop} {holds : State → Prop}
    (start : holds system.start)
    (keeps : ∀ state event next, holds state → meets state event →
      system.step state event = some next → holds next)
    {state : State} (reached : system.ReachableWhen meets state) : holds state := by
  induction reached with
  | start => exact start
  | step event _ met taken ih => exact keeps _ event _ ih met taken

/-- Events that meet the condition in any state lead from such states to such states. -/
theorem ReachableWhen.steps {meets : State → Event → Prop} {events : List Event}
    {state next : State} (reached : system.ReachableWhen meets state)
    (met : ∀ event ∈ events, ∀ state, meets state event)
    (taken : events.foldlM system.step state = some next) : system.ReachableWhen meets next := by
  induction events generalizing state with
  | nil =>
    rw [← Option.some.inj taken]
    exact reached
  | cons event events ih =>
    rw [List.foldlM_cons] at taken
    obtain ⟨middle, first, rest⟩ := Option.bind_eq_some_iff.mp taken
    exact ih (reached.step event (met event List.mem_cons_self state) first)
      (fun other member => met other (List.mem_cons_of_mem _ member)) rest

theorem ReachableWhen.of_runWhen {meets : State → Event → Prop} [DecidableRel meets]
    {events : List Event} {state : State} (ran : system.runWhen meets events = some state) :
    system.ReachableWhen meets state := by
  have along : ∀ {before : State}, system.ReachableWhen meets before →
      events.foldlM (fun state event => if meets state event then system.step state event else none)
        before = some state → system.ReachableWhen meets state := by
    clear ran
    induction events with
    | nil =>
      intro before reached same
      exact Option.some.inj same ▸ reached
    | cons event events ih =>
      intro before reached taken
      rw [List.foldlM_cons] at taken
      obtain ⟨middle, first, rest⟩ := Option.bind_eq_some_iff.mp taken
      split at first
      · next met => exact ih (reached.step event met first) rest
      · contradiction
  exact along .start ran

theorem Reachable.steps {events : List Event} {state next : State}
    (reached : system.Reachable state) (taken : events.foldlM system.step state = some next) :
    system.Reachable next := by
  induction events generalizing state with
  | nil =>
    rw [← Option.some.inj taken]
    exact reached
  | cons event events ih =>
    rw [List.foldlM_cons] at taken
    obtain ⟨middle, first, rest⟩ := Option.bind_eq_some_iff.mp taken
    exact ih (reached.step event first) rest

theorem Reachable.of_run {events : List Event} {state : State}
    (ran : system.run events = some state) : system.Reachable state :=
  Reachable.start.steps ran

end TransitionSystem

/-- A loop. A state is final, or its turn gives the next state or an error. -/
structure Machine (State Failure : Type) where
  turn : State → Option (Except Failure State)

namespace Machine

variable {State Failure : Type} (machine : Machine State Failure)

/-- The loop for so many turns at most, `none` where they do not suffice. -/
def run : Nat → State → Option (Except Failure State)
  | 0, state =>
    match machine.turn state with
    | none => some (.ok state)
    | some (.error failure) => some (.error failure)
    | some (.ok _) => none
  | fuel + 1, state =>
    match machine.turn state with
    | none => some (.ok state)
    | some (.error failure) => some (.error failure)
    | some (.ok next) => run fuel next

/-- A computation with a bound on its turns has this result, whatever the bound from some
number on. -/
def Returns {α : Type} (compute : Nat → Option α) (result : α) : Prop :=
  ∃ enough, ∀ fuel, enough ≤ fuel → compute fuel = some result

/-- One turn after another. -/
def Reaches : State → State → Prop :=
  Relation.ReflTransGen fun state next => machine.turn state = some (.ok next)

variable {machine}

theorem returns_unique {α : Type} {compute : Nat → Option α} {first second : α}
    (one : Returns compute first) (two : Returns compute second) : first = second := by
  obtain ⟨enough, given⟩ := one
  obtain ⟨enough', given'⟩ := two
  have here := given (enough + enough') (by omega)
  rw [given' (enough + enough') (by omega)] at here
  exact (Option.some.inj here).symm

theorem returns_map {α β : Type} {compute : Nat → Option α} {result : α}
    (returns : Returns compute result) (f : α → β) :
    Returns (fun fuel => (compute fuel).map f) (f result) := by
  obtain ⟨enough, given⟩ := returns
  refine ⟨enough, fun fuel within => ?_⟩
  show (compute fuel).map f = _
  rw [given fuel within]
  rfl

theorem returns_of_final {state : State} (final : machine.turn state = none) :
    Returns (fun fuel => machine.run fuel state) (.ok state) := by
  refine ⟨0, fun fuel _ => ?_⟩
  cases fuel <;> simp only [run, final]

theorem returns_of_failure {state : State} {failure : Failure}
    (failed : machine.turn state = some (.error failure)) :
    Returns (fun fuel => machine.run fuel state) (.error failure) := by
  refine ⟨0, fun fuel _ => ?_⟩
  cases fuel <;> simp only [run, failed]

theorem returns_of_turn {state next : State} {result : Except Failure State}
    (turned : machine.turn state = some (.ok next))
    (later : Returns (fun fuel => machine.run fuel next) result) :
    Returns (fun fuel => machine.run fuel state) result := by
  obtain ⟨enough, given⟩ := later
  refine ⟨enough + 1, fun fuel within => ?_⟩
  obtain ⟨less, rfl⟩ : ∃ less, fuel = less + 1 := ⟨fuel - 1, by omega⟩
  show machine.run (less + 1) state = some result
  rw [run, turned]
  exact given less (by omega)

/-- A loop returns what it returns from a state that it gets to. -/
theorem Reaches.returns {state next : State} {result : Except Failure State}
    (reaches : machine.Reaches state next)
    (later : Returns (fun fuel => machine.run fuel next) result) :
    Returns (fun fuel => machine.run fuel state) result := by
  induction reaches using Relation.ReflTransGen.head_induction_on with
  | refl => exact later
  | head turned _ ih => exact returns_of_turn turned ih

/-- A loop that sees less of the same states runs alongside. -/
theorem run_view {View : Type} {other : Machine View Failure} (view : State → View)
    (alongside : ∀ state, other.turn (view state) = (machine.turn state).map (Except.map view))
    (fuel : Nat) (state : State) :
    other.run fuel (view state) = (machine.run fuel state).map (Except.map view) := by
  induction fuel generalizing state with
  | zero =>
    rw [run, run, alongside]
    cases machine.turn state with
    | none => rfl
    | some result => cases result <;> rfl
  | succ fuel ih =>
    rw [run, run, alongside]
    cases machine.turn state with
    | none => rfl
    | some result =>
      cases result with
      | error failure => rfl
      | ok next => exact ih next

end Machine

end WebTsToolkit.Library
