import WebTsToolkit.AccessRouter.PublicationDecisions

set_option autoImplicit false

namespace WebTsToolkit.AccessRouter

open Js Library

/-- The tracked promises that are not over yet. -/
def outstandingStep (works : List TrackedWork) : PublicationFact → List TrackedWork
  | .tracked work => works ++ [work]
  | .finished work => works.filter (· ≠ work)
  | _ => works

def outstanding (facts : List PublicationFact) : List TrackedWork :=
  facts.foldl outstandingStep []

def PublicationFact.resource : PublicationFact → Option Nat
  | .released resource => some resource
  | _ => none

/-- A fact that is neither about a tracked promise nor about a resource. -/
def PublicationFact.IsOfStage (fact : PublicationFact) : Prop :=
  fact.stage.isSome = true

/-- Before the release, or after it. -/
inductive Phase where
  | retaining
  | released

namespace Publication

variable {calls : Calls} {state : Publication} {phase : Phase}

/-- What the owner retains is all that was made. -/
structure Retaining (state : Publication) : Prop where
  stages : state.owner.stages = List.range state.stages.length
  resources : state.owner.resources = List.range state.resourcesMade
  unreleased : state.facts.filterMap PublicationFact.resource = []
  unsettled : state.boundary ≠ .published ∧ state.boundary ≠ .failed
  closing : state.boundary ≠ .idle → state.boundary ≠ .running → state.owner.closed = true

def Cleared (stages : List StageRecord) : Prop :=
  ∀ record ∈ stages, record.contents = none

/-- Nothing is retained, or in progress. -/
structure Released (state : Publication) : Prop where
  closed : state.owner.closed = true
  stages : state.owner.stages = []
  resources : state.owner.resources = []
  drained : state.owner.pending = []
  idle : state.running = []
  cleared : Cleared state.stages
  each : state.facts.filterMap PublicationFact.resource = List.range state.resourcesMade

/-- How a released owner is left by its boundary. -/
structure Settled (state : Publication) : Prop extends Released state where
  boundary : state.boundary = .closingAgain ∨ state.boundary = .published ∨
    state.boundary = .failed
  published : state.boundary = .published → state.owner.failure = none

theorem Settled.change (standing : Settled state) {next : Publication}
    (owner : next.owner = state.owner) (running : next.running = state.running)
    (boundary : next.boundary = state.boundary) (made : next.resourcesMade = state.resourcesMade)
    (cleared : Cleared state.stages → Cleared next.stages)
    (each : next.facts.filterMap PublicationFact.resource =
      state.facts.filterMap PublicationFact.resource) : Settled next where
  closed := by rw [owner]; exact standing.closed
  stages := by rw [owner]; exact standing.stages
  resources := by rw [owner]; exact standing.resources
  drained := by rw [owner]; exact standing.drained
  idle := by rw [running]; exact standing.idle
  cleared := cleared standing.cleared
  each := by rw [each, made]; exact standing.each
  boundary := by rw [boundary]; exact standing.boundary
  published := by rw [boundary, owner]; exact standing.published

def Standing (state : Publication) : Phase → Prop
  | .retaining => Retaining state
  | .released => Settled state

structure OwnerOk (phase : Phase) (state : Publication) : Prop where
  poisoned : state.owner.failure.isSome = true → state.owner.closed = true
  tracked : state.owner.pending = outstanding state.facts
  standing : state.Standing phase

theorem check_ok_iff (owner : PublicationRecord) :
    owner.check = .ok () ↔ owner.failure = none ∧ owner.closed = false := by
  unfold PublicationRecord.check
  cases owner.failure with
  | some failure => simp
  | none => cases closed : owner.closed <;> simp

/-- An owner that is open has released nothing. -/
theorem OwnerOk.retaining (ok : OwnerOk phase state) (isOpen : state.owner.check = .ok ()) :
    phase = .retaining := by
  cases phase with
  | retaining => rfl
  | released =>
    have standing : Settled state := ok.standing
    have unclosed := ((check_ok_iff state.owner).mp isOpen).2
    rw [standing.closed] at unclosed
    contradiction

theorem Released.isEmpty (released : Released state) : state.owner.isEmpty = true := by
  unfold PublicationRecord.isEmpty
  rw [released.closed, released.drained, released.stages, released.resources]
  rfl

theorem Released.fail_eq (released : Released state) (error : Option Failure) :
    state.fail error = state := by
  unfold Publication.fail
  rw [if_pos released.isEmpty]

theorem cleared_modify {stages : List StageRecord} (cleared : Cleared stages) (number : Nat)
    {change : StageRecord → StageRecord}
    (kept : ∀ record, record.contents = none → (change record).contents = none) :
    Cleared (stages.modify number change) := by
  intro record member
  obtain ⟨other, listed⟩ := List.mem_iff_getElem?.mp member
  rw [List.getElem?_modify] at listed
  obtain ⟨before, there, same⟩ := Option.map_eq_some_iff.mp listed
  have none_ := cleared before (List.mem_of_getElem? there)
  rw [← same]
  split
  · exact kept before none_
  · exact none_

/-- Other records of the same stages. -/
theorem OwnerOk.withStages (ok : OwnerOk phase state) {stages : List StageRecord}
    (length : stages.length = state.stages.length)
    (cleared : Cleared state.stages → Cleared stages) :
    OwnerOk phase { state with stages } where
  __ := ok
  standing := by
    cases phase with
    | retaining =>
      have standing : Retaining state := ok.standing
      refine ⟨?_, standing.resources, standing.unreleased, standing.unsettled, standing.closing⟩
      show state.owner.stages = List.range stages.length
      rw [length]
      exact standing.stages
    | released =>
      have standing : Settled state := ok.standing
      exact standing.change rfl rfl rfl rfl cleared rfl

theorem OwnerOk.modify (ok : OwnerOk phase state) (number : Nat)
    {change : StageRecord → StageRecord}
    (kept : ∀ record, record.contents = none → (change record).contents = none) :
    OwnerOk phase { state with stages := state.stages.modify number change } :=
  ok.withStages (List.length_modify _ _ _) fun cleared => cleared_modify cleared number kept

theorem OwnerOk.modifyContents (ok : OwnerOk phase state) (number : Nat)
    (change : StageContents → StageContents) :
    OwnerOk phase (state.modifyContents number change) := by
  apply ok.modify number
  intro record none_
  show record.contents.map change = none
  rw [none_]
  rfl

theorem OwnerOk.closeStages (ok : OwnerOk phase state) (error : Option Failure) (clear : Bool) :
    OwnerOk phase (state.closeStages error clear) := by
  apply ok.withStages List.length_mapIdx
  intro cleared record member
  obtain ⟨number, listed⟩ := List.mem_iff_getElem?.mp member
  rw [List.getElem?_mapIdx] at listed
  obtain ⟨before, there, same⟩ := Option.map_eq_some_iff.mp listed
  have none_ := cleared before (List.mem_of_getElem? there)
  rw [← same]
  split
  · cases clear with
    | true => rfl
    | false => exact none_
  · exact none_

/-- The owner closes, perhaps with a failure. -/
theorem OwnerOk.poison (ok : OwnerOk .retaining state) (failure : Option Failure) :
    OwnerOk .retaining { state with owner := { state.owner with failure, closed := true } } where
  poisoned := fun _ => rfl
  tracked := ok.tracked
  standing := by
    have standing : Retaining state := ok.standing
    exact ⟨standing.stages, standing.resources, standing.unreleased, standing.unsettled,
      fun _ _ => rfl⟩

theorem OwnerOk.fail (ok : OwnerOk phase state) (error : Option Failure) :
    OwnerOk phase (state.fail error) := by
  cases phase with
  | retaining =>
    unfold Publication.fail
    split
    · exact ok
    · exact (ok.poison _).closeStages _ false
  | released =>
    have standing : Settled state := ok.standing
    rw [standing.fail_eq error]
    exact ok

theorem OwnerOk.failStage (ok : OwnerOk phase state) (number : Nat) (error : Failure) :
    OwnerOk phase (state.failStage number error) := by
  have failed : OwnerOk phase { state with
      stages := state.stages.modify number fun record => { record with failure := some error } } :=
    ok.modify number fun _ none_ => none_
  exact failed.fail _

theorem outstanding_append (facts new : List PublicationFact) :
    outstanding (facts ++ new) = new.foldl outstandingStep (outstanding facts) :=
  List.foldl_append

variable {new : List PublicationFact}

theorem outstanding_of_stage (ofStage : ∀ fact ∈ new, fact.IsOfStage) (works : List TrackedWork) :
    new.foldl outstandingStep works = works := by
  induction new generalizing works with
  | nil => rfl
  | cons fact new ih =>
    rw [List.foldl_cons]
    have same : outstandingStep works fact = works := by
      have here := ofStage fact List.mem_cons_self
      cases fact <;> first | rfl | contradiction
    rw [same]
    exact ih (fun other member => ofStage other (List.mem_cons_of_mem fact member)) works

theorem resource_of_stage (ofStage : ∀ fact ∈ new, fact.IsOfStage) :
    new.filterMap PublicationFact.resource = [] := by
  apply List.filterMap_eq_nil_iff.mpr
  intro fact member
  have here := ofStage fact member
  cases fact <;> first | rfl | contradiction

/-- Facts about stages. -/
theorem OwnerOk.note (ok : OwnerOk phase state) (ofStage : ∀ fact ∈ new, fact.IsOfStage) :
    OwnerOk phase (state.note new) where
  poisoned := ok.poisoned
  tracked := by
    show state.owner.pending = outstanding (state.facts ++ new)
    rw [outstanding_append, outstanding_of_stage ofStage]
    exact ok.tracked
  standing := by
    have none_ : (state.facts ++ new).filterMap PublicationFact.resource =
        state.facts.filterMap PublicationFact.resource := by
      rw [List.filterMap_append, resource_of_stage ofStage, List.append_nil]
    cases phase with
    | retaining =>
      have standing : Retaining state := ok.standing
      exact ⟨standing.stages, standing.resources, none_.trans standing.unreleased,
        standing.unsettled, standing.closing⟩
    | released =>
      have standing : Settled state := ok.standing
      exact standing.change rfl rfl rfl rfl id none_

theorem OwnerOk.track (ok : OwnerOk .retaining state) (work : TrackedWork) :
    OwnerOk .retaining (state.track work) where
  poisoned := ok.poisoned
  tracked := by
    show state.owner.pending ++ [work] = outstanding (state.facts ++ [.tracked work])
    rw [outstanding_append, ok.tracked]
    rfl
  standing := by
    have standing : Retaining state := ok.standing
    refine ⟨standing.stages, standing.resources, ?_, standing.unsettled, standing.closing⟩
    show (state.facts ++ [PublicationFact.tracked work]).filterMap PublicationFact.resource = []
    rw [List.filterMap_append, standing.unreleased]
    rfl

theorem OwnerOk.untrack (ok : OwnerOk .retaining state) (work : TrackedWork) :
    OwnerOk .retaining (state.untrack work) where
  poisoned := ok.poisoned
  tracked := by
    show state.owner.pending.filter (· ≠ work) = outstanding (state.facts ++ [.finished work])
    rw [outstanding_append, ok.tracked]
    rfl
  standing := by
    have standing : Retaining state := ok.standing
    refine ⟨standing.stages, standing.resources, ?_, standing.unsettled, standing.closing⟩
    show (state.facts ++ [PublicationFact.finished work]).filterMap PublicationFact.resource = []
    rw [List.filterMap_append, standing.unreleased]
    rfl

/-- Other callbacks and bound calls, before the release. -/
theorem OwnerOk.call (ok : OwnerOk .retaining state) (bound : List Nat)
    (running awaiting : List Activation) (worksMade : Nat) :
    OwnerOk .retaining { state with bound, running, awaiting, worksMade } where
  __ := ok
  standing := by
    have standing : Retaining state := ok.standing
    exact { standing with }

/-- Other callbacks that are awaited. -/
theorem OwnerOk.await (ok : OwnerOk phase state) (awaiting : List Activation) :
    OwnerOk phase { state with awaiting } where
  __ := ok
  standing := by
    cases phase with
    | retaining =>
      have standing : Retaining state := ok.standing
      exact { standing with }
    | released =>
      have standing : Settled state := ok.standing
      exact standing.change rfl rfl rfl rfl id rfl

end Publication

end WebTsToolkit.AccessRouter
