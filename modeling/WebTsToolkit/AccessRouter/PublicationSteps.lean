import Mathlib.Data.List.Perm.Basic
import WebTsToolkit.AccessRouter.PublicationEffects

set_option autoImplicit false

namespace WebTsToolkit.AccessRouter

open Js Library

namespace Publication

variable {calls : Calls} {state next : Publication} {callbacks : List Activation}

theorem inProgress_commit (calls : Calls) (state : Publication) (number generation : Nat)
    (value : Value) (refused : Option Failure) :
    (state.commitDocumentStageFacts calls number generation value refused).1.inProgress =
      state.inProgress := by
  rcases commit_cases calls state number generation value refused with
    ⟨failure, kept | failed⟩ | ⟨contents, grants, isOpen, committed⟩
  · rw [kept]
  · rw [failed]
    exact inProgress_fail _
  · rw [committed]
    rfl

theorem inProgress_settleResolution (number generation : Nat) (outcome : Except Failure Value)
    (refused : Option Failure) :
    (state.settleResolution calls number generation outcome refused).inProgress =
      state.inProgress := by
  unfold settleResolution
  cases outcome with
  | error failure => exact inProgress_failStage number failure
  | ok value =>
    have committed := inProgress_commit calls state number generation value
      refused
    dsimp only
    split
    · next same =>
      rw [same] at committed
      exact committed
    · next same =>
      rw [same] at committed
      exact (inProgress_failStage number _).trans committed

theorem inProgress_resolveEmpty (number : Nat) (binding : AuthorizationBinding)
    (refused : Option Failure) :
    (state.resolveEmptyOutputHelperStage calls number binding refused).inProgress =
      state.inProgress := by
  unfold resolveEmptyOutputHelperStage
  split
  · next record _ _ =>
    split
    · split
      · rfl
      · have committed := inProgress_commit calls state number
          record.generation (.object []) refused
        split
        · next same =>
          rw [same] at committed
          exact committed
        · next same =>
          rw [same] at committed
          exact (inProgress_failStage number _).trans committed
    · rfl
  · rfl

theorem inProgress_beginOutput (number : Nat) (binding : AuthorizationBinding) :
    (state.beginDocumentStageOutput calls number binding).inProgress = state.inProgress := by
  unfold beginDocumentStageOutput
  split
  · rfl
  · rfl

theorem inProgress_readExisting (number : Nat) (key : String) (decision : FieldDecision) :
    (state.readExisting number key decision).inProgress = state.inProgress := by
  unfold readExisting
  split
  · rfl
  · rfl

theorem inProgress_readDecision (number : Nat) (binding : AuthorizationBinding) (key : String) :
    (state.readStageFieldDecision calls number binding key).inProgress = state.inProgress := by
  unfold readStageFieldDecision
  split
  · split
    · exact inProgress_readExisting number key _
    · rfl
  · rfl

theorem inProgress_settleDecision (number : Nat) (binding : AuthorizationBinding) (key : String)
    (generation : Nat) (outcome : Except Failure Value) :
    (state.settleDecision calls number binding key generation outcome).inProgress =
      state.inProgress := by
  unfold settleDecision
  split
  · exact inProgress_fail _
  · split
    · exact inProgress_fail _
    · split
      · exact inProgress_fail _
      · rfl
      · exact inProgress_fail _

theorem inProgress_retainResource : state.retainResource.1.inProgress = state.inProgress := by
  unfold retainResource
  split
  · rfl
  · rfl

/-- The hydration of a source has no stage yet. -/
theorem Agrees.hydrating (agrees : state.Agrees callbacks) (request : StageRequest) :
    state.Agrees (.hydrating request :: callbacks) where
  __ := agrees
  each := by
    intro number record contents listed held
    apply (agrees.each number record contents listed held).mono
    · exact fun fact _ _ => Iff.rfl
    · intro callback member about
      rcases List.mem_cons.mp member with same | before
      · rw [same] at about
        contradiction
      · exact before
  called := by
    intro callback member number about
    rcases List.mem_cons.mp member with same | before
    · rw [same] at about
      contradiction
    · exact agrees.called callback before number about

theorem Agrees.admitDocumentStage (agrees : state.Agrees state.inProgress)
    (request : StageRequest) : (state.admitDocumentStage calls request).Agrees
      (state.admitDocumentStage calls request).inProgress := by
  unfold Publication.admitDocumentStage
  split
  · exact agrees
  · split
    · exact agrees
    · exact agrees.hydrating request

/-- Facts that are about no stage. -/
theorem Agrees.note (agrees : state.Agrees callbacks) {new : List PublicationFact}
    (unslotted : ∀ fact ∈ new, fact.slot = none) (unplaced : ∀ fact ∈ new, fact.stage = none) :
    Coherent state.stages (state.facts ++ new) callbacks := by
  apply Coherent.notes agrees unslotted
  · intro fact member number about
    rw [unplaced fact member] at about
    contradiction
  · intro number key value member
    have about := unplaced _ member
    contradiction

theorem Agrees.track (agrees : state.Agrees callbacks) (work : TrackedWork) :
    (state.track work).Agrees callbacks := by
  apply agrees.note
  · exact List.forall_mem_singleton.mpr rfl
  · exact List.forall_mem_singleton.mpr rfl

theorem Agrees.untrack (agrees : state.Agrees callbacks) (work : TrackedWork) :
    (state.untrack work).Agrees callbacks := by
  apply agrees.note
  · exact List.forall_mem_singleton.mpr rfl
  · exact List.forall_mem_singleton.mpr rfl

theorem Agrees.retainResource (agrees : state.Agrees callbacks) :
    state.retainResource.1.Agrees callbacks := by
  unfold Publication.retainResource
  split
  · exact agrees
  · exact agrees

theorem Agrees.retainStage (agrees : state.Agrees callbacks) (request : StageRequest)
    (source : Nat) (borrowed fresh : Bool) (refused : Option Failure) :
    (state.retainDocumentStage calls request source borrowed fresh refused).Agrees callbacks := by
  unfold retainDocumentStage
  have prepared_ : (if (fresh && !request.inherited) = true then state.retainResource
      else (state, .ok ())).1.Agrees callbacks := by
    split
    · exact agrees.retainResource
    · exact agrees
  generalize (if (fresh && !request.inherited) = true then state.retainResource
    else (state, .ok ())) = prepared at prepared_ ⊢
  dsimp only
  split
  · rcases debit_cases prepared.1 refused with ⟨_, debited⟩ | ⟨failure, debited⟩
    · rw [debited]
      dsimp only
      split
      · exact prepared_
      · exact Coherent.append prepared_ request _ source borrowed
    · rw [debited]
      exact prepared_.fail _
  · exact prepared_

theorem inProgress_retainStage (request : StageRequest) (source : Nat) (borrowed fresh : Bool)
    (refused : Option Failure) :
    (state.retainDocumentStage calls request source borrowed fresh refused).inProgress =
      state.inProgress := by
  unfold retainDocumentStage
  have prepared_ : (if (fresh && !request.inherited) = true then state.retainResource
      else (state, .ok ())).1.inProgress = state.inProgress := by
    split
    · exact inProgress_retainResource
    · rfl
  generalize (if (fresh && !request.inherited) = true then state.retainResource
    else (state, .ok ())) = prepared at prepared_ ⊢
  dsimp only
  split
  · rcases debit_cases prepared.1 refused with ⟨_, debited⟩ | ⟨failure, debited⟩
    · rw [debited]
      dsimp only
      split
      · exact prepared_
      · exact prepared_
    · rw [debited]
      exact (inProgress_fail _).trans prepared_
  · exact prepared_

/-- What application code may do keeps the agreement. -/
theorem Agrees.api (agrees : state.Agrees state.inProgress) {event : PublicationEvent}
    (taken : state.api calls event = some next) : next.Agrees next.inProgress := by
  cases event with
  | bind call =>
    rw [← Option.some.inj taken]
    split
    · exact agrees
    · exact agrees
  | admitStage request =>
    rw [← Option.some.inj taken]
    exact agrees.admitDocumentStage request
  | resolveEmpty number binding refused =>
    rw [← Option.some.inj taken, inProgress_resolveEmpty]
    exact agrees.resolveEmptyOutputHelperStage number binding refused
  | resolve number copied =>
    rw [← Option.some.inj taken]
    exact agrees.resolveDocumentStage number copied
  | beginOutput number binding =>
    rw [← Option.some.inj taken, inProgress_beginOutput]
    exact agrees.beginDocumentStageOutput number binding
  | readDecision number binding key =>
    rw [← Option.some.inj taken, inProgress_readDecision]
    exact agrees.readStageFieldDecision number binding key
  | memoize number binding key refused =>
    rw [← Option.some.inj taken]
    exact agrees.memoizeStageFieldDecision number binding key refused
  | closeStage number =>
    rw [← Option.some.inj taken]
    have kept (record : StageRecord) : (record.close none false).contents = record.contents := rfl
    apply agrees.modifyRecord number kept
    intro record created
    contradiction
  | retain =>
    rw [← Option.some.inj taken, inProgress_retainResource]
    exact agrees.retainResource
  | track =>
    rw [← Option.some.inj taken]
    split
    · exact agrees.track _
    · exact agrees
  | fail error =>
    rw [← Option.some.inj taken, inProgress_fail]
    exact agrees.fail error
  | run | prepared | answer | settle | workSettled | finish | drain => contradiction

end Publication

end WebTsToolkit.AccessRouter
