import WebTsToolkit.AccessRouter.PublicationOwner

set_option autoImplicit false

namespace WebTsToolkit.AccessRouter

open Js Library

namespace Publication

variable {calls : Calls} {state middle next : Publication} {phase : Phase}

/-- What may happen in a state: a new stage needs an open owner, and what happens to a stage needs
that it is open. -/
def Allowed (state : Publication) : PublicationFact → Prop
  | .stageCreated _ => state.owner.check = .ok ()
  | .resolverStarted number => ∃ contents, state.OpenStage number contents
  | .predicateStarted number _ => ∃ contents, state.OpenStage number contents
  | .factsCommitted number => ∃ contents, state.OpenStage number contents
  | .decided number _ _ => ∃ contents, state.OpenStage number contents
  | .answered number _ _ => ∃ contents, state.OpenStage number contents
  | _ => True

/-- A closed owner stays closed, and its first failure stays. -/
structure Later (before after : PublicationRecord) : Prop where
  closed : before.closed = true → after.closed = true
  failed : ∀ failure, before.failure = some failure → after.failure = some failure

theorem Later.refl {owner : PublicationRecord} : Later owner owner := ⟨id, fun _ same => same⟩

/-- What else a record holds does not matter. -/
theorem Later.same {before after : PublicationRecord} (closed : after.closed = before.closed)
    (failure : after.failure = before.failure) : Later before after := by
  refine ⟨?_, ?_⟩
  · rw [closed]
    exact id
  · intro found same
    rw [failure]
    exact same

theorem Later.trans {first second third : PublicationRecord} (before : Later first second)
    (after : Later second third) : Later first third :=
  ⟨fun closed => after.closed (before.closed closed),
    fun failure same => after.failed failure (before.failed failure same)⟩

/-- An owner moves on, and what happens is allowed. -/
structure Effect (state next : Publication) : Prop where
  later : Later state.owner next.owner
  facts : ∃ new, next.facts = state.facts ++ new ∧ ∀ fact ∈ new, state.Allowed fact

theorem Effect.refl : Effect state state where
  later := .refl
  facts := by
    refine ⟨[], (List.append_nil _).symm, ?_⟩
    intro fact member
    exact absurd member List.not_mem_nil

/-- A change that notes nothing. -/
theorem Effect.silent (effect : Effect state middle)
    (later : Later middle.owner next.owner) (facts : next.facts = middle.facts) :
    Effect state next where
  later := effect.later.trans later
  facts := by
    rw [facts]
    exact effect.facts

/-- A change that notes what is allowed. -/
theorem Effect.also (effect : Effect state middle) {new : List PublicationFact}
    (later : Later middle.owner next.owner) (facts : next.facts = middle.facts ++ new)
    (allowed : ∀ fact ∈ new, state.Allowed fact) : Effect state next where
  later := effect.later.trans later
  facts := by
    obtain ⟨earlier, same, each⟩ := effect.facts
    refine ⟨earlier ++ new, ?_, ?_⟩
    · rw [facts, same, List.append_assoc]
    · intro fact member
      rcases List.mem_append.mp member with before | now
      · exact each fact before
      · exact allowed fact now

@[simp] theorem facts_fail (error : Option Failure) : (state.fail error).facts = state.facts := by
  unfold Publication.fail
  split
  · rfl
  · rfl

theorem later_fail (error : Option Failure) : Later state.owner (state.fail error).owner := by
  unfold Publication.fail
  split
  · exact .refl
  · refine ⟨fun _ => rfl, ?_⟩
    intro failure same
    show state.owner.failure.or _ = some failure
    rw [same]
    rfl

theorem Effect.fail (effect : Effect state middle) (error : Option Failure) :
    Effect state (middle.fail error) :=
  effect.silent (later_fail error) (facts_fail error)

theorem Effect.failStage (effect : Effect state middle) (number : Nat) (error : Failure) :
    Effect state (middle.failStage number error) := by
  have failed : Effect state { middle with
      stages := middle.stages.modify number fun record => { record with failure := some error } } :=
    effect.silent .refl rfl
  exact failed.fail _

variable {contents : StageContents} {number : Nat}

/-- What is allowed depends on the owner and the stages. -/
theorem OpenStage.congr (owner : next.owner = state.owner) (stages : next.stages = state.stages)
    (isOpen : next.OpenStage number contents) : state.OpenStage number contents := by
  induction isOpen with
  | root listed notClosed held isOpen unowned =>
    rw [stages] at listed
    rw [owner] at isOpen
    exact .root listed notClosed held isOpen unowned
  | child listed notClosed held isOpen owned _ ih =>
    rw [stages] at listed
    rw [owner] at isOpen
    exact .child listed notClosed held isOpen owned ih

theorem Allowed.congr (owner : next.owner = state.owner) (stages : next.stages = state.stages)
    {fact : PublicationFact} (allowed : next.Allowed fact) : state.Allowed fact := by
  have opens {number : Nat} (isOpen : ∃ contents, next.OpenStage number contents) :
      ∃ contents, state.OpenStage number contents := by
    obtain ⟨contents, found⟩ := isOpen
    exact ⟨contents, found.congr owner stages⟩
  cases fact with
  | stageCreated number =>
    have isOpen : next.owner.check = .ok () := allowed
    rw [owner] at isOpen
    exact isOpen
  | resolverStarted number | predicateStarted number key => exact opens allowed
  | factsCommitted number => exact opens allowed
  | decided number key value | answered number key value => exact opens allowed
  | tracked work | finished work | released resource => exact trivial

/-- An effect on the same owner and stages. -/
theorem Effect.congr (effect : Effect middle next) (owner : middle.owner = state.owner)
    (stages : middle.stages = state.stages) (facts : middle.facts = state.facts) :
    Effect state next where
  later := by
    rw [← owner]
    exact effect.later
  facts := by
    obtain ⟨new, same, allowed⟩ := effect.facts
    rw [facts] at same
    exact ⟨new, same, fun fact member => (allowed fact member).congr owner stages⟩

/-- What a function of an owner keeps in a phase. -/
structure Respects (phase : Phase) (state next : Publication) : Prop where
  ok : OwnerOk phase state → OwnerOk phase next
  effect : Effect state next

theorem Respects.refl : Respects phase state state := ⟨id, .refl⟩

theorem Respects.fail (respects : Respects phase state middle) (error : Option Failure) :
    Respects phase state (middle.fail error) :=
  ⟨fun ok => (respects.ok ok).fail error, respects.effect.fail error⟩

theorem Respects.failStage (respects : Respects phase state middle) (number : Nat)
    (error : Failure) : Respects phase state (middle.failStage number error) :=
  ⟨fun ok => (respects.ok ok).failStage number error, respects.effect.failStage number error⟩

theorem Respects.modify (respects : Respects phase state middle) (number : Nat)
    {change : StageRecord → StageRecord}
    (kept : ∀ record, record.contents = none → (change record).contents = none) :
    Respects phase state { middle with stages := middle.stages.modify number change } :=
  ⟨fun ok => (respects.ok ok).modify number kept, respects.effect.silent .refl rfl⟩

theorem Respects.modifyContents (respects : Respects phase state middle) (number : Nat)
    (change : StageContents → StageContents) :
    Respects phase state (middle.modifyContents number change) :=
  ⟨fun ok => (respects.ok ok).modifyContents number change, respects.effect.silent .refl rfl⟩

theorem Respects.note (respects : Respects phase state middle) {new : List PublicationFact}
    (allowed : ∀ fact ∈ new, fact.IsOfStage ∧ state.Allowed fact) :
    Respects phase state (middle.note new) where
  ok := fun ok => (respects.ok ok).note fun fact member => (allowed fact member).1
  effect := respects.effect.also .refl rfl fun fact member => (allowed fact member).2

/-- One fact of a stage that is open. -/
theorem Respects.noteOne (respects : Respects phase state middle) (fact : PublicationFact)
    (ofStage : fact.IsOfStage) (allowed : state.Allowed fact) :
    Respects phase state (middle.note [fact]) := by
  apply respects.note
  exact List.forall_mem_singleton.mpr (⟨ofStage, allowed⟩)

theorem Respects.committed (number : Nat) (grants : DocumentGrants)
    (isOpen : state.OpenStage number contents) :
    Respects phase state (({ state with
      stages := state.stages.modify number (committedRecord grants) }).note
        [.factsCommitted number]) := by
  have kept (record : StageRecord) (none_ : record.contents = none) :
      (committedRecord grants record).contents = none := by
    unfold committedRecord
    rw [none_]
    rfl
  exact (Respects.refl.modify number kept).noteOne (.factsCommitted number) rfl ⟨contents, isOpen⟩

theorem respects_settleResolution (number generation : Nat) (outcome : Except Failure Value)
    (refused : Option Failure) :
    Respects phase state (state.settleResolution calls number generation outcome refused) := by
  unfold settleResolution
  cases outcome with
  | error failure => exact (Respects.refl.failStage number failure).modifyContents number _
  | ok value =>
    dsimp only
    rcases commit_cases calls state number generation value refused with
      ⟨failure, kept | failed⟩ | ⟨contents, grants, isOpen, committed⟩
    · rw [kept]
      exact (Respects.refl.failStage number failure).modifyContents number _
    · rw [failed]
      exact ((Respects.refl.fail _).failStage number failure).modifyContents number _
    · rw [committed]
      exact (Respects.committed number grants isOpen).modifyContents number _

theorem respects_resolveEmpty (number : Nat) (binding : AuthorizationBinding)
    (refused : Option Failure) :
    Respects phase state (state.resolveEmptyOutputHelperStage calls number binding refused) := by
  unfold resolveEmptyOutputHelperStage
  split
  · next record _ _ =>
    split
    · split
      · exact .refl
      · rcases commit_cases calls state number record.generation
          (.object []) refused with ⟨failure, kept | failed⟩ | ⟨contents, grants, isOpen, committed⟩
        · rw [kept]
          exact Respects.refl.failStage number failure
        · rw [failed]
          exact (Respects.refl.fail _).failStage number failure
        · rw [committed]
          exact (Respects.committed number grants isOpen).modifyContents number _
    · exact .refl
  · exact .refl

theorem respects_beginOutput (number : Nat) (binding : AuthorizationBinding) :
    Respects phase state (state.beginDocumentStageOutput calls number binding) := by
  unfold beginDocumentStageOutput
  split
  · exact Respects.refl.modify number fun _ none_ => none_
  · exact .refl

theorem respects_readExisting (isOpen : state.OpenStage number contents) (key : String)
    (decision : FieldDecision) : Respects phase state (state.readExisting number key decision) := by
  unfold readExisting
  split
  · next value _ _ => exact Respects.refl.noteOne (.answered number key value) rfl ⟨contents, isOpen⟩
  · exact Respects.refl.modifyContents number _

theorem respects_readDecision (number : Nat) (binding : AuthorizationBinding) (key : String) :
    Respects phase state (state.readStageFieldDecision calls number binding key) := by
  unfold readStageFieldDecision
  split
  · next view read =>
    split
    · next decision found => exact respects_readExisting (openStage_of_read read) key decision
    · exact .refl
  · exact .refl

theorem respects_failDecision (number : Nat) (key : String) (error : Failure) :
    Respects phase state (state.failDecision number key error) :=
  (Respects.refl.modifyContents number _).fail _

theorem respects_settleDecision (number : Nat) (binding : AuthorizationBinding) (key : String)
    (generation : Nat) (outcome : Except Failure Value) :
    Respects phase state
      (state.settleDecision calls number binding key generation outcome) := by
  unfold settleDecision
  split
  · exact respects_failDecision number key _
  · split
    · exact respects_failDecision number key _
    · next contents opened =>
      have isOpen := openStage_of_assertGeneration opened
      split
      · exact respects_failDecision number key _
      · next value _ =>
        apply (Respects.refl.modifyContents number _).note
        intro fact member
        rcases List.mem_cons.mp member with same | answer
        · rw [same]
          exact ⟨rfl, contents, isOpen⟩
        · unfold answers at answer
          split at answer
          · rw [List.mem_singleton.mp answer]
            exact ⟨rfl, contents, isOpen⟩
          · exact absurd answer List.not_mem_nil
      · exact respects_failDecision number key _

/-- An open owner is in its first phase. -/
theorem respects_of_open (isOpen : state.owner.check = .ok ())
    (respects : Respects .retaining state next) : Respects phase state next where
  ok := by
    intro ok
    have retaining := ok.retaining isOpen
    subst retaining
    exact respects.ok ok
  effect := respects.effect

theorem OpenStage.owner (isOpen : state.OpenStage number contents) :
    state.owner.check = .ok () := by
  obtain ⟨_, _, _, _, owner⟩ := isOpen.record
  exact owner

theorem Respects.track (respects : Respects .retaining state middle) (work : TrackedWork) :
    Respects .retaining state (middle.track work) where
  ok := fun ok => (respects.ok ok).track work
  effect := by
    refine Effect.also respects.effect (.same rfl rfl) rfl ?_
    exact List.forall_mem_singleton.mpr trivial

theorem Respects.call (respects : Respects .retaining state middle) (bound : List Nat)
    (running awaiting : List Activation) (worksMade : Nat) :
    Respects .retaining state { middle with bound, running, awaiting, worksMade } :=
  ⟨fun ok => (respects.ok ok).call bound running awaiting worksMade,
    respects.effect.silent .refl rfl⟩

theorem respects_resolve (number : Nat) (copied : Except Failure Unit) :
    Respects phase state (state.resolveDocumentStage calls number copied) := by
  unfold resolveDocumentStage
  split
  · next contents record opened listed =>
    have isOpen := openStage_of_assertOpen opened
    split
    · exact .refl
    · split
      · exact Respects.refl.modifyContents number _
      · apply respects_of_open isOpen.owner
        have begun : Respects .retaining state { state with
            stages := state.stages.set number { record with state := .resolving } } :=
          ⟨fun ok => ok.withStages List.length_set fun cleared => by
              intro other member
              rcases List.mem_or_eq_of_mem_set member with before | same
              · exact cleared other before
              · rw [same]
                exact cleared record (List.mem_of_getElem? listed),
            Effect.refl.silent .refl rfl⟩
        have started := (begun.modifyContents number fun contents =>
          { contents with result := some .pending }).track (.result number)
        cases copied with
        | error failure => exact (started.failStage number failure).modifyContents number _
        | ok _ => exact (started.noteOne (.resolverStarted number) rfl ⟨contents, isOpen⟩).call _ _ _ _
  · exact .refl

theorem respects_memoize (number : Nat) (binding : AuthorizationBinding) (key : String)
    (refused : Option Failure) :
    Respects phase state (state.memoizeStageFieldDecision calls number binding key refused) := by
  unfold memoizeStageFieldDecision
  split
  · next view record read listed =>
    have isOpen := openStage_of_read read
    split
    · next decision found => exact respects_readExisting isOpen key decision
    · rcases debit_cases state refused with ⟨_, debited⟩ | ⟨failure, debited⟩
      · rw [debited]
        apply respects_of_open isOpen.owner
        exact ((Respects.refl.modifyContents number _).noteOne (.predicateStarted number key) rfl
          ⟨view.1, isOpen⟩).call _ _ _ _
      · rw [debited]
        exact Respects.refl.fail _
  · exact .refl

theorem respects_admit (request : StageRequest) :
    Respects phase state (state.admitDocumentStage calls request) := by
  unfold admitDocumentStage
  split
  · exact .refl
  · next checked =>
    split
    · exact .refl
    · obtain ⟨_, _, later⟩ := bind_eq_ok checked
      obtain ⟨_, _, isOpen⟩ := bind_eq_ok later
      exact respects_of_open isOpen (Respects.refl.call _ _ _ _)

theorem OwnerOk.resource (ok : OwnerOk .retaining state) : OwnerOk .retaining { state with
    owner := { state.owner with resources := state.owner.resources ++ [state.resourcesMade] }
    resourcesMade := state.resourcesMade + 1 } where
  __ := ok
  standing := by
    have standing : Retaining state := ok.standing
    refine ⟨standing.stages, ?_, standing.unreleased, standing.unsettled, standing.closing⟩
    show state.owner.resources ++ [state.resourcesMade] = List.range (state.resourcesMade + 1)
    rw [standing.resources, List.range_succ]

theorem OwnerOk.stage (ok : OwnerOk .retaining state) (record : StageRecord) :
    OwnerOk .retaining { state with
      stages := state.stages ++ [record]
      owner := { state.owner with stages := state.owner.stages ++ [state.stages.length] } } where
  __ := ok
  standing := by
    have standing : Retaining state := ok.standing
    refine ⟨?_, standing.resources, standing.unreleased, standing.unsettled, standing.closing⟩
    show state.owner.stages ++ [state.stages.length] = List.range (state.stages ++ [record]).length
    rw [standing.stages, List.length_append, List.length_singleton, List.range_succ]

/-- A resource is retained by an open owner only. -/
theorem respects_retainResource : Respects phase state state.retainResource.1 := by
  unfold retainResource
  split
  · exact .refl
  · next isOpen =>
    apply respects_of_open isOpen
    exact ⟨fun ok => ok.resource, Effect.refl.silent (.same rfl rfl) rfl⟩

theorem open_of_retainResource (retained : state.retainResource.2 = .ok ()) :
    state.owner.check = .ok () := by
  unfold retainResource at retained
  split at retained
  · contradiction
  · next isOpen => exact isOpen

/-- The preparation of a source, and what it shows of the owner. -/
theorem respects_prepared (phase : Phase) (state : Publication) (fresh : Bool) :
    Respects phase state (if fresh then state.retainResource else (state, .ok ())).1 ∧
      ((if fresh then state.retainResource else (state, .ok ())).1.owner.check = .ok () →
        (if fresh then state.retainResource else (state, .ok ())).2 = .ok () →
          state.owner.check = .ok ()) := by
  cases fresh with
  | true => exact ⟨respects_retainResource, fun _ => open_of_retainResource⟩
  | false => exact ⟨.refl, fun isOpen _ => isOpen⟩

theorem respects_retainStage (calls : Calls) (request : StageRequest) (source : Nat)
    (borrowed fresh : Bool) (refused : Option Failure) : Respects phase state
      (state.retainDocumentStage calls request source borrowed fresh refused) := by
  unfold retainDocumentStage
  obtain ⟨respects, opened⟩ := respects_prepared phase state
    (fresh && !request.inherited)
  generalize (if (fresh && !request.inherited) = true then state.retainResource
    else (state, .ok ())) = prepared at respects opened ⊢
  dsimp only
  split
  · next record retained listed =>
    rcases debit_cases prepared.1 refused with ⟨_, debited⟩ | ⟨failure, debited⟩
    · rw [debited]
      dsimp only
      split
      · exact respects
      · next isOpen =>
        have first := opened isOpen retained
        refine ⟨?_, ?_⟩
        · intro ok
          have later := respects.ok ok
          have retaining := later.retaining isOpen
          subst retaining
          apply (later.stage _).note
          exact List.forall_mem_singleton.mpr rfl
        · refine Effect.also respects.effect (.same rfl rfl) rfl ?_
          exact List.forall_mem_singleton.mpr first
    · rw [debited]
      exact respects.fail _
  · exact respects

theorem respects_closeStage (number : Nat) : Respects phase state { state with
    stages := state.stages.modify number fun record => record.close none false } :=
  Respects.refl.modify number fun _ none_ => none_

theorem respects_api (phase : Phase) {event : PublicationEvent}
    (taken : state.api calls event = some next) :
    Respects phase state next := by
  cases event with
  | bind call =>
    rw [← Option.some.inj taken]
    split
    · next isOpen =>
      obtain ⟨_, same⟩ := exists_of_isOk isOpen
      exact respects_of_open same (Respects.refl.call _ _ _ _)
    · exact .refl
  | admitStage request =>
    rw [← Option.some.inj taken]
    exact respects_admit request
  | resolveEmpty number binding refused =>
    rw [← Option.some.inj taken]
    exact respects_resolveEmpty number binding refused
  | resolve number copied =>
    rw [← Option.some.inj taken]
    exact respects_resolve number copied
  | beginOutput number binding =>
    rw [← Option.some.inj taken]
    exact respects_beginOutput number binding
  | readDecision number binding key =>
    rw [← Option.some.inj taken]
    exact respects_readDecision number binding key
  | memoize number binding key refused =>
    rw [← Option.some.inj taken]
    exact respects_memoize number binding key refused
  | closeStage number =>
    rw [← Option.some.inj taken]
    exact respects_closeStage number
  | retain =>
    rw [← Option.some.inj taken]
    exact respects_retainResource
  | track =>
    rw [← Option.some.inj taken]
    split
    · next isOpen =>
      obtain ⟨_, same⟩ := exists_of_isOk isOpen
      exact respects_of_open same ((Respects.refl.track _).call _ _ _ _)
    · exact .refl
  | fail error =>
    rw [← Option.some.inj taken]
    exact Respects.refl.fail error
  | run | prepared | answer | settle | workSettled | finish | drain => contradiction

end Publication

end WebTsToolkit.AccessRouter
