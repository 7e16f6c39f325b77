import Mathlib.Data.List.Nodup
import WebTsToolkit.AccessRouter.DocumentStage
import WebTsToolkit.Library.Outcome

set_option autoImplicit false

namespace WebTsToolkit.AccessRouter

open Js Library

/-- The stage that a fact is about. -/
def PublicationFact.stage : PublicationFact → Option Nat
  | .stageCreated number => some number
  | .resolverStarted number => some number
  | .predicateStarted number _ => some number
  | .factsCommitted number => some number
  | .decided number _ _ => some number
  | .answered number _ _ => some number
  | _ => none

/-- What happens once at most. -/
inductive Slot where
  | creation (stage : Nat)
  | resolver (stage : Nat)
  | predicate (stage : Nat) (key : String)
  | commitment (stage : Nat)
  | decision (stage : Nat) (key : String)
  deriving DecidableEq

def PublicationFact.slot : PublicationFact → Option Slot
  | .stageCreated number => some (.creation number)
  | .resolverStarted number => some (.resolver number)
  | .predicateStarted number key => some (.predicate number key)
  | .factsCommitted number => some (.commitment number)
  | .decided number key _ => some (.decision number key)
  | _ => none

def Activation.stage : Activation → Option Nat
  | .hydrating _ => none
  | .resolving number _ => some number
  | .deciding number _ _ _ => some number

/-- What a callback is about: its stage, and its key where it is a predicate. -/
def Activation.subject : Activation → Option (Nat × Option String)
  | .hydrating _ => none
  | .resolving number _ => some (number, none)
  | .deciding number _ key _ => some (number, some key)

namespace Publication

/-- The stage, its owner and the stages that own it are open. -/
inductive OpenStage (state : Publication) : Nat → StageContents → Prop where
  | root {number : Nat} {record : StageRecord} {contents : StageContents}
      (listed : state.stages[number]? = some record) (notClosed : record.state ≠ .closed)
      (held : record.contents = some contents) (owner : state.owner.check = .ok ())
      (unowned : contents.owning = none) : OpenStage state number contents
  | child {number : Nat} {record : StageRecord} {contents above : StageContents}
      {owning : Nat × AuthorizationBinding} (listed : state.stages[number]? = some record)
      (notClosed : record.state ≠ .closed) (held : record.contents = some contents)
      (owner : state.owner.check = .ok ()) (owned : contents.owning = some owning)
      (openAbove : OpenStage state owning.1 above) : OpenStage state number contents

variable {calls : Calls} {state : Publication} {contents : StageContents} {number : Nat}
  {stages : List StageRecord} {facts : List PublicationFact}

theorem OpenStage.record (isOpen : state.OpenStage number contents) :
    ∃ record, state.stages[number]? = some record ∧
      record.state ≠ .closed ∧ record.contents = some contents ∧ state.owner.check = .ok () := by
  cases isOpen with
  | root listed notClosed held owner unowned => exact ⟨_, listed, notClosed, held, owner⟩
  | child listed notClosed held owner owned openAbove => exact ⟨_, listed, notClosed, held, owner⟩

theorem openStage_of_assertOpenWithin (depth : Nat) : ∀ {number : Nat} {contents : StageContents},
    state.assertOpenWithin calls depth number = .ok contents →
      state.OpenStage number contents := by
  induction depth with
  | zero =>
    intro number contents opened
    contradiction
  | succ depth ih =>
    intro number contents opened
    unfold assertOpenWithin at opened
    split at opened
    · contradiction
    · next record listed =>
      split at opened
      · contradiction
      · contradiction
      · next found held notClosed =>
        obtain ⟨_, owner, opened⟩ := bind_eq_ok opened
        split at opened
        · next unowned =>
          rw [← Except.ok.inj opened]
          exact .root listed notClosed held owner unowned
        · next owning owned =>
          obtain ⟨above, openAbove, opened⟩ := bind_eq_ok opened
          obtain ⟨_, _, opened⟩ := bind_eq_ok opened
          rw [← Except.ok.inj opened]
          exact .child listed notClosed held owner owned (ih openAbove)

theorem openStage_of_assertOpen (opened : state.assertOpen calls number = .ok contents) :
    state.OpenStage number contents :=
  openStage_of_assertOpenWithin (number + 1) opened

theorem openStage_of_assertGeneration {number generation : Nat}
    (opened : state.assertGeneration calls number generation = .ok contents) :
    state.OpenStage number contents := by
  unfold assertGeneration at opened
  split at opened
  · contradiction
  · split at opened
    · contradiction
    · exact openStage_of_assertOpen opened

theorem openStage_of_access {binding : AuthorizationBinding}
    (read : state.readDocumentStageAccess calls number binding = .ok contents) :
    state.OpenStage number contents := by
  obtain ⟨found, opened, read⟩ := bind_eq_ok read
  obtain ⟨_, _, read⟩ := bind_eq_ok read
  rw [← Except.ok.inj read]
  exact openStage_of_assertOpen opened

theorem openStage_of_read {binding : AuthorizationBinding} {view : StageContents × DocumentGrants}
    (read : state.readDocumentStage calls number binding = .ok view) :
    state.OpenStage number view.1 := by
  obtain ⟨contents, access, read⟩ := bind_eq_ok read
  have isOpen := openStage_of_access access
  split at read
  · rw [← Except.ok.inj read]
    exact isOpen
  · rw [← Except.ok.inj read]
    exact isOpen
  · contradiction

/-- What holds of one stage: what has happened shows in its contents. -/
structure StageOk (facts : List PublicationFact) (callbacks : List Activation) (number : Nat)
    (contents : StageContents) : Prop where
  started : .resolverStarted number ∈ facts → contents.result.isSome = true
  committed : .factsCommitted number ∈ facts → contents.grants.isSome = true
  granted : contents.grants.isSome = true →
    contents.result.isSome = true ∨ contents.emptyHelperFacts = true
  predicate : ∀ key, .predicateStarted number key ∈ facts →
    (contents.decisions.lookup key).isSome = true
  decided : ∀ key value, .decided number key value ∈ facts →
    ∃ decision, contents.decisions.lookup key = some decision ∧ decision.state = .fulfilled ∧
      decision.value = some value
  fulfilled : ∀ key decision, contents.decisions.lookup key = some decision →
    decision.state = .fulfilled → ∃ value, decision.value = some value ∧
      .decided number key value ∈ facts
  resolving : ∀ generation, .resolving number generation ∈ callbacks →
    contents.result.isSome = true ∧ contents.grants = none
  deciding : ∀ binding key generation, .deciding number binding key generation ∈ callbacks →
    ∃ decision, contents.decisions.lookup key = some decision ∧ decision.state = .pending

structure FreshContents (contents : StageContents) : Prop where
  result : contents.result = none
  grants : contents.grants = none
  emptyHelperFacts : contents.emptyHelperFacts = false

/-- A stage that is created has no result and no facts. -/
def Fresh (record : StageRecord) : Prop :=
  record.state = .created → ∀ contents, record.contents = some contents → FreshContents contents

/-- The stages, what has happened and the callbacks that are not over agree. -/
structure Coherent (stages : List StageRecord) (facts : List PublicationFact)
    (callbacks : List Activation) : Prop where
  each : ∀ number record contents, stages[number]? = some record →
    record.contents = some contents → StageOk facts callbacks number contents
  fresh : ∀ record ∈ stages, Fresh record
  placed : ∀ fact ∈ facts, ∀ number, fact.stage = some number → number < stages.length
  called : ∀ callback ∈ callbacks, ∀ number, callback.stage = some number →
    number < stages.length
  once : (facts.filterMap PublicationFact.slot).Nodup
  distinct : (callbacks.filterMap Activation.subject).Nodup
  answered : ∀ number key value, .answered number key value ∈ facts →
    .decided number key value ∈ facts

/-- Only what concerns the stage matters. -/
theorem StageOk.mono {facts later : List PublicationFact} {callbacks others : List Activation}
    (ok : StageOk facts callbacks number contents)
    (sameFacts : ∀ fact, fact.slot.isSome = true → fact.stage = some number →
      (fact ∈ later ↔ fact ∈ facts))
    (fewer : ∀ callback ∈ others, callback.stage = some number → callback ∈ callbacks) :
    StageOk later others number contents where
  started := fun happened => ok.started ((sameFacts _ rfl rfl).mp happened)
  committed := fun happened => ok.committed ((sameFacts _ rfl rfl).mp happened)
  granted := ok.granted
  predicate := fun key happened => ok.predicate key ((sameFacts _ rfl rfl).mp happened)
  decided := fun key value happened => ok.decided key value ((sameFacts _ rfl rfl).mp happened)
  fulfilled := by
    intro key decision found fulfilled
    obtain ⟨value, same, happened⟩ := ok.fulfilled key decision found fulfilled
    exact ⟨value, same, (sameFacts _ rfl rfl).mpr happened⟩
  resolving := fun generation running => ok.resolving generation (fewer _ running rfl)
  deciding := fun binding key generation running =>
    ok.deciding binding key generation (fewer _ running rfl)

/-- A change of one stage, with facts and a callback of its own. -/
theorem Coherent.change {facts new : List PublicationFact} {callbacks others : List Activation}
    (coherent : Coherent stages facts callbacks) {record next : StageRecord}
    (listed : stages[number]? = some record)
    (own : ∀ fact ∈ new, ∀ other, fact.stage = some other → other = number)
    (once : ((facts ++ new).filterMap PublicationFact.slot).Nodup)
    (fewer : ∀ callback ∈ others, callback ∈ callbacks ∨ callback.stage = some number)
    (distinct : (others.filterMap Activation.subject).Nodup) (fresh : Fresh next)
    (ok : ∀ contents, next.contents = some contents →
      StageOk (facts ++ new) others number contents)
    (silent : ∀ number key value, .answered number key value ∉ new) :
    Coherent (stages.set number next) (facts ++ new) others where
  each := by
    intro other found contents there held
    by_cases same : other = number
    · rw [same, List.getElem?_set_self (List.getElem?_eq_some_iff.mp listed).1] at there
      rw [← Option.some.inj there] at held
      rw [same]
      exact ok contents held
    · rw [List.getElem?_set_ne (fun here => same here.symm)] at there
      apply (coherent.each other found contents there held).mono
      · intro fact _ about
        rw [List.mem_append]
        constructor
        · intro happened
          rcases happened with before | now
          · exact before
          · exact absurd (own fact now other about) same
        · exact Or.inl
      · intro callback member about
        rcases fewer callback member with before | here
        · exact before
        · rw [about] at here
          exact absurd (Option.some.inj here) same
  fresh := by
    intro found member
    rcases List.mem_or_eq_of_mem_set member with before | same
    · exact coherent.fresh found before
    · rw [same]
      exact fresh
  placed := by
    intro fact happened other about
    rw [List.length_set]
    rcases List.mem_append.mp happened with before | now
    · exact coherent.placed fact before other about
    · rw [own fact now other about]
      exact (List.getElem?_eq_some_iff.mp listed).1
  called := by
    intro callback member other about
    rw [List.length_set]
    rcases fewer callback member with before | here
    · exact coherent.called callback before other about
    · rw [about] at here
      rw [Option.some.inj here]
      exact (List.getElem?_eq_some_iff.mp listed).1
  once := once
  distinct := distinct
  answered := by
    intro other key value happened
    rcases List.mem_append.mp happened with before | now
    · exact List.mem_append_left _ (coherent.answered other key value before)
    · exact absurd now (silent other key value)

/-- A change of one stage that adds no fact. -/
theorem Coherent.changeSilent {callbacks others : List Activation}
    (coherent : Coherent stages facts callbacks) {record next : StageRecord}
    (listed : stages[number]? = some record)
    (fewer : ∀ callback ∈ others, callback ∈ callbacks ∨ callback.stage = some number)
    (distinct : (others.filterMap Activation.subject).Nodup) (fresh : Fresh next)
    (ok : ∀ contents, next.contents = some contents → StageOk facts others number contents) :
    Coherent (stages.set number next) facts others := by
  have none_ : facts ++ [] = facts := List.append_nil facts
  rw [← none_]
  apply coherent.change listed
  · intro fact member
    exact absurd member List.not_mem_nil
  · rw [none_]
    exact coherent.once
  · exact fewer
  · exact distinct
  · exact fresh
  · rw [none_]
    exact ok
  · exact fun _ _ _ => List.not_mem_nil

theorem modify_eq_set {record : StageRecord} (listed : stages[number]? = some record)
    (change : StageRecord → StageRecord) :
    stages.modify number change = stages.set number (change record) := by
  apply List.ext_getElem?
  intro other
  rw [List.getElem?_modify, List.getElem?_set]
  by_cases same : number = other
  · subst same
    obtain ⟨inside, found⟩ := List.getElem?_eq_some_iff.mp listed
    simp [inside, found]
  · simp [same]

/-- A fact that is no answer. -/
theorem not_answered {fact : PublicationFact}
    (other : ∀ number key value, .answered number key value ≠ fact) (number : Nat) (key : String)
    (value : Bool) : .answered number key value ∉ [fact] := by
  intro member
  exact other number key value (List.mem_singleton.mp member)

/-- Facts that are about no stage in particular. -/
theorem Coherent.notes {facts new : List PublicationFact} {callbacks : List Activation}
    (coherent : Coherent stages facts callbacks) (unslotted : ∀ fact ∈ new, fact.slot = none)
    (placed : ∀ fact ∈ new, ∀ number, fact.stage = some number → number < stages.length)
    (answered : ∀ number key value, .answered number key value ∈ new →
      .decided number key value ∈ facts) :
    Coherent stages (facts ++ new) callbacks where
  __ := coherent
  each := by
    intro number record contents listed held
    apply (coherent.each number record contents listed held).mono
    · intro fact slotted _
      rw [List.mem_append]
      constructor
      · intro happened
        rcases happened with before | now
        · exact before
        · rw [unslotted fact now] at slotted
          contradiction
      · exact Or.inl
    · exact fun callback member _ => member
  placed := by
    intro fact happened number about
    rcases List.mem_append.mp happened with before | now
    · exact coherent.placed fact before number about
    · exact placed fact now number about
  once := by
    have none_ : new.filterMap PublicationFact.slot = [] :=
      List.filterMap_eq_nil_iff.mpr unslotted
    rw [List.filterMap_append, none_, List.append_nil]
    exact coherent.once
  answered := by
    intro number key value happened
    rcases List.mem_append.mp happened with before | now
    · exact List.mem_append_left _ (coherent.answered number key value before)
    · exact List.mem_append_left _ (answered number key value now)

/-- Callbacks that are over, or in another order. -/
theorem Coherent.callbacks {callbacks others : List Activation}
    (coherent : Coherent stages facts callbacks)
    (fewer : ∀ callback ∈ others, callback ∈ callbacks)
    (distinct : (others.filterMap Activation.subject).Nodup) :
    Coherent stages facts others where
  __ := coherent
  each := by
    intro number record contents listed held
    apply (coherent.each number record contents listed held).mono
    · exact fun fact _ _ => Iff.rfl
    · exact fun callback member _ => fewer callback member
  called := fun callback member => coherent.called callback (fewer callback member)
  distinct := distinct

/-- Stages that close, or are cleared. -/
theorem Coherent.closes {stages later : List StageRecord} {callbacks : List Activation}
    (coherent : Coherent stages facts callbacks) (length : later.length = stages.length)
    (closed : ∀ (number : Nat) next, later[number]? = some next →
      ∃ record, stages[number]? = some record ∧
        (next.state = record.state ∨ next.state = .closed) ∧
        (next.contents = record.contents ∨ next.contents = none)) :
    Coherent later facts callbacks where
  __ := coherent
  each := by
    intro number next contents listed held
    obtain ⟨record, before, _, kept⟩ := closed number next listed
    rcases kept with same | none_
    · exact coherent.each number record contents before (same.symm.trans held)
    · rw [none_] at held
      contradiction
  fresh := by
    intro next member created contents held
    obtain ⟨number, listed⟩ := List.mem_iff_getElem?.mp member
    obtain ⟨record, before, state, kept⟩ := closed number next listed
    rcases kept with same | none_
    · rcases state with sameState | isClosed
      · exact coherent.fresh record (List.mem_of_getElem? before) (sameState.symm.trans created)
          contents (same.symm.trans held)
      · rw [isClosed] at created
        contradiction
    · rw [none_] at held
      contradiction
  placed := by
    intro fact happened number about
    rw [length]
    exact coherent.placed fact happened number about
  called := by
    intro callback member number about
    rw [length]
    exact coherent.called callback member number about

/-- A new stage. -/
theorem Coherent.append {callbacks : List Activation} (coherent : Coherent stages facts callbacks)
    (request : StageRequest) (call : CallRecord) (source : Nat) (borrowed : Bool) :
    Coherent (stages ++ [newStage request call source borrowed])
      (facts ++ [.stageCreated stages.length]) callbacks where
  each := by
    intro number record contents listed held
    rw [List.getElem?_append] at listed
    split at listed
    · next inside =>
      apply (coherent.each number record contents listed held).mono
      · intro fact _ about
        rw [List.mem_append, List.mem_singleton]
        constructor
        · intro happened
          rcases happened with before | now
          · exact before
          · rw [now] at about
            have same : stages.length = number := Option.some.inj about
            omega
        · exact Or.inl
      · exact fun callback member _ => member
    · next outside =>
      have isNew : record = newStage request call source borrowed := by
        have member := List.mem_of_getElem? listed
        exact List.mem_singleton.mp member
      have absent (fact : PublicationFact) (about : fact.stage = some number)
          (slotted : fact.slot ≠ some (.creation number)) :
          fact ∉ facts ++ [.stageCreated stages.length] := by
        intro happened
        rcases List.mem_append.mp happened with before | now
        · exact outside (coherent.placed fact before number about)
        · rw [List.mem_singleton.mp now] at about slotted
          exact slotted (congrArg (fun stage => some (Slot.creation stage))
            (Option.some.inj about))
      have idle (callback : Activation) (about : callback.stage = some number) :
          callback ∉ callbacks := by
        intro member
        exact outside (coherent.called callback member number about)
      rw [isNew] at held
      rw [← Option.some.inj held]
      constructor
      · intro happened
        exact absurd happened (absent _ rfl (by simp [PublicationFact.slot]))
      · intro happened
        exact absurd happened (absent _ rfl (by simp [PublicationFact.slot]))
      · intro granted
        contradiction
      · intro key happened
        exact absurd happened (absent _ rfl (by simp [PublicationFact.slot]))
      · intro key value happened
        exact absurd happened (absent _ rfl (by simp [PublicationFact.slot]))
      · intro key decision found
        contradiction
      · intro generation member
        exact absurd member (idle _ rfl)
      · intro binding key generation member
        exact absurd member (idle _ rfl)
  fresh := by
    intro record member
    rcases List.mem_append.mp member with before | now
    · exact coherent.fresh record before
    · intro _ contents held
      rw [List.mem_singleton.mp now] at held
      rw [← Option.some.inj held]
      exact ⟨rfl, rfl, rfl⟩
  placed := by
    intro fact happened number about
    rw [List.length_append, List.length_singleton]
    rcases List.mem_append.mp happened with before | now
    · have inside := coherent.placed fact before number about
      omega
    · rw [List.mem_singleton.mp now] at about
      have same : stages.length = number := Option.some.inj about
      omega
  called := by
    intro callback member number about
    rw [List.length_append, List.length_singleton]
    have inside := coherent.called callback member number about
    omega
  once := by
    rw [List.filterMap_append]
    apply List.nodup_append.mpr
    refine ⟨coherent.once, List.nodup_singleton _, ?_⟩
    intro slot before other now same
    obtain ⟨fact, happened, slotted⟩ := List.mem_filterMap.mp before
    have isNew : other = .creation stages.length := List.mem_singleton.mp now
    rw [same, isNew] at slotted
    cases fact with
    | stageCreated number =>
      have here : number = stages.length := Slot.creation.inj (Option.some.inj slotted)
      have inside := coherent.placed _ happened number rfl
      omega
    | resolverStarted number | predicateStarted number key | factsCommitted number => cases slotted
    | decided number key value => cases slotted
    | answered number key value | tracked work | finished work | released resource => cases slotted
  distinct := coherent.distinct
  answered := by
    intro number key value happened
    rcases List.mem_append.mp happened with before | now
    · exact List.mem_append_left _ (coherent.answered number key value before)
    · exact absurd (List.mem_singleton.mp now) (by simp)

end Publication

end WebTsToolkit.AccessRouter
