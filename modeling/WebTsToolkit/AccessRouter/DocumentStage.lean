import WebTsToolkit.AccessRouter.OutputPublication

set_option autoImplicit false

namespace WebTsToolkit.AccessRouter

open Js Library

/-- What application code gives when it is called: a value, a promise, or an exception. -/
inductive Answer where
  | returned (value : Value)
  | promised
  | threw (failure : Failure)

/-- Each event runs without interruption. An event with `refused` tells whether the ledger of a
collection refuses the work. -/
inductive PublicationEvent where
  | run
  | bind (call : Nat)
  | admitStage (request : StageRequest)
  /-- The source of the innermost new stage is prepared, or its preparation threw. -/
  | prepared (source : Option Nat) (borrowed fresh : Bool) (refused : Option Failure)
  | resolveEmpty (stage : Nat) (binding : AuthorizationBinding) (refused : Option Failure)
  | resolve (stage : Nat) (copied : Except Failure Unit)
  | beginOutput (stage : Nat) (binding : AuthorizationBinding)
  | readDecision (stage : Nat) (binding : AuthorizationBinding) (key : String)
  | memoize (stage : Nat) (binding : AuthorizationBinding) (key : String)
      (refused : Option Failure)
  /-- The innermost resolver or predicate returns. -/
  | answer (answer : Answer) (refused : Option Failure)
  /-- A promise of a resolver or a predicate settles. -/
  | settle (position : Nat) (outcome : Except Failure Value) (refused : Option Failure)
  | closeStage (stage : Nat)
  | retain
  | track
  | fail (error : Option Failure)
  /-- The handler of a tracked promise runs; the outcome is that of work of the library. -/
  | workSettled (work : TrackedWork) (outcome : Except Failure Unit)
  /-- The operation of `runOutputPublication` is over. -/
  | finish (outcome : Except (Option Failure) Unit)
  /-- Nothing that the close waits for is left. -/
  | drain

namespace Publication

-- The calls do not change: one that is used was issued before.
variable (calls : Calls)

def guarded {α : Type} : Except AuthorizationFault α → Except Failure α
  | .ok value => .ok value
  | .error fault => .error (.controlled fault)

/-- `assertOpen` of the stage that the caller knows by its record: the stage, the owner, and the
stages that own it. An owning stage is an earlier one. -/
def assertOpenWithin (state : Publication) : Nat → Nat → Except Failure StageContents
  | 0, _ => .error closedStage
  | depth + 1, number =>
    match state.stages[number]? with
    | none => .error (.controlled (.detail "invalid document stage"))
    | some record =>
      match record.state, record.contents with
      | .closed, _ => .error closedStage
      | _, none => .error closedStage
      | _, some contents => do
        state.owner.check
        match contents.owning with
        | none => .ok contents
        | some owning => do
          let above ← assertOpenWithin state depth owning.1
          guarded (calls.assertAuthorizationBinding above.call owning.2)
          return contents

def assertOpen (state : Publication) (number : Nat) : Except Failure StageContents :=
  state.assertOpenWithin calls (number + 1) number

/-- `assertOpen` with a generation that was read before. -/
def assertGeneration (state : Publication) (number generation : Nat) :
    Except Failure StageContents :=
  match state.stages[number]? with
  | none => .error (.controlled (.detail "invalid document stage"))
  | some record =>
    if record.generation ≠ generation then .error closedStage else state.assertOpen calls number

def readDocumentStageAccess (state : Publication) (number : Nat) (binding : AuthorizationBinding) :
    Except Failure StageContents := do
  let contents ← state.assertOpen calls number
  guarded (calls.assertAuthorizationBinding contents.call binding)
  return contents

/-- `documentStageSource`. -/
def documentStageSource (state : Publication) (number : Nat) (binding : AuthorizationBinding) :
    Except Failure Nat := do
  let contents ← state.readDocumentStageAccess calls number binding
  return contents.source

/-- `readDocumentStage`, with the contents of which the view is a part. -/
def readDocumentStage (state : Publication) (number : Nat) (binding : AuthorizationBinding) :
    Except Failure (StageContents × DocumentGrants) := do
  let contents ← state.readDocumentStageAccess calls number binding
  match (state.stages[number]?).map StageRecord.state, contents.grants with
  | some .ready, some grants => .ok (contents, grants)
  | some .building, some grants => .ok (contents, grants)
  | _, _ => .error (.controlled (.detail "document facts are not ready"))

/-- The ledger of a collection refuses work, which fails the owner. -/
def debit (state : Publication) : Option Failure → Publication × Except Failure Unit
  | none => (state, .ok ())
  | some failure => (state.fail (some failure), .error failure)

def withGrants (contents : StageContents) (grants : DocumentGrants) : StageContents :=
  { contents with grants := some grants }

/-- `commitDocumentStageFacts`. -/
def commitDocumentStageFacts (state : Publication) (number generation : Nat) (value : Value)
    (refused : Option Failure) : Publication × Except Failure DocumentGrants :=
  match state.assertGeneration calls number generation with
  | .error failure => (state, .error failure)
  | .ok contents =>
    match guarded (calls.assertAuthorizationBinding contents.call contents.binding),
        calls.records[contents.call]? with
    | .ok _, some record =>
      match state.debit refused with
      | (refusing, .error failure) => (refusing, .error failure)
      | (debited, .ok _) =>
        match DocumentGrants.normalize value
            (record.configuration.documentPermissionField.getD "_permissions") with
        | .error fault => (debited, .error (.controlled fault))
        | .ok grants =>
          (({ debited with
            stages := debited.stages.modify number fun record =>
              { record with
                state := .ready
                contents := record.contents.map (withGrants · grants) } }).note
              [.factsCommitted number], .ok grants)
    | .error failure, _ => (state, .error failure)
    | _, none => (state, .error (.controlled (.detail "invalid resolved call")))

/-- A stage fails with its owner. -/
def failStage (state : Publication) (number : Nat) (error : Failure) : Publication :=
  ({ state with
    stages := state.stages.modify number fun record => { record with failure := some error } }).fail
    (some error)

def setResult (state : Publication) (number : Nat) (result : Settlement DocumentGrants) :
    Publication :=
  state.modifyContents number fun contents => { contents with result := some result }

/-- `resolveEmptyOutputHelperStage`. -/
def resolveEmptyOutputHelperStage (state : Publication) (number : Nat)
    (binding : AuthorizationBinding) (refused : Option Failure) : Publication :=
  match state.assertOpen calls number, state.stages[number]? with
  | .ok contents, some record =>
    match calls.assertAuthorizationBinding contents.call binding,
        calls.records[contents.call]? with
    | .ok _, some call =>
      if call.factOrigin ≠ .outputHelper ∨ record.state ≠ .created then state
      else
        match state.commitDocumentStageFacts calls number record.generation (.object []) refused
          with
        | (committed, .ok _) =>
          committed.modifyContents number fun contents =>
            { contents with emptyHelperFacts := true }
        | (refusing, .error failure) => refusing.failStage number failure
    | _, _ => state
  | _, _ => state

/-- The `commit` and the `fail` of a resolution. -/
def settleResolution (state : Publication) (number generation : Nat)
    (outcome : Except Failure Value) (refused : Option Failure) : Publication :=
  match outcome with
  | .error failure => (state.failStage number failure).setResult number (.rejected failure)
  | .ok value =>
    match state.commitDocumentStageFacts calls number generation value refused with
    | (committed, .ok grants) => committed.setResult number (.fulfilled grants)
    | (refusing, .error failure) =>
      (refusing.failStage number failure).setResult number (.rejected failure)

/-- `resolveDocumentStage` up to the call of the resolver. The view of the source is a copy, which
may fail. -/
def resolveDocumentStage (state : Publication) (number : Nat) (copied : Except Failure Unit) :
    Publication :=
  match state.assertOpen calls number, state.stages[number]? with
  | .ok contents, some record =>
    match contents.result with
    | some _ => state
    | none =>
      if contents.emptyHelperFacts then
        state.setResult number (.fulfilled (contents.grants.getD []))
      else
        let started := (({ state with
          stages := state.stages.set number { record with state := .resolving } }).setResult
            number .pending).track (.result number)
        match copied with
        | .error failure =>
          (started.failStage number failure).setResult number (.rejected failure)
        | .ok _ =>
          let calling := started.note [.resolverStarted number]
          { calling with running := .resolving number record.generation :: calling.running }
  | _, _ => state

/-- `beginDocumentStageOutput`. -/
def beginDocumentStageOutput (state : Publication) (number : Nat) (binding : AuthorizationBinding) :
    Publication :=
  match state.readDocumentStage calls number binding with
  | .ok _ =>
    { state with
      stages := state.stages.modify number fun record => { record with state := .building } }
  | .error _ => state

def setDecision (contents : StageContents) (key : String) (decision : FieldDecision) :
    StageContents :=
  { contents with
    decisions := (key, decision) :: contents.decisions.filter fun entry => entry.1 != key }

/-- `pendingFieldDecision`: the promise of a decision is made when it is asked for. -/
def pendingFieldDecision (decision : FieldDecision) : FieldDecision :=
  { decision with promise := decision.promise.or (some .pending) }

/-- A reader of a decision that exists: a boolean once it is fulfilled, else its promise. -/
def readExisting (state : Publication) (number : Nat) (key : String) (decision : FieldDecision) :
    Publication :=
  match decision.state, decision.value with
  | .fulfilled, some value => state.note [.answered number key value]
  | _, _ => state.modifyContents number fun contents =>
    setDecision contents key (pendingFieldDecision decision)

/-- `readStageFieldDecision`. -/
def readStageFieldDecision (state : Publication) (number : Nat) (binding : AuthorizationBinding)
    (key : String) : Publication :=
  match state.readDocumentStage calls number binding with
  | .ok view =>
    match view.1.decisions.lookup key with
    | some decision => state.readExisting number key decision
    | none => state
  | .error _ => state

/-- `memoizeStageFieldDecision` up to the call of the predicate. -/
def memoizeStageFieldDecision (state : Publication) (number : Nat) (binding : AuthorizationBinding)
    (key : String) (refused : Option Failure) : Publication :=
  match state.readDocumentStage calls number binding, state.stages[number]? with
  | .ok view, some record =>
    match view.1.decisions.lookup key with
    | some decision => state.readExisting number key decision
    | none =>
      match state.debit refused with
      | (refusing, .error _) => refusing
      | (debited, .ok _) =>
        let begun := (debited.modifyContents number fun contents =>
          setDecision contents key { state := .pending, value := none, promise := none }).note
            [.predicateStarted number key]
        { begun with
          running := .deciding number binding key record.generation :: begun.running }
  | _, _ => state

/-- The decision of a stage that is not cleared. -/
def decision (state : Publication) (number : Nat) (key : String) : Option FieldDecision :=
  ((state.stages[number]?).bind StageRecord.contents).bind fun contents =>
    contents.decisions.lookup key

def fulfilledWith (value : Bool) (decision : FieldDecision) : FieldDecision where
  state := .fulfilled
  value := some value
  promise := decision.promise.map fun _ => .fulfilled value

def rejectedWith (error : Failure) (decision : FieldDecision) : FieldDecision where
  state := .rejected
  value := decision.value
  promise := some (.rejected error)

def modifyDecision (state : Publication) (number : Nat) (key : String)
    (change : FieldDecision → FieldDecision) : Publication :=
  state.modifyContents number fun contents =>
    match contents.decisions.lookup key with
    | some decision => setDecision contents key (change decision)
    | none => contents

/-- The `fail` of a decision. -/
def failDecision (state : Publication) (number : Nat) (key : String) (error : Failure) :
    Publication :=
  (state.modifyDecision number key (rejectedWith error)).fail (some error)

/-- The readers that hold a promise get the value with it. -/
def answers (state : Publication) (number : Nat) (key : String) (value : Bool) :
    List PublicationFact :=
  if ((state.decision number key).bind FieldDecision.promise).isSome then
    [.answered number key value]
  else []

/-- The `commit` and the `fail` of a decision, whose readers with a promise get the outcome. -/
def settleDecision (state : Publication) (number : Nat) (binding : AuthorizationBinding)
    (key : String) (generation : Nat) (outcome : Except Failure Value) : Publication :=
  match outcome with
  | .error failure => state.failDecision number key failure
  | .ok value =>
    match state.assertGeneration calls number generation with
    | .error failure => state.failDecision number key failure
    | .ok contents =>
      match guarded (calls.assertAuthorizationBinding contents.call binding), value with
      | .error failure, _ => state.failDecision number key failure
      | .ok _, .bool value =>
        (state.modifyDecision number key (fulfilledWith value)).note
          (.decided number key value :: state.answers number key value)
      | .ok _, _ =>
        state.failDecision number key
          (.controlled (.detail "field decision must be boolean"))

/-- The checks of a stage that another one owns, before its own source is prepared. -/
def assertOwning (state : Publication) (request : StageRequest)
    (owning : Nat × AuthorizationBinding) : Except Failure Unit := do
  let view ← state.readDocumentStage calls owning.1 owning.2
  guarded (calls.assertAuthorizationBinding request.call request.binding)
  guarded (calls.assertAuthorizationBinding view.1.call
    { request.binding with scopePath := owning.2.scopePath })
  let child ← guarded (calls.callRecord request.call)
  let parent ← guarded (calls.callRecord view.1.call)
  if child.provenance != parent.provenance ||
      request.binding.scope.length ≤ owning.2.scope.length ||
      !owning.2.scope.isPrefixOf request.binding.scope || child.output.access != view.1.access then
    .error (.controlled (.detail "owning document stage scope/access mismatch"))
  else .ok ()

def assertOwners (state : Publication) (request : StageRequest) : Except Failure Unit :=
  match request.owning with
  | none => .ok ()
  | some owning => state.assertOwning calls request owning

/-- What `admitDocumentStage` checks before it prepares its source. -/
def assertAdmission (state : Publication) (request : StageRequest) : Except Failure Unit := do
  guarded (calls.assertAuthorizationBinding request.call request.binding)
  state.assertOwners calls request
  state.owner.check

/-- `admitDocumentStage` up to the preparation of its source. The call is one of this owner, or it
is bound to it by its owning stage. -/
def admitDocumentStage (state : Publication) (request : StageRequest) : Publication :=
  match state.assertAdmission calls request with
  | .error _ => state
  | .ok _ =>
    if request.owning.isNone && !state.bound.contains request.call then state
    else
      { state with
        bound := request.call :: state.bound
        running := .hydrating request :: state.running }

/-- The record of a new stage. -/
def newStage (request : StageRequest) (record : CallRecord) (source : Nat) (borrowed : Bool) :
    StageRecord where
  state := .created
  generation := 0
  failure := none
  contents := some {
    call := request.call
    binding := { request.binding with scopePath := some request.binding.scope }
    access := record.output.access
    source, borrowed
    result := none
    emptyHelperFacts := false
    grants := none
    decisions := []
    owning := request.owning }

/-- A resource is retained by an open owner. -/
def retainResource (state : Publication) : Publication × Except Failure Unit :=
  match state.owner.check with
  | .error failure => (state, .error failure)
  | .ok _ =>
    ({ state with
      owner := { state.owner with resources := state.owner.resources ++ [state.resourcesMade] }
      resourcesMade := state.resourcesMade + 1 }, .ok ())

/-- The rest of `admitDocumentStage`: a source that was not prepared before is a resource. -/
def retainDocumentStage (state : Publication) (request : StageRequest) (source : Nat)
    (borrowed fresh : Bool) (refused : Option Failure) : Publication :=
  let prepared := if fresh && !request.inherited then state.retainResource else (state, .ok ())
  match prepared.2, calls.records[request.call]? with
  | .ok _, some record =>
    match prepared.1.debit refused with
    | (refusing, .error _) => refusing
    | (debited, .ok _) =>
      match debited.owner.check with
      | .error _ => debited
      | .ok _ =>
        let number := debited.stages.length
        ({ debited with
          stages := debited.stages ++ [newStage request record source borrowed]
          owner := { debited.owner with stages := debited.owner.stages ++ [number] } }).note
            [.stageCreated number]
  | _, _ => prepared.1

/-- `closeOutputPublication` up to its drain. -/
def beginClose (state : Publication) (error : Option Failure) (boundary : Boundary) :
    Publication :=
  let failed := match error with
    | some _ => state.fail error
    | none => state
  let closed := { failed with owner := { failed.owner with closed := true }, boundary }
  closed.closeStages closed.owner.failure false

/-- `closeOutputPublication` past its drain, up to its end. -/
def release (state : Publication) : Publication :=
  let cleared := state.closeStages state.owner.failure true
  { cleared with
    owner := { cleared.owner with stages := [], resources := [] }
    facts := cleared.facts ++ cleared.owner.resources.map PublicationFact.released }

/-- How a tracked promise settled, if it did. -/
def outcomeOf (state : Publication) (work : TrackedWork) (library : Except Failure Unit) :
    Option (Except Failure Unit) :=
  let settled {α : Type} : Option (Settlement α) → Option (Except Failure Unit)
    | some (.fulfilled _) => some (.ok ())
    | some (.rejected error) => some (.error error)
    | _ => none
  match work with
  | .result number =>
    settled (((state.stages[number]?).bind StageRecord.contents).bind StageContents.result)
  | .decision number key => settled ((state.decision number key).bind FieldDecision.promise)
  | .library _ => some library

variable (calls : Calls)

/-- The innermost callback returns. -/
def answered (state : Publication) (activation : Activation) (answer : Answer)
    (refused : Option Failure) : Publication :=
  match activation, answer with
  | .hydrating _, _ => state
  | .resolving number generation, .returned value =>
    state.settleResolution calls number generation (.ok value) refused
  | .resolving number generation, .threw failure =>
    state.settleResolution calls number generation (.error failure) refused
  | .deciding number binding key generation, .returned value =>
    state.settleDecision calls number binding key generation (.ok value)
  | .deciding number binding key generation, .threw failure =>
    state.settleDecision calls number binding key generation (.error failure)
  | .resolving _ _, .promised => { state with awaiting := state.awaiting ++ [activation] }
  | .deciding number _ key _, .promised =>
    let promised := (state.modifyDecision number key pendingFieldDecision).track
      (.decision number key)
    { promised with awaiting := promised.awaiting ++ [activation] }

def settled (state : Publication) (activation : Activation) (outcome : Except Failure Value)
    (refused : Option Failure) : Publication :=
  match activation with
  | .hydrating _ => state
  | .resolving number generation =>
    state.settleResolution calls number generation outcome refused
  | .deciding number binding key generation =>
    state.settleDecision calls number binding key generation outcome

/-- What may happen while application code runs, or between two of its turns. -/
def api (state : Publication) : PublicationEvent → Option Publication
  | .bind call =>
    some (if state.owner.check.isOk then { state with bound := call :: state.bound } else state)
  | .admitStage request => some (state.admitDocumentStage calls request)
  | .resolveEmpty number binding refused =>
    some (state.resolveEmptyOutputHelperStage calls number binding refused)
  | .resolve number copied => some (state.resolveDocumentStage calls number copied)
  | .beginOutput number binding => some (state.beginDocumentStageOutput calls number binding)
  | .readDecision number binding key =>
    some (state.readStageFieldDecision calls number binding key)
  | .memoize number binding key refused =>
    some (state.memoizeStageFieldDecision calls number binding key refused)
  | .closeStage number =>
    some { state with stages := state.stages.modify number fun record => record.close none false }
  | .retain => some state.retainResource.1
  | .track =>
    some (if state.owner.check.isOk then
        { state.track (.library state.worksMade) with worksMade := state.worksMade + 1 }
      else state)
  | .fail error => some (state.fail error)
  | _ => none

/-- What happens when no application code runs. -/
def turn (state : Publication) : PublicationEvent → Option Publication
  | .run =>
    if state.boundary = .idle then
      match state.owner.check with
      | .ok _ => some { state with boundary := .running }
      | .error failure => some (state.beginClose (some failure) .closingAgain)
    else none
  | .settle position outcome refused =>
    match state.awaiting[position]? with
    | some activation =>
      some ({ state with awaiting := state.awaiting.eraseIdx position }.settled calls
        activation outcome refused)
    | none => none
  | .workSettled work library =>
    if work ∈ state.owner.pending then
      (state.outcomeOf work library).map fun outcome =>
        match outcome with
        | .ok _ => state.untrack work
        | .error failure => (state.fail (some failure)).untrack work
    else none
  | .finish outcome =>
    if state.boundary = .running then
      match outcome, state.owner.check with
      | .ok _, .ok _ => some (state.beginClose none .closing)
      | .ok _, .error failure => some (state.beginClose (some failure) .closingAgain)
      | .error error, _ => some (state.beginClose error .closingAgain)
    else none
  | .drain =>
    if state.owner.pending ≠ [] then none
    else
      match state.boundary with
      | .closing =>
        let released := state.release
        match released.owner.failure with
        | none => some { released with boundary := .published }
        | some failure => some (released.beginClose (some failure) .closingAgain)
      | .closingAgain => some { state.release with boundary := .failed }
      | _ => none
  | _ => none

def step (state : Publication) (event : PublicationEvent) : Option Publication :=
  match state.running, event with
  | .hydrating request :: running, .prepared source borrowed fresh refused =>
    let outer := { state with running }
    match source with
    | none => some outer
    | some source => some (outer.retainDocumentStage calls request source borrowed fresh refused)
  | .hydrating _ :: _, .answer _ _ => none
  | activation :: running, .answer answer refused =>
    some ({ state with running }.answered calls activation answer refused)
  | [], event => (state.api calls event).or (state.turn calls event)
  | _, event => state.api calls event

def start : Publication where
  owner := .new
  stages := []
  bound := []
  running := []
  awaiting := []
  resourcesMade := 0
  worksMade := 0
  boundary := .idle
  facts := []

end Publication

/-- One owner under any order of events. -/
def publications (calls : Calls) : TransitionSystem Publication PublicationEvent where
  start := .start
  step := Publication.step calls

end WebTsToolkit.AccessRouter
