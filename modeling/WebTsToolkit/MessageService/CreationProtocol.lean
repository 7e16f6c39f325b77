import Mathlib.Data.List.Sort
import Mathlib.Logic.Function.Basic
import WebTsToolkit.Library.FirstOfKeys
import WebTsToolkit.Library.TransitionSystem

set_option autoImplicit false

namespace WebTsToolkit.MessageService.Creation

open Library

/-- `state` of a reservation. -/
inductive RequestState where
  | pending
  | completed
  | failed
  deriving DecidableEq

/-- The reservation of one scope. A random id is the number of its draw. -/
structure MessageRequest where
  state : RequestState
  itemCount : Option Int
  leaseOwnerId : Option Nat
  leaseExpiresAt : Option Int
  failureMessage : Option String
  deriving DecidableEq

/-- A message of the scope, in either collection. -/
structure ScopedMessage (δ : Type) where
  id : Nat
  clientRequestItemIndex : Nat
  data : δ
  deriving DecidableEq

/-- What the three collections hold of the scope. -/
structure Store (δ : Type) where
  request : Option MessageRequest
  active : List (ScopedMessage δ)
  archive : List (ScopedMessage δ)
  deriving DecidableEq

inductive CreationError where
  | pending (clientRequestId : String)
  | failed (clientRequestId : String) (failureReason : Option String)
  | inconsistentState (clientRequestId message : String)
  | thrown (message : String)
  deriving DecidableEq

def CreationError.message : CreationError → String
  | .pending clientRequestId =>
    s!"clientRequestId \"{clientRequestId}\" is still pending; " ++
      "retry after the current reservation completes or its lease expires"
  | .failed clientRequestId _ =>
    s!"clientRequestId \"{clientRequestId}\" previously failed; retry with a new clientRequestId"
  | .inconsistentState clientRequestId message =>
    s!"clientRequestId \"{clientRequestId}\" has inconsistent persisted state: {message}"
  | .thrown message => message

section Replay

variable {δ : Type}

/-- The order of `sort({ clientRequestItemIndex: 1, _id: 1 })`, and of the merged batch. -/
def ScopedMessage.Before (first second : ScopedMessage δ) : Prop :=
  if first.clientRequestItemIndex ≠ second.clientRequestItemIndex then
    first.clientRequestItemIndex < second.clientRequestItemIndex
  else first.id ≤ second.id

instance ScopedMessage.decidableBefore :
    DecidableRel (ScopedMessage.Before : ScopedMessage δ → ScopedMessage δ → Prop) :=
  fun _ _ => inferInstanceAs (Decidable (ite _ _ _))

/-- `findByClientRequestScope` and `findArchivedByClientRequestScope`. -/
def findByClientRequestScope (messages : List (ScopedMessage δ)) : List (ScopedMessage δ) :=
  messages.insertionSort ScopedMessage.Before

/-- `indexes`, in the order of the set. -/
def itemIndexes (messages : List (ScopedMessage δ)) : List Nat :=
  firstOfKeys id (messages.map ScopedMessage.clientRequestItemIndex)

def mergeReplayBatch (active archived : List (ScopedMessage δ)) (itemCount : Int) :
    Option (List (ScopedMessage δ)) :=
  let docs := firstOfKeys ScopedMessage.id (active ++ archived)
  let indexes := itemIndexes docs
  if docs.length = itemCount ∧ indexes.length = itemCount ∧
      ∀ index < itemCount.toNat, index ∈ indexes then
    some (docs.insertionSort ScopedMessage.Before)
  else none

/-- A read that a replay waits for, with what it has read before. -/
inductive ReplayRead (δ : Type) where
  | reservation
  | active
  | archived (active : List (ScopedMessage δ))
  | reservationAgain (active archived : List (ScopedMessage δ))
  | completedActive (itemCount : Int) (again : Bool)
  | completedArchived (itemCount : Int) (again : Bool) (active : List (ScopedMessage δ))
  deriving DecidableEq

inductive ReplayAnswer (δ : Type) where
  | reads (read : ReplayRead δ)
  | unfinished
  | replay (messages : List (ScopedMessage δ))
  | throws (error : CreationError)

variable (clientRequestId : String)

def unexpectedIndexes (itemCount : Int) (messages : List (ScopedMessage δ)) : String :=
  let found := ",".intercalate ((itemIndexes messages).map toString)
  s!"completed reservation expects item indexes 0..{itemCount - 1} but found [{found}]"

/-- The end of `buildCompletedReplay` after both collections were read. -/
def settleReplay (itemCount : Int) (again : Bool) (active archived : List (ScopedMessage δ)) :
    ReplayAnswer δ :=
  if itemCount = 0 then
    if active.isEmpty && archived.isEmpty then .replay []
    else .throws (.inconsistentState clientRequestId "completed zero-item reservation has messages")
  else
    match mergeReplayBatch active archived itemCount with
    | some merged => .replay merged
    | none =>
      if again then
        .throws (.inconsistentState clientRequestId
          (unexpectedIndexes itemCount (active ++ archived)))
      else .reads (.completedActive itemCount true)

def buildCompletedReplay (reservation : MessageRequest)
    (cached : Option (List (ScopedMessage δ) × List (ScopedMessage δ))) : ReplayAnswer δ :=
  let invalid := .throws
    (.inconsistentState clientRequestId "completed reservation has an invalid itemCount")
  match reservation.itemCount with
  | none => invalid
  | some itemCount =>
    if itemCount < 0 then invalid
    else
      match cached with
      | some (active, archived) => settleReplay clientRequestId itemCount false active archived
      | none => .reads (.completedActive itemCount false)

/-- What `findCompletedClientRequestReplay` does with a reservation that it read. -/
def answerReservation (reservation : MessageRequest)
    (cached : Option (List (ScopedMessage δ) × List (ScopedMessage δ))) : ReplayAnswer δ :=
  match reservation.state with
  | .failed => .throws (.failed clientRequestId reservation.failureMessage)
  | .pending => .unfinished
  | .completed => buildCompletedReplay clientRequestId reservation cached

/-- One read of `findCompletedClientRequestReplay`. -/
def findCompletedClientRequestReplay (store : Store δ) : ReplayRead δ → ReplayAnswer δ
  | .reservation =>
    match store.request with
    | none => .reads .active
    | some reservation => answerReservation clientRequestId reservation none
  | .active => .reads (.archived (findByClientRequestScope store.active))
  | .archived active =>
    let archived := findByClientRequestScope store.archive
    if active.isEmpty && archived.isEmpty then .unfinished
    else .reads (.reservationAgain active archived)
  | .reservationAgain active archived =>
    match store.request with
    | none => .throws (.inconsistentState clientRequestId "messages exist without a reservation")
    | some reservation => answerReservation clientRequestId reservation (some (active, archived))
  | .completedActive itemCount again =>
    .reads (.completedArchived itemCount again (findByClientRequestScope store.active))
  | .completedArchived itemCount again active =>
    settleReplay clientRequestId itemCount again active (findByClientRequestScope store.archive)

end Replay

namespace MessageRequest

variable (request : MessageRequest)

/-- `leaseExpiresAt: { $lte: now }`. -/
def leaseOver (now : Int) : Bool :=
  match request.leaseExpiresAt with
  | some expiresAt => decide (expiresAt ≤ now)
  | none => false

/-- The filter of every write of a lease owner. -/
def heldBy (lease : Nat) : Bool :=
  request.state == .pending && request.leaseOwnerId == some lease

end MessageRequest

section Writes

variable {δ : Type} (store : Store δ)

/-- `none` for a duplicate key. -/
def tryCreateClientRequestReservation (ownerId : Nat) (leaseExpiresAt : Int) : Option (Store δ) :=
  match store.request with
  | some _ => none
  | none =>
    some { store with
      request := some ⟨.pending, none, some ownerId, some leaseExpiresAt, none⟩ }

def tryTakeOverStaleClientRequestReservation (ownerId : Nat) (now leaseExpiresAt : Int) :
    Option (Store δ) :=
  match store.request with
  | some request =>
    if request.state = .pending ∧ request.leaseOver now = true then
      let request' :=
        { request with leaseOwnerId := some ownerId, leaseExpiresAt := some leaseExpiresAt }
      some { store with request := some request' }
    else none
  | none => none

/-- `Message.create(docs)`. The new ids are drawn one after another. -/
def createdMessages (drawn : Nat) (docs : List δ) : List (ScopedMessage δ) :=
  docs.mapIdx fun index data => ⟨drawn + index, index, data⟩

def MessageRequest.completed (request : MessageRequest) (itemCount : Nat) : MessageRequest :=
  { request with state := .completed, itemCount := some itemCount, leaseExpiresAt := none }

/-- The transaction of `persistPreparedBatchTransaction`: what it throws, or what it commits
with the messages created. The index of the active collection refuses a second message of an
item. -/
def persistPreparedBatch (clientRequestId duplicateKey : String) (drawn lease : Nat)
    (docs : List δ) : Except CreationError (Store δ × List (ScopedMessage δ)) :=
  let created := createdMessages drawn docs
  let taken (index : Nat) := store.active.any (·.clientRequestItemIndex == index)
  if created.any (taken ·.clientRequestItemIndex) then
    .error (.thrown duplicateKey)
  else
    match store.request with
    | some request =>
      if request.heldBy lease then
        .ok ({ store with
          request := some (request.completed docs.length)
          active := store.active ++ created }, created)
      else .error (.pending clientRequestId)
    | none => .error (.pending clientRequestId)

def MessageRequest.failed (request : MessageRequest) (message : String) : MessageRequest :=
  { request with state := .failed, failureMessage := some message, leaseExpiresAt := none }

def failClientRequestReservation (lease : Nat) (message : String) : Store δ :=
  match store.request with
  | some request =>
    if request.heldBy lease then { store with request := some (request.failed message) }
    else store
  | none => store

/-- The transaction that archives a message. -/
def archiveMessage (message : ScopedMessage δ) : Store δ :=
  { store with
    active := store.active.filter fun other => other.id != message.id
    archive := store.archive ++ [message] }

/-- A message deleted by its host, or at the end of its retention. -/
def removeMessage (messageId : Nat) : Store δ :=
  { store with
    active := store.active.filter fun other => other.id != messageId
    archive := store.archive.filter fun other => other.id != messageId }

end Writes

/-- Where a call of `createMessage` with a client request id is between two of its round trips. -/
inductive Phase (δ : Type) where
  | checking (read : ReplayRead δ)
  | starting
  | creating (deadline : Int)
  | takingOver (deadline : Int)
  | polling (deadline : Int) (read : ReplayRead δ)
  | waiting (deadline : Int)
  | preparing (lease : Nat)
  | committing (lease : Nat) (docs : List δ)
  | failing (lease : Nat) (message : String)
  | returned (messages : List (ScopedMessage δ))
  | threw (error : CreationError)
  deriving DecidableEq

/-- How the preparation of the items of a batch ends. Falsy data are no items. A template may
call `createMessage` itself, so that its error can be a pending request. -/
inductive PrepareOutcome (δ : Type) where
  | items (docs : List δ)
  | pending (clientRequestId : String)
  | throws (message : String)
  deriving DecidableEq

/-- How the call sees its transaction end: with an answer, aborted, or committed where an error
was reported. -/
inductive CommitOutcome where
  | answers
  | aborts (message : String)
  | unreported (message : String)
  deriving DecidableEq

/-- One round trip or answer of a call. A write whose answer is lost took place. -/
inductive CallStep (δ : Type) where
  | read
  | start (now : Int)
  | create (now : Int) (lost : Option String)
  | takeOver (now later : Int) (lost : Option String)
  | wait (now : Int)
  | prepare (outcome : PrepareOutcome δ)
  | commit (outcome : CommitOutcome) (compensation : Option String)
  | markFailed (lost : Option String)
  | databaseFails (message : String)
  deriving DecidableEq

/-- What may happen next. A call that takes no more steps has stopped. -/
inductive CreationEvent (δ : Type) where
  | call (number : Nat)
  | step (number : Nat) (step : CallStep δ)
  | archive (messageId : Nat)
  | remove (messageId : Nat)
  deriving DecidableEq

/-- A batch that was committed, and the lease that it was committed under. -/
structure Batch (δ : Type) where
  lease : Nat
  messages : List (ScopedMessage δ)

structure CreationRun (δ : Type) where
  store : Store δ
  drawn : Nat
  callers : Nat → Option (Phase δ)
  batches : List (Batch δ)
  removed : Nat

structure CreationSettings where
  clientRequestId : String
  clientRequestLeaseMs : Int
  clientRequestWaitMs : Int
  duplicateKey : String

namespace CreationRun

variable {δ : Type} (run : CreationRun δ)

def setPhase (number : Nat) (phase : Phase δ) : CreationRun δ :=
  { run with callers := Function.update run.callers number (some phase) }

def setStore (store : Store δ) : CreationRun δ :=
  { run with store := store }

def draw (count : Nat) : CreationRun δ :=
  { run with drawn := run.drawn + count }

def addBatch (batch : Batch δ) : CreationRun δ :=
  { run with batches := run.batches ++ [batch] }

end CreationRun

section Steps

variable {δ : Type} (settings : CreationSettings) (run : CreationRun δ) (number : Nat)

/-- A replay goes on to its next read, or ends as given. -/
def answerPhase (reads : ReplayRead δ → Phase δ) (unfinished : Phase δ) : ReplayAnswer δ → Phase δ
  | .reads next => reads next
  | .unfinished => unfinished
  | .replay messages => .returned messages
  | .throws error => .threw error

def readReplay (read : ReplayRead δ) (reads : ReplayRead δ → Phase δ) (unfinished : Phase δ) :
    CreationRun δ :=
  run.setPhase number <| answerPhase reads unfinished <|
    findCompletedClientRequestReplay settings.clientRequestId run.store read

/-- The phase after a write that gave a lease. -/
def leased (lease : Nat) : Option String → Phase δ
  | none => .preparing lease
  | some message => .threw (.thrown message)

/-- `tryCreateClientRequestReservation`, with the owner id drawn for it. -/
def create (deadline now : Int) (lost : Option String) : CreationRun δ :=
  match tryCreateClientRequestReservation run.store run.drawn
      (now + settings.clientRequestLeaseMs) with
  | some store => ((run.draw 1).setStore store).setPhase number (leased run.drawn lost)
  | none => (run.draw 1).setPhase number (.takingOver deadline)

/-- `tryTakeOverStaleClientRequestReservation`, which reads the clock twice. -/
def takeOver (deadline now later : Int) (lost : Option String) : CreationRun δ :=
  match tryTakeOverStaleClientRequestReservation run.store run.drawn now
      (later + settings.clientRequestLeaseMs) with
  | some store => ((run.draw 1).setStore store).setPhase number (leased run.drawn lost)
  | none => (run.draw 1).setPhase number (.polling deadline .reservation)

/-- The end of a turn of the loop of `acquireClientRequestStart`. -/
def wait (deadline now : Int) : CreationRun δ :=
  run.setPhase number <|
    if now ≥ deadline then .threw (.pending settings.clientRequestId) else .creating deadline

def prepare (lease : Nat) : PrepareOutcome δ → CreationRun δ
  | .items docs => run.setPhase number (.committing lease docs)
  | .pending clientRequestId => run.setPhase number (.threw (.pending clientRequestId))
  | .throws message => run.setPhase number (.failing lease message)

/-- The `catch` blocks after a transaction that was seen to fail: where a payment session could
not be expired, that is the error. A pending request is not marked as failed. -/
def rejected (lease : Nat) (error : CreationError) : Option String → Phase δ
  | some message => .failing lease message
  | none =>
    match error with
    | .pending clientRequestId => .threw (.pending clientRequestId)
    | error => .failing lease error.message

def commit (lease : Nat) (docs : List δ) (outcome : CommitOutcome) (compensation : Option String) :
    CreationRun δ :=
  let persisted := persistPreparedBatch run.store settings.clientRequestId settings.duplicateKey
    run.drawn lease docs
  let drawn := run.draw docs.length
  match outcome, persisted with
  | .answers, .ok (store, created) =>
    ((drawn.setStore store).addBatch ⟨lease, created⟩).setPhase number (.returned created)
  | .answers, .error error => drawn.setPhase number (rejected lease error compensation)
  | .aborts message, _ => drawn.setPhase number (rejected lease (.thrown message) compensation)
  | .unreported message, .ok (store, created) =>
    ((drawn.setStore store).addBatch ⟨lease, created⟩).setPhase number
      (rejected lease (.thrown message) compensation)
  | .unreported message, .error _ =>
    drawn.setPhase number (rejected lease (.thrown message) compensation)

/-- The call throws its own error unless the write does. -/
def markFailed (lease : Nat) (message : String) (lost : Option String) : CreationRun δ :=
  (run.setStore (failClientRequestReservation run.store lease message)).setPhase number
    (.threw (.thrown (lost.getD message)))

/-- A step that a call takes from where it is. -/
def callStep : Phase δ → CallStep δ → Option (CreationRun δ)
  | .checking read, .read => some (readReplay settings run number read .checking .starting)
  | .starting, .start now =>
    some (run.setPhase number (.creating (now + settings.clientRequestWaitMs)))
  | .creating deadline, .create now lost => some (create settings run number deadline now lost)
  | .takingOver deadline, .takeOver now later lost =>
    some (takeOver settings run number deadline now later lost)
  | .polling deadline read, .read =>
    some (readReplay settings run number read (.polling deadline) (.waiting deadline))
  | .waiting deadline, .wait now => some (wait settings run number deadline now)
  | .preparing lease, .prepare outcome => some (prepare run number lease outcome)
  | .committing lease docs, .commit outcome compensation =>
    some (commit settings run number lease docs outcome compensation)
  | .failing lease message, .markFailed lost => some (markFailed run number lease message lost)
  | .checking _, .databaseFails message | .creating _, .databaseFails message
  | .takingOver _, .databaseFails message | .polling _ _, .databaseFails message
  | .failing _ _, .databaseFails message =>
    some (run.setPhase number (.threw (.thrown message)))
  | _, _ => none

end Steps

def CreationRun.start (δ : Type) : CreationRun δ where
  store := ⟨none, [], []⟩
  drawn := 0
  callers := fun _ => none
  batches := []
  removed := 0

def creationStep {δ : Type} (settings : CreationSettings) (run : CreationRun δ) :
    CreationEvent δ → Option (CreationRun δ)
  | .call number =>
    match run.callers number with
    | none => some (run.setPhase number (.checking .reservation))
    | some _ => none
  | .step number step =>
    match run.callers number with
    | none => none
    | some phase => callStep settings run number phase step
  | .archive messageId =>
    match run.store.active.find? (·.id == messageId) with
    | some message => some (run.setStore (archiveMessage run.store message))
    | none => none
  | .remove messageId =>
    some { run.setStore (removeMessage run.store messageId) with removed := run.removed + 1 }

/-- Any calls of `createMessage` of one scope, while its messages are archived and deleted. -/
def creationRuns (δ : Type) (settings : CreationSettings) :
    TransitionSystem (CreationRun δ) (CreationEvent δ) where
  start := CreationRun.start δ
  step := creationStep settings

end WebTsToolkit.MessageService.Creation
