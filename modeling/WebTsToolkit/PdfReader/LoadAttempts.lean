import WebTsToolkit.Library.TransitionSystem

set_option autoImplicit false

namespace WebTsToolkit.PdfReader.Load

open Library

/-- Why a promise of the reader is rejected. -/
inductive Reason (Error : Type) where
  | aborted
  | destroyed
  | deadlineExceeded
  | pageLimitExceeded
  | invalidOption
  | thrown (error : Error)

/-- Where the function that `#getOrCreateLoadState` starts has got to. A wait has the outcome that
its `#awaitWithDestroy` was settled with. The last two waits are for the teardown of a task, or for
a promise that is resolved. -/
inductive Stage (Document Error : Type) where
  | policyRunning
  | policyWait (waiter : Option (Except (Reason Error) Unit))
  | taskWait (task : Nat) (waiter : Option (Except (Reason Error) Document))
  | ending (reason : Reason Error) (awaited : Option Nat)
  | rethrowing (awaited : Option Nat)
  | settled (outcome : Except (Reason Error) Document)

/-- Tasks are named in the order of their creation. A `destroyPromise` is resolved, or it is that
of a task. -/
structure LoadState (Document Error : Type) where
  task : Option Nat
  destroyed : Bool
  destroyPromise : Option (Option Nat)
  stage : Stage Document Error

/-- A `PDFDocumentLoadingTask`, with the attempt that created it, whether its promise is settled,
the number of calls of `destroy()`, and how the promise of such a call was settled. -/
structure LoadingTask (Error : Type) where
  attempt : Nat
  settled : Bool
  destroys : Nat
  teardown : Option (Except Error Unit)

/-- The function that `destroy` starts waits for a teardown or a promise that is resolved. -/
inductive Destroying (Error : Type) where
  | awaiting (awaited : Option Nat)
  | settled (outcome : Except Error Unit)

/-- The private fields, with the attempts, the tasks and the promises of `destroy` that there ever
were, and what its calls have returned. -/
structure Reader (Document Error : Type) where
  loadingState : Option Nat
  loadingTask : Option Nat
  document : Option Document
  destroyPromise : Option Nat
  destroyed : Bool
  lastLoadFailed : Bool
  attempts : List (LoadState Document Error)
  tasks : List (LoadingTask Error)
  destroyPromises : List (Destroying Error)
  returned : List Nat

structure LoadOptions where
  signal : Option Nat
  deadline : Bool

/-- A call that starts an attempt has no waiter before the policy has returned. -/
inductive CallStatus (Document Error : Type) where
  | starting (attempt : Nat)
  | waiting (attempt : Nat)
  | waited (outcome : Except (Reason Error) Document)
  | done (outcome : Except (Reason Error) Document)

structure LoadCall (Document Error : Type) where
  options : LoadOptions
  status : CallStatus Document Error

/-- A reader with its load calls and the signals that are aborted. -/
structure State (Document Error : Type) where
  reader : Reader Document Error
  calls : List (LoadCall Document Error)
  aborted : List Nat

/-- What follows an approval: the second measurement of the source throws, `getDocument` throws, or
a task is created. -/
inductive Creation (Error : Type) where
  | overLimit (error : Error)
  | initThrows (error : Error)
  | created

/-- How an attempt starts: the snapshot or the first measurement of the source throws, there is no
policy, or the policy is called. -/
inductive Opening (Error : Type) where
  | sourceThrows (error : Error)
  | noPolicy (creation : Creation Error)
  | policy

inductive PolicyResult (Error : Type) where
  | approves (creation : Creation Error)
  | throws (error : Error)
  | promise

/-- What the application, PDF.js and the queue of reactions do. While a policy is running the
application may do anything that it may do at other times. A `destroy()` of a task may throw. -/
inductive Event (Document Error : Type) where
  | load (options : Option LoadOptions) (opening : Opening Error)
  | policyReturns (attempt : Nat) (result : PolicyResult Error)
  | policySettles (attempt : Nat) (result : Except Error Unit)
  | resumePolicy (attempt : Nat) (creation : Creation Error)
  | taskSettles (task : Nat) (result : Except Error Document)
  | resumeTask (attempt : Nat) (throws : Option Error)
  | teardownSettles (task : Nat) (result : Except Error Unit)
  | resumeTeardown (attempt : Nat)
  | abort (signal : Nat)
  | aborted (call : Nat)
  | expired (call : Nat)
  | react (call : Nat)
  | resumeCall (call : Nat)
  | destroy (throws : Option Error)
  | resumeDestroy (promise : Nat)

variable {Document Error : Type}

namespace LoadState

/-- What an `await` of the `destroyPromise` waits for. -/
def awaited (attempt : LoadState Document Error) : Option Nat :=
  attempt.destroyPromise.join

def isSettled (attempt : LoadState Document Error) : Bool :=
  match attempt.stage with
  | .settled _ => true
  | _ => false

/-- `onDestroy` of the wait that the attempt is in. -/
def onDestroy (attempt : LoadState Document Error) : LoadState Document Error :=
  match attempt.stage with
  | .policyWait none => { attempt with stage := .policyWait (some (.error .destroyed)) }
  | .taskWait task none => { attempt with stage := .taskWait task (some (.error .destroyed)) }
  | _ => attempt

end LoadState

/-- `destroy()` of a task. -/
def callDestroy (tasks : List (LoadingTask Error)) (task : Nat) : List (LoadingTask Error) :=
  tasks.modify task fun called => { called with destroys := called.destroys + 1 }

/-- `#destroyLoadStateTask`, with what it throws. -/
def destroyLoadStateTask (attempt : LoadState Document Error) (tasks : List (LoadingTask Error))
    (throws : Option Error) :
    LoadState Document Error × List (LoadingTask Error) × Option Error :=
  match attempt.destroyPromise, attempt.task with
  | some _, _ => (attempt, tasks, none)
  | none, none => ({ attempt with destroyPromise := some none }, tasks, none)
  | none, some task =>
    match throws with
    | none =>
      ({ attempt with task := none, destroyPromise := some (some task) },
        callDestroy tasks task, none)
    | some error => ({ attempt with task := none }, callDestroy tasks task, some error)

namespace Reader

def write (reader : Reader Document Error) (index : Nat) (attempt : LoadState Document Error) :
    Reader Document Error :=
  { reader with attempts := reader.attempts.set index attempt }

/-- The end of the function, with its `finally`. -/
def finish (reader : Reader Document Error) (index : Nat) (attempt : LoadState Document Error)
    (outcome : Except (Reason Error) Document) : Reader Document Error :=
  { reader.write index { attempt with stage := .settled outcome } with
    loadingState := if reader.loadingState = some index then none else reader.loadingState }

/-- The outer `catch`. -/
def caught (reader : Reader Document Error) (index : Nat) (attempt : LoadState Document Error)
    (reason : Reason Error) : Reader Document Error :=
  if attempt.destroyed || reader.destroyed then
    reader.write index { attempt with stage := .rethrowing attempt.awaited }
  else Reader.finish { reader with lastLoadFailed := true } index attempt (.error reason)

/-- From the second measurement of the source to the wait for the document. -/
def proceed (reader : Reader Document Error) (index : Nat) (attempt : LoadState Document Error)
    (creation : Creation Error) : Reader Document Error :=
  match creation with
  | .overLimit error => reader.caught index attempt (.thrown error)
  | .initThrows error =>
    if attempt.destroyed || reader.destroyed then reader.caught index attempt .destroyed
    else reader.caught index attempt (.thrown error)
  | .created =>
    if attempt.destroyed || reader.destroyed then reader.caught index attempt .destroyed
    else
      let task := reader.tasks.length
      Reader.write
        { reader with
          tasks := reader.tasks ++
            [{ attempt := index, settled := false, destroys := 0, teardown := none }] }
        index { attempt with task := some task, stage := .taskWait task none }

/-- A teardown of the task before the attempt ends with the reason. -/
def tearDown (reader : Reader Document Error) (index : Nat) (attempt : LoadState Document Error)
    (reason : Reason Error) (throws : Option Error) : Reader Document Error :=
  match destroyLoadStateTask attempt reader.tasks throws with
  | (attempt, tasks, none) =>
    Reader.write { reader with tasks } index
      { attempt with stage := .ending reason attempt.awaited }
  | (attempt, tasks, some error) => Reader.caught { reader with tasks } index attempt (.thrown error)

def publish (reader : Reader Document Error) (index : Nat) (attempt : LoadState Document Error)
    (task : Nat) (document : Document) : Reader Document Error :=
  Reader.finish
    { reader with loadingTask := some task, document := some document, lastLoadFailed := false }
    index { attempt with task := none } (.ok document)

/-- What follows the wait for the document. -/
def afterTask (numPages : Document → Nat) (maxDocumentPages : Nat)
    (reader : Reader Document Error) (index : Nat) (attempt : LoadState Document Error)
    (task : Nat) (outcome : Except (Reason Error) Document) (throws : Option Error) :
    Reader Document Error :=
  match outcome with
  | .error reason =>
    if attempt.destroyed || reader.destroyed then
      reader.write index { attempt with stage := .ending .destroyed attempt.awaited }
    else reader.tearDown index attempt reason throws
  | .ok document =>
    if attempt.destroyed then reader.tearDown index attempt .destroyed throws
    else if maxDocumentPages < numPages document then
      reader.tearDown index attempt .pageLimitExceeded throws
    else if reader.destroyed then reader.caught index attempt .destroyed
    else reader.publish index attempt task document

/-- What follows the call of the policy. -/
def afterPolicy (reader : Reader Document Error) (index : Nat) (attempt : LoadState Document Error)
    (result : PolicyResult Error) : Reader Document Error :=
  match result with
  | .approves creation => reader.proceed index attempt creation
  | .throws error => reader.caught index attempt (.thrown error)
  | .promise =>
    let waiter := if reader.destroyed then some (.error .destroyed) else none
    reader.write index { attempt with stage := .policyWait waiter }

/-- How the promise of a teardown was settled, or one that is resolved. -/
def settledAs (reader : Reader Document Error) (awaited : Option Nat) :
    Option (Except Error Unit) :=
  match awaited with
  | none => some (.ok ())
  | some task => (reader.tasks[task]?).bind (·.teardown)

/-- A new attempt, up to the call of the policy. -/
def opened (reader : Reader Document Error) : Reader Document Error :=
  { reader with
    lastLoadFailed := false
    loadingState := some reader.attempts.length
    attempts := reader.attempts ++
      [{ task := none, destroyed := false, destroyPromise := none, stage := .policyRunning }] }

def begin (reader : Reader Document Error) (opening : Opening Error) : Reader Document Error :=
  let index := reader.attempts.length
  let attempt : LoadState Document Error :=
    { task := none, destroyed := false, destroyPromise := none, stage := .policyRunning }
  match opening with
  | .sourceThrows error => reader.opened.caught index attempt (.thrown error)
  | .noPolicy creation => reader.opened.proceed index attempt creation
  | .policy => reader.opened

/-- The function that the first `destroy` starts, up to its wait. -/
def tearDownAll (reader : Reader Document Error) (loadingTask loadingState : Option Nat)
    (throws : Option Error) : Reader Document Error :=
  match loadingTask, loadingState with
  | some task, _ =>
    let outcome := match throws with
      | none => .awaiting (some task)
      | some error => .settled (.error error)
    { reader with
      tasks := callDestroy reader.tasks task
      destroyPromises := reader.destroyPromises ++ [outcome] }
  | none, none => { reader with destroyPromises := reader.destroyPromises ++ [.awaiting none] }
  | none, some index =>
    match reader.attempts[index]? with
    | none => { reader with destroyPromises := reader.destroyPromises ++ [.awaiting none] }
    | some attempt =>
      match destroyLoadStateTask { attempt with destroyed := true } reader.tasks throws with
      | (attempt, tasks, none) =>
        { reader.write index attempt with
          tasks
          destroyPromises := reader.destroyPromises ++ [.awaiting attempt.awaited] }
      | (attempt, tasks, some error) =>
        { reader.write index attempt with
          tasks
          destroyPromises := reader.destroyPromises ++ [.settled (.error error)] }

def destroy (reader : Reader Document Error) (throws : Option Error) : Reader Document Error :=
  match reader.destroyPromise with
  | some promise => { reader with returned := reader.returned ++ [promise] }
  | none =>
    let promise := reader.destroyPromises.length
    Reader.tearDownAll
      { reader with
        destroyPromise := some promise
        returned := reader.returned ++ [promise]
        destroyed := true
        loadingTask := none
        document := none
        loadingState := none
        attempts := reader.attempts.map LoadState.onDestroy }
      reader.loadingTask reader.loadingState throws

end Reader

namespace State

def isAborted (state : State Document Error) (options : LoadOptions) : Bool :=
  options.signal.any state.aborted.contains

/-- Why `load` throws before it does anything. -/
def refusal (state : State Document Error) : Option LoadOptions → Option (Reason Error)
  | none => some (if state.reader.destroyed then .destroyed else .invalidOption)
  | some options =>
    if state.reader.destroyed then some .destroyed
    else if state.isAborted options then some .aborted
    else none

/-- The wait of a call is registered. -/
def registered (state : State Document Error) (options : LoadOptions) (attempt : Nat) :
    CallStatus Document Error :=
  if state.isAborted options then .waited (.error .aborted)
  else if state.reader.destroyed then .waited (.error .destroyed)
  else .waiting attempt

def addCall (state : State Document Error) (options : LoadOptions)
    (status : CallStatus Document Error) : State Document Error :=
  { state with calls := state.calls ++ [{ options, status }] }

/-- The rest of the call that started the attempt. -/
def registerStarted (state : State Document Error) (attempt : Nat) : State Document Error :=
  { state with
    calls := state.calls.map fun call =>
      match call.status with
      | .starting other =>
        if other = attempt then { call with status := state.registered call.options attempt }
        else call
      | _ => call }

def load (state : State Document Error) (options : Option LoadOptions) (opening : Opening Error) :
    State Document Error :=
  let given := options.getD { signal := none, deadline := false }
  match state.refusal options with
  | some reason => state.addCall given (.done (.error reason))
  | none =>
    match state.reader.document, state.reader.loadingState with
    | some document, _ => state.addCall given (.done (.ok document))
    | none, some attempt => state.addCall given (state.registered given attempt)
    | none, none =>
      let attempt := state.reader.attempts.length
      let after := { state with reader := state.reader.begin opening }
      match opening with
      | .policy => after.addCall given (.starting attempt)
      | _ => after.addCall given (after.registered given attempt)

/-- The waiter of a call is settled, if it is not settled yet. -/
def settleCall (state : State Document Error) (index : Nat)
    (outcome : Except (Reason Error) Document) : State Document Error :=
  { state with calls := state.calls.modify index ({ · with status := .waited outcome }) }

/-- The end of `#load`. -/
def returned (state : State Document Error) (options : LoadOptions)
    (outcome : Except (Reason Error) Document) : Except (Reason Error) Document :=
  if state.reader.destroyed then .error .destroyed
  else if state.isAborted options then .error .aborted
  else outcome

/-- `onDestroy` of the wait that a call is in. -/
def onDestroy (call : LoadCall Document Error) : LoadCall Document Error :=
  match call.status with
  | .waiting _ => { call with status := .waited (.error .destroyed) }
  | _ => call

end State

def step (numPages : Document → Nat) (maxDocumentPages : Nat) (state : State Document Error) :
    Event Document Error → Option (State Document Error)
  | .load options opening => some (state.load options opening)
  | .policyReturns index result =>
    match state.reader.attempts[index]? with
    | some attempt =>
      match attempt.stage with
      | .policyRunning =>
        some (State.registerStarted
          { state with reader := state.reader.afterPolicy index attempt result } index)
      | _ => none
    | none => none
  | .policySettles index result =>
    match state.reader.attempts[index]? with
    | some attempt =>
      match attempt.stage with
      | .policyWait none =>
        some
          { state with
            reader := state.reader.write index
              { attempt with stage := .policyWait (some (result.mapError .thrown)) } }
      | _ => none
    | none => none
  | .resumePolicy index creation =>
    match state.reader.attempts[index]? with
    | some attempt =>
      match attempt.stage with
      | .policyWait (some (.ok ())) =>
        some { state with reader := state.reader.proceed index attempt creation }
      | .policyWait (some (.error reason)) =>
        some { state with reader := state.reader.caught index attempt reason }
      | _ => none
    | none => none
  | .taskSettles task result =>
    match state.reader.tasks[task]? with
    | some { attempt := index, settled := false, destroys, teardown } =>
      let told : Reader Document Error :=
        { state.reader with
          tasks := state.reader.tasks.set task
            { attempt := index, settled := true, destroys, teardown } }
      match state.reader.attempts[index]? with
      | some attempt =>
        match attempt.stage with
        | .taskWait waited none =>
          if waited = task then
            some
              { state with
                reader := told.write index
                  { attempt with
                    stage := .taskWait task (some (result.mapError .thrown)) } }
          else some { state with reader := told }
        | _ => some { state with reader := told }
      | none => some { state with reader := told }
    | _ => none
  | .resumeTask index throws =>
    match state.reader.attempts[index]? with
    | some attempt =>
      match attempt.stage with
      | .taskWait task (some outcome) =>
        some
          { state with
            reader := state.reader.afterTask numPages maxDocumentPages index attempt task
              outcome throws }
      | _ => none
    | none => none
  | .teardownSettles task result =>
    match state.reader.tasks[task]? with
    | some { attempt, settled, destroys := calls + 1, teardown := none } =>
      some
        { state with
          reader :=
            { state.reader with
              tasks := state.reader.tasks.set task
                { attempt, settled, destroys := calls + 1, teardown := some result } } }
    | _ => none
  | .resumeTeardown index =>
    match state.reader.attempts[index]? with
    | some attempt =>
      match attempt.stage with
      | .ending reason awaited =>
        (state.reader.settledAs awaited).map fun _ =>
          { state with reader := state.reader.caught index attempt reason }
      | .rethrowing awaited =>
        (state.reader.settledAs awaited).map fun _ =>
          { state with reader := state.reader.finish index attempt (.error .destroyed) }
      | _ => none
    | none => none
  | .abort signal => some { state with aborted := signal :: state.aborted }
  | .aborted index =>
    match state.calls[index]? with
    | some { options, status := .waiting _ } =>
      if state.isAborted options then some (state.settleCall index (.error .aborted)) else none
    | _ => none
  | .expired index =>
    match state.calls[index]? with
    | some { options := { signal := _, deadline := true }, status := .waiting _ } =>
      some (state.settleCall index (.error .deadlineExceeded))
    | _ => none
  | .react index =>
    match state.calls[index]? with
    | some { options := _, status := .waiting attempt } =>
      match (state.reader.attempts[attempt]?).map LoadState.stage with
      | some (.settled outcome) => some (state.settleCall index outcome)
      | _ => none
    | _ => none
  | .resumeCall index =>
    match state.calls[index]? with
    | some { options, status := .waited outcome } =>
      some
        { state with
          calls := state.calls.set index
            { options, status := .done (state.returned options outcome) } }
    | _ => none
  | .destroy throws =>
    some
      { state with
        reader := state.reader.destroy throws
        calls := if state.reader.destroyPromise.isSome then state.calls
          else state.calls.map State.onDestroy }
  | .resumeDestroy promise =>
    match state.reader.destroyPromises[promise]? with
    | some (.awaiting awaited) =>
      (state.reader.settledAs awaited).map fun outcome =>
        { state with
          reader :=
            { state.reader with
              destroyPromises := state.reader.destroyPromises.set promise
                (.settled outcome) } }
    | _ => none

def system (numPages : Document → Nat) (maxDocumentPages : Nat) :
    TransitionSystem (State Document Error) (Event Document Error) where
  start :=
    { reader :=
        { loadingState := none
          loadingTask := none
          document := none
          destroyPromise := none
          destroyed := false
          lastLoadFailed := false
          attempts := []
          tasks := []
          destroyPromises := []
          returned := [] }
      calls := []
      aborted := [] }
  step := step numPages maxDocumentPages

/-- What belongs to one load call: its abort or deadline, the reaction to the shared promise, and
the end of its function. -/
def Event.call : Event Document Error → Option Nat
  | .aborted index | .expired index | .react index | .resumeCall index => some index
  | _ => none

/-- What holds at any moment of one reader. -/
structure Contract (numPages : Document → Nat) (maxDocumentPages : Nat)
    (state : State Document Error) : Prop where
  single : ∀ (first second : Nat) (one other : LoadState Document Error),
    state.reader.attempts[first]? = some one → state.reader.attempts[second]? = some other →
      one.isSettled = false → other.isSettled = false → first = second
  shared : ∀ (index : Nat) (attempt : LoadState Document Error),
    state.reader.attempts[index]? = some attempt → attempt.isSettled = false →
      ∀ (options : Option LoadOptions) (opening : Opening Error) (next : State Document Error),
        step numPages maxDocumentPages state (.load options opening) = some next →
          next.reader = state.reader ∧ ∃ given, next = state.addCall given
            (match state.refusal options with
              | some reason => .done (.error reason)
              | none => .waiting index)
  confined : ∀ (event : Event Document Error) (next : State Document Error),
    step numPages maxDocumentPages state event = some next →
      (∀ signal, event = .abort signal → next.reader = state.reader ∧ next.calls = state.calls) ∧
        ∀ index, event.call = some index → next.reader = state.reader ∧
          next.aborted = state.aborted ∧
            ∀ other, other ≠ index → next.calls[other]? = state.calls[other]?
  custody : ∀ (name : Nat) (task : LoadingTask Error), state.reader.tasks[name]? = some task →
    task.destroys ≤ 1 ∧ ∃ attempt, state.reader.attempts[task.attempt]? = some attempt ∧
      (attempt.isSettled = true ∨ state.reader.destroyed = true →
        (state.reader.loadingTask = some name ∧ state.reader.document.isSome = true ∧
            task.destroys = 0) ∨
          (state.reader.loadingTask ≠ some name ∧ task.destroys = 1))
  failed : ∀ (event : Event Document Error) (next : State Document Error) (index : Nat)
    (after : LoadState Document Error) (reason : Reason Error),
    step numPages maxDocumentPages state event = some next →
      (∀ before, state.reader.attempts[index]? = some before → before.isSettled = false) →
        next.reader.attempts[index]? = some after → after.stage = .settled (.error reason) →
          next.reader.document = none ∧ next.reader.loadingState = none
  restarts : state.reader.document = none → state.reader.loadingState = none →
    ∀ (options : LoadOptions) (opening : Opening Error) (next : State Document Error),
      state.refusal (some options) = none →
        step numPages maxDocumentPages state (.load (some options) opening) = some next →
          next.reader.attempts.length = state.reader.attempts.length + 1 ∧
            ∃ call : LoadCall Document Error, next.calls = state.calls ++ [call] ∧
              (call.status = .starting state.reader.attempts.length ∨
                call.status = .waiting state.reader.attempts.length)
  closed : state.reader.destroyed = true → state.reader.document = none ∧
    ∀ (event : Event Document Error) (next : State Document Error),
      step numPages maxDocumentPages state event = some next →
        next.reader.destroyed = true ∧
          next.reader.tasks.length = state.reader.tasks.length ∧
            ∀ (index : Nat) (call : LoadCall Document Error) (document : Document),
              next.calls[index]? = some call → call.status = .done (.ok document) →
                state.calls[index]? = some call
  destroying : (state.reader.returned = [] ↔ state.reader.destroyed = false) ∧
    (∀ promise ∈ state.reader.returned, state.reader.destroyPromise = some promise) ∧
      ∀ (event : Event Document Error) (next : State Document Error) (promise : Nat)
        (outcome : Except Error Unit), step numPages maxDocumentPages state event = some next →
          state.reader.destroyPromises[promise]? = some (.settled outcome) →
            next.reader.destroyPromises[promise]? = some (.settled outcome)

end WebTsToolkit.PdfReader.Load
