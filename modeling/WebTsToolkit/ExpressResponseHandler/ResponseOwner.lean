import WebTsToolkit.Library.TransitionSystem

set_option autoImplicit false

namespace WebTsToolkit.ExpressResponseHandler

open Library

inductive Kind where
  | error
  | csvResponse
  | other
  deriving DecidableEq

/-- A JavaScript value, as far as the wrapper looks at it. `message` is `none` where its getter
throws, `printed` where `String(value)` does. -/
inductive Value where
  | undefined
  | null
  | symbol (text : String)
  | string (text : String)
  | object (identity : Nat) (kind : Kind) (message : Option (Option String))
      (printed : Option String)
  | primitive (printed : Option String)
  | newError (message : String)
  | wrapped (message : String) (cause : Value)
  deriving DecidableEq

namespace Value

def isError : Value → Bool
  | .object _ .error _ _ => true
  | .newError _ | .wrapped _ _ => true
  | _ => false

def isCSVResponse : Value → Bool
  | .object _ .csvResponse _ _ => true
  | _ => false

/-- `value === undefined ? other : value`. -/
def orElse (value other : Value) : Value :=
  match value with
  | .undefined => other
  | _ => value

end Value

def describeTerminalFailure : Value → String
  | .undefined => "undefined"
  | .null => "null"
  | .symbol text => text
  | .string text => text
  | .object _ _ none _ => "Internal Server Error"
  | .object _ _ (some message) printed =>
    match message with
    | some text => if 0 < text.length then text else printed.getD "Internal Server Error"
    | none => printed.getD "Internal Server Error"
  | .primitive printed => printed.getD "Internal Server Error"
  | .newError message | .wrapped message _ => if 0 < message.length then message else "Error"

def toTerminalError (failure : Value) : Value :=
  if failure.isError then failure
  else .wrapped (describeTerminalFailure failure) failure

theorem toTerminalError_isError (failure : Value) : (toTerminalError failure).isError = true := by
  rw [toTerminalError]
  split
  · assumption
  · rfl

/-- What happens to one response: the handler commits its headers or its `next` reaches Express,
the wrapper delegates an error, writes or sends a body, and hooks run. -/
inductive Entry where
  | commit
  | next (argument : Value)
  | terminal (error : Value)
  | observation (error : Value)
  | body (success : Bool)
  | ended (success : Bool)
  | sent
  | finished
  | fallback (failure : Value)
  | preJson (data : Value)
  | postJson (data : Value)
  | preError (failure : Value)
  | postError (failure : Value)
  deriving DecidableEq

/-- The hooks that are set, which may change between any two events. -/
structure Hooks where
  preJson : Bool
  postJson : Bool
  preError : Bool
  postError : Bool

/-- Where the wrapper waits, or whose code runs: `sending` is inside `sendBaseJson`, `sendingError`
inside `sendBaseError`. -/
inductive Main where
  | handling
  | settling
  | preJson (data : Value)
  | sending (data : Value)
  | preError (failure : Value)
  | sendingError (failure : Value)
  | over

/-- The error lifecycle of the success path; `bypass` is a send with the `bypassEvent`. -/
inductive Fallback where
  | none
  | preError (failure : Value)
  | sending (failure : Value) (bypass : Bool)
  | over
  deriving DecidableEq

/-- The stream of a CSV response: its source is read for the first row, it is piped, its first
output is out, it ended the response, or it failed. -/
inductive Csv where
  | none
  | reading
  | piped
  | flowing
  | ended
  | failed
  deriving DecidableEq

structure State where
  hooks : Hooks
  canceled : Bool
  reported : Bool
  headersSent : Bool
  complete : Bool
  destroyed : Bool
  finished : Bool
  main : Main
  fallback : Fallback
  autoSendClaimed : Bool
  csv : Csv
  outputStarted : Bool
  postJson : List Value
  postError : List Value
  posting : Nat
  log : List Entry

def emit (entry : Entry) (state : State) : State :=
  { state with log := state.log ++ [entry] }

inductive Slot where
  | canceled
  | reported

/-- `none` where the slot was taken before. -/
def claimSlot (slot : Slot) (state : State) : Option State :=
  match slot with
  | .canceled => if state.canceled then none else some { state with canceled := true }
  | .reported => if state.reported then none else some { state with reported := true }

def delegateTerminalError (terminalError : Value) (state : State) : State :=
  match claimSlot .canceled state with
  | none => state
  | some state => emit (.terminal (toTerminalError terminalError)) state

def reportHookObservation (observation : Value) (state : State) : State :=
  match claimSlot .reported state with
  | none => state
  | some state => emit (.observation (toTerminalError observation)) state

/-- `reportTerminal` of `dispatchValue`. -/
def reportTerminal (failure : Value) (state : State) : State :=
  if state.canceled then reportHookObservation failure state
  else delegateTerminalError failure state

def schedulePostJson (value : Value) (state : State) : State :=
  if state.hooks.postJson then { state with postJson := state.postJson ++ [value] } else state

/-- `scheduleFallbackPostError`, and the same for the error path. -/
def schedulePostError (failure : Value) (state : State) : State :=
  if state.hooks.postError then { state with postError := state.postError ++ [failure] } else state

/-- `sendFormatted` of `dispatchError`, up to the send. `sendBaseError` returns `false` where
headers are sent. -/
def sendFormatted (failure : Value) (state : State) : State :=
  if state.canceled then state
  else if state.headersSent then delegateTerminalError failure state
  else { state with main := .sendingError failure }

def dispatchError (err : Value) (state : State) : State :=
  if state.canceled then state
  else if state.hooks.preError then emit (.preError err) { state with main := .preError err }
  else sendFormatted err state

/-- Up to the send. -/
def sendFallbackFormatted (failure : Value) (state : State) : State :=
  if !state.autoSendClaimed && state.canceled then state
  else if state.headersSent then reportTerminal failure state
  else { state with fallback := .sending failure state.autoSendClaimed }

/-- `fallbackOccurred` is that `fallback` is not `none`. -/
def runFallbackLifecycle (originalFailure : Value) (state : State) : State :=
  if state.fallback ≠ .none then state
  else
    let state := emit (.fallback originalFailure) { state with fallback := .over }
    if state.hooks.preError then
      emit (.preError originalFailure) { state with fallback := .preError originalFailure }
    else sendFallbackFormatted originalFailure state

/-- `runSender` of `dispatchValue`, up to the send. The checks of `sendBaseJson` are those that were
just made. -/
def runSender (data : Value) (state : State) : State :=
  if state.canceled then state
  else if state.headersSent then delegateTerminalError data state
  else
    { state with
      main := .sending data
      csv := if data.isCSVResponse then .reading else state.csv }

def dispatchValue (data : Value) (state : State) : State :=
  if data = .undefined then
    if state.canceled then state
    else if state.headersSent then (claimSlot .canceled state).getD state
    else state
  else if state.canceled then state
  else if state.headersSent then delegateTerminalError data state
  else if state.hooks.preJson then emit (.preJson data) { state with main := .preJson data }
  else runSender data state

def finalize (resolved : Value) (state : State) : State :=
  if state.canceled then state else dispatchValue resolved state

/-- The handler threw, or its promise rejected. -/
def rejected (err : Value) (state : State) : State :=
  if state.canceled then state
  else if state.headersSent then delegateTerminalError err state
  else dispatchError err state

/-- `next` as the handler has it. -/
def nextFn (error : Value) (state : State) : State :=
  match claimSlot .canceled state with
  | none => state
  | some state => emit (.next error) state

/-- `fail` of `streamCsv`, whose error owner is `runFallbackLifecycle`. -/
def fail (error : Value) (state : State) : State :=
  let normalizedError :=
    if error.isError then error else .wrapped "CSV response streaming failed" error
  let state := { state with csv := .failed }
  if !state.outputStarted && !state.headersSent then runFallbackLifecycle normalizedError state
  else { state with destroyed := true }

/-- A send wrote a whole body. -/
def wrote (success : Bool) (state : State) : State :=
  emit .sent (emit (.ended success) (emit (.body success)
    { state with
      headersSent := true
      complete := true }))

/-- After `sendBaseError` in the fallback: `failure` is what it threw. -/
def fallbackSent (original : Value) (bypass : Bool) (failure : Option Value) (state : State) :
    Option State :=
  let state := { state with fallback := .over }
  match failure with
  | some senderFailure => some (reportTerminal (senderFailure.orElse original) state)
  | none =>
    if state.headersSent then none
    else
      let state := wrote false state
      let state := if bypass then state else (claimSlot .canceled state).getD state
      some (schedulePostError original state)

/-- After `sendBaseError` in `sendFormatted`. -/
def errorSent (original : Value) (failure : Option Value) (state : State) : Option State :=
  let state := { state with main := .over }
  match failure with
  | some senderFailure => some (delegateTerminalError (senderFailure.orElse original) state)
  | none =>
    if state.headersSent then none
    else
      let state := wrote false state
      some (schedulePostError original ((claimSlot .canceled state).getD state))

/-- The end of `runSender` after a send. -/
def claimAutoSend (data : Value) (state : State) : State :=
  schedulePostJson data
    { (claimSlot .canceled state).getD state with autoSendClaimed := true }

/-- After `sendBaseJson`. `streamCsv` throws before it reads, or returns as `streams` says. -/
def valueSent (data : Value) (failure : Option Value) (state : State) : Option State :=
  let state := { state with main := .over }
  match failure with
  | some senderFailure =>
    let failure := senderFailure.orElse (.newError "response serialization failed")
    if data.isCSVResponse && state.csv ≠ .reading then none
    else
      let state := { state with csv := .none }
      if state.headersSent then some (reportTerminal failure state)
      else some (runFallbackLifecycle failure state)
  | none =>
    if data.isCSVResponse || state.headersSent then none
    else some (claimAutoSend data (wrote true state))

/-- Code of the handler may run inside a send: getters, `toJSON`, a CSV source, the provider. -/
def State.isSending (state : State) : Bool :=
  (match state.main with
    | .sending _ | .sendingError _ => true
    | _ => false) ||
  match state.fallback with
  | .sending _ _ => true
  | _ => false

inductive Event where
  | configure (hooks : Hooks)
  | callsNext (error : Value)
  | commits
  | ends
  | destroys
  | returns (value : Value)
  | returnsPromise
  | throws (err : Value)
  | resolves (value : Value)
  | rejects (err : Value)
  | preJsonSettles (failure : Option Value)
  | preErrorSettles (failure : Option Value)
  | fallbackSettles (failure : Option Value)
  | sends (failure : Option Value)
  | streams
  | pipes (outputStarted : Bool)
  | flushes
  | completes
  | fails (error : Value)
  | finish
  | postSettles (failure : Option Value)

def step (state : State) : Event → Option State
  | .configure hooks => some { state with hooks := hooks }
  | .callsNext error => some (nextFn error state)
  | .commits =>
    if state.headersSent then none else some (emit .commit { state with headersSent := true })
  | .ends =>
    if state.complete then none
    else if state.headersSent then some { state with complete := true }
    else
      some (emit .commit
        { state with
          headersSent := true
          complete := true })
  | .destroys => some { state with destroyed := true }
  | .returns value =>
    match state.main with
    | .handling => some (finalize value { state with main := .over })
    | _ => none
  | .returnsPromise =>
    match state.main with
    | .handling => some { state with main := .settling }
    | _ => none
  | .throws err =>
    match state.main with
    | .handling => some (rejected err { state with main := .over })
    | _ => none
  | .resolves value =>
    match state.main with
    | .settling => some (finalize value { state with main := .over })
    | _ => none
  | .rejects err =>
    match state.main with
    | .settling => some (rejected err { state with main := .over })
    | _ => none
  | .preJsonSettles failure =>
    match state.main with
    | .preJson data =>
      let state := { state with main := .over }
      match failure with
      | none => some (runSender data state)
      | some hookErr =>
        if state.canceled then some state
        else
          let failure := hookErr.orElse (.newError "pre-json hook failed")
          some (runFallbackLifecycle failure state)
    | _ => none
  | .preErrorSettles failure =>
    match state.main with
    | .preError err =>
      some (sendFormatted ((failure.getD err).orElse err) { state with main := .over })
    | _ => none
  | .fallbackSettles failure =>
    match state.fallback with
    | .preError original =>
      some (sendFallbackFormatted ((failure.getD original).orElse original)
        { state with fallback := .over })
    | _ => none
  | .sends failure =>
    -- the innermost send ends first
    match state.fallback, state.main with
    | .sending original bypass, _ => fallbackSent original bypass failure state
    | _, .sendingError original => errorSent original failure state
    | _, .sending data => valueSent data failure state
    | _, _ => none
  | .streams =>
    match state.fallback, state.main with
    | .sending _ _, _ => none
    | _, .sending data =>
      if data.isCSVResponse then
        some (claimAutoSend data (emit .sent { state with main := .over }))
      else none
    | _, _ => none
  | .pipes outputStarted =>
    -- `res.set` throws where headers are sent
    if state.csv ≠ .reading || state.isSending || state.headersSent then none
    else
      some
        { state with
          csv := .piped
          outputStarted := outputStarted }
  | .flushes =>
    if state.csv ≠ .piped || state.complete then none
    else
      some (emit (.body true)
        { state with
          csv := .flowing
          headersSent := true })
  | .completes =>
    if state.csv ≠ .flowing || state.complete then none
    else
      some (emit (.ended true)
        { state with
          csv := .ended
          complete := true })
  | .fails error =>
    if state.csv = .none || state.csv = .failed || state.csv = .ended && state.finished then none
    else some (fail error state)
  | .finish =>
    if !state.complete || state.destroyed || state.finished || state.isSending then none
    else
      let guarded := if state.fallback = .none then state.postJson else []
      some
        { state with
          finished := true
          postJson := []
          postError := []
          posting := state.posting + guarded.length + state.postError.length
          log := state.log ++ [.finished] ++ guarded.map .postJson ++
            state.postError.map .postError }
  | .postSettles failure =>
    match state.posting with
    | 0 => none
    | posting + 1 =>
      let state := { state with posting := posting }
      match failure with
      | none => some state
      | some err => some (reportHookObservation err state)

/-- A request arrives and the handler is called. -/
def initial (hooks : Hooks) : State where
  hooks := hooks
  canceled := false
  reported := false
  headersSent := false
  complete := false
  destroyed := false
  finished := false
  main := .handling
  fallback := .none
  autoSendClaimed := false
  csv := .none
  outputStarted := false
  postJson := []
  postError := []
  posting := 0
  log := []

/-- One request: any code of the handler, hooks, provider and source, and any order of events. -/
def system (hooks : Hooks) : TransitionSystem State Event where
  start := initial hooks
  step := step

end WebTsToolkit.ExpressResponseHandler
