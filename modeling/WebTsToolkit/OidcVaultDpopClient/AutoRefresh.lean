import WebTsToolkit.Js.Double
import WebTsToolkit.Library.TransitionSystem

set_option autoImplicit false

namespace WebTsToolkit.OidcVaultDpopClient

open Js Library

def maxDelay : Int := 2147483647

def minCadence : Int := 1000

/-- What is thrown: an `OidcVaultDpopClientError` with its code and message, or any other value. -/
inductive ClientFault where
  | client (code message : String)
  | other (identity : Nat)
  deriving DecidableEq

structure AutoRefreshOptions where
  refreshBeforeExpiryMs : Int
  maxRefreshIntervalMs : Option Int
  refreshBeforeExpiry_bounds : 0 ≤ refreshBeforeExpiryMs ∧ refreshBeforeExpiryMs ≤ maxDelay
  maxRefreshInterval_bounds : ∀ interval ∈ maxRefreshIntervalMs,
    minCadence ≤ interval ∧ interval ≤ maxDelay

/-- `resolveAutoRefreshOptions` of two integers, where they are given. -/
def resolveAutoRefreshOptions (refreshBeforeExpiryMs maxRefreshIntervalMs : Option Int) :
    Except String AutoRefreshOptions :=
  let lead := refreshBeforeExpiryMs.getD 60000
  if leadBounds : 0 ≤ lead ∧ lead ≤ maxDelay then
    if intervalBounds : ∀ interval ∈ maxRefreshIntervalMs,
        minCadence ≤ interval ∧ interval ≤ maxDelay then
      .ok {
        refreshBeforeExpiryMs := lead
        maxRefreshIntervalMs
        refreshBeforeExpiry_bounds := leadBounds
        maxRefreshInterval_bounds := intervalBounds }
    else .error "maxRefreshIntervalMs must be an integer from 1000 to 2147483647 milliseconds."
  else .error "refreshBeforeExpiryMs must be an integer from 0 to 2147483647 milliseconds."

inductive TokenType where
  | dpop
  | bearer
  deriving DecidableEq

namespace TokenType

def text : TokenType → String
  | .dpop => "DPoP"
  | .bearer => "Bearer"

def expiredCode : TokenType → String
  | .dpop => "DPOP_ACCESS_TOKEN_EXPIRED"
  | .bearer => "BEARER_ACCESS_TOKEN_EXPIRED"

end TokenType

/-- What the scheduler reads of an access token. Its expiry is a safe integer. -/
structure AccessToken where
  tokenType : TokenType
  expiresAt : Int
  generation : String
  expiresAt_bounds : 0 ≤ expiresAt ∧ expiresAt ≤ maxSafeInteger

def clockError : ClientFault :=
  .client "INVALID_DPOP_TIME" "The proof clock is invalid."

def expired (token : AccessToken) : ClientFault :=
  .client token.tokenType.expiredCode
    s!"The {token.tokenType.text} access token has expired. Refresh before retrying."

/-- A failure that nobody is told of. -/
def isQuietFault : ClientFault → Bool
  | .client code _ => ["DPOP_OPERATION_SUPERSEDED", "DPOP_SESSION_DISPOSED"].contains code
  | .other _ => false

def addDeadline (epoch interval : Int) : Int :=
  if epoch > maxSafeInteger - interval then maxSafeInteger else epoch + interval

/-- What `hooks.now()` gives: it throws, or returns a number, `none` where that is no integer. -/
abbrev Reading := Except ClientFault (Option Int)

def clock : Reading → Except ClientFault Int
  | .error fault => .error fault
  | .ok none => .error clockError
  | .ok (some value) => if !isSafeInteger value || value < 0 then .error clockError else .ok value

/-- A timer of the host, with what its callback captured and the clock reading of its arming. -/
structure ArmedTimer where
  handle : Nat
  revision : Nat
  captured : Nat
  armedAt : Int
  delay : Int
  deriving DecidableEq

/-- How far the promise chain of an attempt has come. -/
inductive AttemptPhase where
  | queued
  | refreshing
  | ending
  deriving DecidableEq

structure Attempt where
  captured : Nat
  baseline : AccessToken
  phase : AttemptPhase

/-- A queued microtask that tells the observer of a failure. -/
structure Report where
  captured : Nat
  failedOutcome : Nat
  fault : ClientFault

/-- What happened: an attempt started, called its hook, or failed; an observer was told. -/
inductive RefreshFact where
  | started (now : Int)
  | called (captured : Nat)
  | caught (fault : ClientFault)
  | reported (fault : ClientFault)

/-- The scheduler and what it shares with its host. `owed` says that `busy()` has turned false and
the call of `settled` that goes with it is still to come. -/
structure AutoRefresh where
  token : Option AccessToken
  refreshedAt : Option Int
  active : Bool
  disposed : Bool
  intent : Nat
  outcome : Nat
  running : Bool
  lastAttemptAt : Option Int
  timer : Option Nat
  timerRevision : Nat
  timers : List ArmedTimer
  handles : Nat
  busy : Bool
  owed : Bool
  attempts : List Attempt
  reports : List Report
  facts : List RefreshFact

namespace AutoRefresh

variable (options : AutoRefreshOptions)

/-- The host's `clearTimeout`. -/
def clearTimeout (state : AutoRefresh) : AutoRefresh :=
  { state with timers := state.timers.filter fun timer => some timer.handle != state.timer }

def clearTimer (state : AutoRefresh) : AutoRefresh :=
  { { state with timerRevision := state.timerRevision + 1 }.clearTimeout with timer := none }

def current (state : AutoRefresh) (captured : Nat) : Bool :=
  !state.disposed && captured == state.intent

def fail (state : AutoRefresh) (fault : ClientFault) (captured : Nat) : AutoRefresh :=
  if !state.current captured then state
  else
    let inactive := { state with active := false }.clearTimer
    if isQuietFault fault then inactive
    else
      let failedOutcome := inactive.outcome + 1
      { inactive with
        outcome := failedOutcome
        reports := inactive.reports ++ [{ captured, failedOutcome, fault }] }

/-- The acquisition time that a deadline may count from. -/
def acquired (state : AutoRefresh) (token : AccessToken) (now : Int) : Option Int :=
  state.refreshedAt.filter fun refreshedAt =>
    isSafeInteger refreshedAt && 0 ≤ refreshedAt && refreshedAt ≤ now &&
      refreshedAt < token.expiresAt

/-- The deadline of a token, without the cadence of attempts. -/
def tokenDeadline (state : AutoRefresh) (token : AccessToken) (now : Int) : Int :=
  match state.acquired token now with
  | none =>
    let due := max 0 (token.expiresAt - options.refreshBeforeExpiryMs)
    match options.maxRefreshIntervalMs with
    | some _ => min due now
    | none => due
  | some acquired =>
    let lead := min options.refreshBeforeExpiryMs ((token.expiresAt - acquired) / 2)
    let due := max 0 (token.expiresAt - lead)
    let sooner := match options.maxRefreshIntervalMs with
      | some interval => min due (addDeadline acquired interval)
      | none => due
    max sooner (addDeadline acquired minCadence)

def deadline (state : AutoRefresh) (now : Int) (cadence : Bool) : Int :=
  match state.token with
  | none => maxSafeInteger
  | some token =>
    let due := state.tokenDeadline options token now
    match state.lastAttemptAt with
    | some lastAttemptAt => if cadence then max due (addDeadline lastAttemptAt minCadence) else due
    | none => due

/-- The token, where an attempt may start. -/
def ready (state : AutoRefresh) : Option AccessToken :=
  if !state.active || state.disposed || state.running || state.busy then none else state.token

def setTimeout (state : AutoRefresh) (now delay : Int) : AutoRefresh :=
  let armed : ArmedTimer := {
    handle := state.handles
    revision := state.timerRevision
    captured := state.intent
    armedAt := now
    delay }
  { state with
    timer := some state.handles
    handles := state.handles + 1
    timers := state.timers ++ [armed] }

def arm (state : AutoRefresh) (reading : Reading) : AutoRefresh :=
  let cleared := state.clearTimer
  match cleared.ready with
  | none => cleared
  | some token =>
    match clock reading with
    | .error fault => cleared.fail fault cleared.intent
    | .ok now =>
      if token.expiresAt ≤ now then cleared.fail (expired token) cleared.intent
      else
        cleared.setTimeout now
          (min maxDelay (max 0 (cleared.deadline options now true - now)))

/-- `wake`, which reads the clock once more where it arms a timer. -/
def wake (state : AutoRefresh) (first second : Reading) : AutoRefresh :=
  match state.ready with
  | none => state
  | some token =>
    match clock first with
    | .error fault => state.fail fault state.intent
    | .ok now =>
      if now < state.deadline options now true then state.arm options second
      else
        let cleared := state.clearTimer
        { cleared with
          running := true
          lastAttemptAt := some now
          attempts := cleared.attempts ++
            [{ captured := state.intent, baseline := token, phase := .queued }]
          facts := cleared.facts ++ [.started now] }

/-- The callback of a timer that the host lets fire. -/
def fire (state : AutoRefresh) (timer : ArmedTimer) (first second : Reading) : AutoRefresh :=
  let fired := { state with timers := state.timers.erase timer }
  if timer.revision != fired.timerRevision || !fired.current timer.captured then fired
  else { fired with timer := none }.wake options first second

def replace (state : AutoRefresh) (next : AccessToken) (acquisitionTime : Option Int)
    (reading : Reading) : AutoRefresh :=
  if state.disposed then state
  else
    let outcome := if state.token.map AccessToken.generation != some next.generation then
      state.outcome + 1 else state.outcome
    { state with outcome, token := some next, refreshedAt := acquisitionTime }.arm options reading

def activate (state : AutoRefresh) (captured : Nat) (reading : Reading) : AutoRefresh :=
  if !state.current captured then state
  else { state with outcome := state.outcome + 1, active := true }.arm options reading

def settled (state : AutoRefresh) (reading : Reading) : AutoRefresh :=
  { state with owed := false }.arm options reading

def pause (state : AutoRefresh) : AutoRefresh :=
  { state with active := false, outcome := state.outcome + 1 }.clearTimer

def clear (state : AutoRefresh) : AutoRefresh :=
  { state with
    active := false
    outcome := state.outcome + 1
    token := none
    refreshedAt := none }.clearTimer

def cancel (state : AutoRefresh) : AutoRefresh :=
  { state with
    intent := state.intent + 1
    outcome := state.outcome + 1
    active := false }.clearTimer

def dispose (state : AutoRefresh) : AutoRefresh :=
  { state with
    disposed := true
    active := false
    token := none
    refreshedAt := none
    lastAttemptAt := none
    outcome := state.outcome + 1 }.clearTimer

def setPhase (state : AutoRefresh) (position : Nat) (attempt : Attempt) (phase : AttemptPhase) :
    AutoRefresh :=
  { state with attempts := state.attempts.set position { attempt with phase } }

/-- The first step of an attempt's chain, which calls `hooks.refresh` or not. -/
def callRefresh (state : AutoRefresh) (position : Nat) (attempt : Attempt) : AutoRefresh :=
  if state.current attempt.captured && state.active then
    { state.setPhase position attempt .refreshing with
      facts := state.facts ++ [.called attempt.captured] }
  else state.setPhase position attempt .ending

/-- The `catch` of an attempt's chain. -/
def caught (state : AutoRefresh) (position : Nat) (attempt : Attempt) (fault : ClientFault) :
    AutoRefresh :=
  let ending : AutoRefresh := { state.setPhase position attempt .ending with
    facts := state.facts ++ [.caught fault] }
  match ending.token with
  | some token =>
    if token.generation != attempt.baseline.generation then ending
    else ending.fail fault attempt.captured
  | none => ending.fail fault attempt.captured

/-- The `finally` of an attempt's chain. -/
def finished (state : AutoRefresh) (position : Nat) (reading : Reading) : AutoRefresh :=
  { state with
    attempts := state.attempts.eraseIdx position
    running := false }.arm options reading

/-- The microtask of a report. -/
def report (state : AutoRefresh) (report : Report) : AutoRefresh :=
  if !state.current report.captured || report.failedOutcome != state.outcome then state
  else { state with facts := state.facts ++ [.reported report.fault] }

end AutoRefresh

/-- Each event runs without interruption. `occupied` and `vacated` are the turns of `busy()`. -/
inductive RefreshEvent where
  | replace (next : AccessToken) (acquisitionTime : Option Int) (reading : Reading)
  | activate (captured : Nat) (reading : Reading)
  | settled (reading : Reading)
  | pause
  | clear
  | cancel
  | dispose
  | occupied
  | vacated
  | fired (position : Nat) (first second : Reading)
  | pageWake (first second : Reading)
  | called (position : Nat)
  | refreshed (position : Nat) (fault : Option ClientFault)
  | finished (position : Nat) (reading : Reading)
  | reported (position : Nat)

section

variable (options : AutoRefreshOptions)

def AutoRefresh.step (state : AutoRefresh) : RefreshEvent → Option AutoRefresh
  | .replace next acquisitionTime reading =>
    some (state.replace options next acquisitionTime reading)
  | .activate captured reading => some (state.activate options captured reading)
  | .settled reading => some (state.settled options reading)
  | .pause => some state.pause
  | .clear => some state.clear
  | .cancel => some state.cancel
  | .dispose => some state.dispose
  | .occupied => some { state with busy := true }
  | .vacated => some { state with busy := false, owed := true }
  | .fired position first second =>
    (state.timers[position]?).map fun timer => state.fire options timer first second
  | .pageWake first second =>
    if state.disposed then none else some (state.wake options first second)
  | .called position =>
    match state.attempts[position]? with
    | some attempt =>
      if attempt.phase = .queued then some (state.callRefresh position attempt) else none
    | none => none
  | .refreshed position fault =>
    match state.attempts[position]? with
    | some attempt =>
      if attempt.phase = .refreshing then
        match fault with
        | some fault => some (state.caught position attempt fault)
        | none => some (state.setPhase position attempt .ending)
      else none
    | none => none
  | .finished position reading =>
    match state.attempts[position]? with
    | some attempt =>
      if attempt.phase = .ending then some (state.finished options position reading) else none
    | none => none
  | .reported position =>
    (state.reports[position]?).map fun report =>
      { state with reports := state.reports.eraseIdx position }.report report

/-- One scheduler under any order of events and with any clock. -/
def autoRefresh : TransitionSystem AutoRefresh RefreshEvent where
  start := {
    token := none
    refreshedAt := none
    active := false
    disposed := false
    intent := 0
    outcome := 0
    running := false
    lastAttemptAt := none
    timer := none
    timerRevision := 0
    timers := []
    handles := 0
    busy := false
    owed := false
    attempts := []
    reports := []
    facts := [] }
  step := AutoRefresh.step options

end

end WebTsToolkit.OidcVaultDpopClient
