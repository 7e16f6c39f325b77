import WebTsToolkit.Library.TransitionSystem

set_option autoImplicit false

namespace WebTsToolkit.MongooseRxdb

open Library

inductive ConnectionState where
  | disconnected
  | connecting
  | connected
  | closing
  | failed
  deriving DecidableEq

/-- A `Connection`. Databases and factories are known by their identity, the two promises by the
number of the attempt that they belong to. -/
structure Connection where
  db : Option Nat
  storageFactory : Option Nat
  state : ConnectionState
  connectPromise : Option Nat
  disconnectPromise : Option Nat
  generation : Nat

/-- How far the attempt of a `connect` has come: inside its factory, at the factory's promise, at
the close of a database that came too late. -/
inductive ConnectStage where
  | calling
  | opening
  | discarding (db : Option Nat)
  | settled (opened : Bool)
  deriving DecidableEq

/-- How far the attempt of a `disconnect` has come. -/
inductive DisconnectStage where
  | waiting (captured : Option Nat)
  | draining
  | closing (db : Nat)
  | settled (closed : Bool)
  deriving DecidableEq

/-- The attempts are numbered in the order in which they began. -/
inductive Attempt where
  | connect (generation : Nat) (factory : Option Nat) (stage : ConnectStage)
  | disconnect (previousDb : Option Nat) (stage : DisconnectStage)
  deriving DecidableEq

namespace Attempt

def isSettled : Attempt → Bool
  | .connect _ _ (.settled _) => true
  | .disconnect _ (.settled _) => true
  | _ => false

end Attempt

/-- A call of `connect` or `disconnect`. A queued `connect` waits for a close. -/
inductive Call where
  | queued (close : Nat) (factory : Option Nat)
  | joined (attempt : Nat)
  | returned
  | refused

/-- What happened to a database. -/
inductive DatabaseEvent where
  | returned (attempt : Nat) (db : Nat)
  | published (attempt : Nat) (db : Nat)
  | closeCalled (attempt : Nat) (db : Nat)
  | closed (db : Nat)
  deriving DecidableEq

/-- A connection with its attempts, its calls and the history of its databases. -/
structure Ownership where
  conn : Connection
  attempts : List Attempt
  calls : List Call
  history : List DatabaseEvent

/-- Application code runs inside a factory between `connect` and `called` or `threw`. -/
inductive ConnectionEvent where
  | connect (factory : Option Nat)
  /-- `connect` with a connection string. -/
  | connectUrl
  | disconnect
  | setStorage (factory : Nat)
  /-- The close that a queued `connect` waits for is over. -/
  | resume (call : Nat)
  /-- The factory returned its promise. -/
  | called (attempt : Nat)
  | threw (attempt : Nat)
  | opened (attempt : Nat) (db : Option Nat)
  | openFailed (attempt : Nat)
  /-- The close of a late database settled. -/
  | discarded (attempt : Nat) (closed : Bool)
  /-- The captured connect settled. -/
  | waited (attempt : Nat)
  /-- The pending collection initializations settled. -/
  | drained (attempt : Nat)
  | closeSettled (attempt : Nat) (closed : Bool)

namespace Ownership

def setAttempt (state : Ownership) (number : Nat) (attempt : Attempt) : Ownership :=
  { state with attempts := state.attempts.set number attempt }

def log (state : Ownership) (events : List DatabaseEvent) : Ownership :=
  { state with history := state.history ++ events }

/-- A new attempt of `connect`. Without a factory the storage module is imported, which runs no
application code. -/
def beginConnect (state : Ownership) (factory : Option Nat) : Ownership :=
  let generation := state.conn.generation + 1
  let factory := factory.or state.conn.storageFactory
  let begun := { state with
    conn := { state.conn with generation, state := .connecting } }
  match factory with
  | some _ =>
    { begun with attempts := state.attempts ++ [.connect generation factory .calling] }
  | none =>
    { begun with
      conn := { begun.conn with connectPromise := some state.attempts.length }
      attempts := state.attempts ++ [.connect generation factory .opening] }

/-- The loop of `connect` up to its next await. -/
def connect (state : Ownership) (factory : Option Nat) : Ownership × Call :=
  match state.conn.state, state.conn.connectPromise, state.conn.disconnectPromise with
  | .connected, _, _ => (state, .refused)
  | .connecting, some attempt, _ => (state, .joined attempt)
  | .closing, _, some close => (state, .queued close factory)
  | _, _, _ => (state.beginConnect factory, .joined state.attempts.length)

/-- `disconnect` up to its first await. -/
def disconnect (state : Ownership) : Ownership × Call :=
  match state.conn.state, state.conn.disconnectPromise with
  | .disconnected, _ => (state, .returned)
  | .closing, some close => (state, .joined close)
  | _, _ =>
    let number := state.attempts.length
    ({ state with
        conn := { state.conn with
          state := .closing
          generation := state.conn.generation + 1
          disconnectPromise := some number }
        attempts := state.attempts ++
          [.disconnect state.conn.db (.waiting state.conn.connectPromise)] },
      .joined number)

/-- The `catch` of a connect attempt. -/
def fail (conn : Connection) (generation : Nat) : Connection :=
  if conn.generation = generation then { conn with db := none, state := .failed } else conn

/-- The `finally` of a connect attempt. -/
def clearConnect (conn : Connection) (number : Nat) : Connection :=
  if conn.connectPromise = some number then { conn with connectPromise := none } else conn

/-- The `finally` of a disconnect attempt. -/
def clearDisconnect (conn : Connection) (number : Nat) : Connection :=
  if conn.disconnectPromise = some number then { conn with disconnectPromise := none } else conn

/-- A connect attempt past its factory's promise. -/
def afterOpened (state : Ownership) (number generation : Nat) (factory db : Option Nat) :
    Ownership :=
  let returned := state.log (db.toList.map (DatabaseEvent.returned number))
  if state.conn.generation ≠ generation ∨ state.conn.state ≠ .connecting then
    (returned.log (db.toList.map (DatabaseEvent.closeCalled number))).setAttempt number
      (.connect generation factory (.discarding db))
  else
    let published := returned.log (db.toList.map (DatabaseEvent.published number))
    { published with
      conn := clearConnect
        { state.conn with db, storageFactory := factory, state := .connected } number
      attempts := state.attempts.set number (.connect generation factory (.settled true)) }

/-- A connect attempt that throws past its first await. -/
def failConnect (state : Ownership) (number generation : Nat) (factory : Option Nat) : Ownership :=
  { state with
    conn := clearConnect (fail state.conn generation) number
    attempts := state.attempts.set number (.connect generation factory (.settled false)) }

/-- A disconnect attempt with nothing left to close. -/
def finishDisconnect (state : Ownership) (number : Nat) (previousDb : Option Nat) : Ownership :=
  { state with
    conn := clearDisconnect { state.conn with db := none, state := .disconnected } number
    attempts := state.attempts.set number (.disconnect previousDb (.settled true)) }

/-- Whether the connect that a disconnect captured has settled. -/
def hasSettled (state : Ownership) : Option Nat → Bool
  | none => true
  | some number => (state.attempts[number]?).any Attempt.isSettled

def step (state : Ownership) : ConnectionEvent → Option Ownership
  | .connect factory =>
    let entered := state.connect factory
    some { entered.1 with calls := entered.1.calls ++ [entered.2] }
  | .connectUrl => some { state with calls := state.calls ++ [.refused] }
  | .disconnect =>
    let entered := state.disconnect
    some { entered.1 with calls := entered.1.calls ++ [entered.2] }
  | .setStorage factory =>
    some { state with conn := { state.conn with storageFactory := some factory } }
  | .resume call =>
    match state.calls[call]? with
    | some (.queued close factory) =>
      match state.attempts[close]? with
      | some (.disconnect _ (.settled true)) =>
        let entered := state.connect factory
        some { entered.1 with calls := entered.1.calls.set call entered.2 }
      | some (.disconnect _ (.settled false)) =>
        some { state with calls := state.calls.set call .refused }
      | _ => none
    | _ => none
  | .called number =>
    match state.attempts[number]? with
    | some (.connect generation factory .calling) =>
      some { state with
        conn := { state.conn with connectPromise := some number }
        attempts := state.attempts.set number (.connect generation factory .opening) }
    | _ => none
  | .threw number =>
    match state.attempts[number]? with
    | some (.connect generation factory .calling) =>
      -- The attempt has no promise yet, which its `finally` could clear.
      some { state with
        conn := { fail state.conn generation with connectPromise := some number }
        attempts := state.attempts.set number (.connect generation factory (.settled false)) }
    | _ => none
  | .opened number db =>
    match state.attempts[number]? with
    | some (.connect generation factory .opening) =>
      some (state.afterOpened number generation factory db)
    | _ => none
  | .openFailed number =>
    match state.attempts[number]? with
    | some (.connect generation factory .opening) =>
      some (state.failConnect number generation factory)
    | _ => none
  | .discarded number closed =>
    match state.attempts[number]? with
    | some (.connect generation factory (.discarding db)) =>
      let settled := if closed then state.log (db.toList.map DatabaseEvent.closed) else state
      some (settled.failConnect number generation factory)
    | _ => none
  | .waited number =>
    match state.attempts[number]? with
    | some (.disconnect previousDb (.waiting captured)) =>
      if state.hasSettled captured then
        some (state.setAttempt number (.disconnect previousDb .draining))
      else none
    | _ => none
  | .drained number =>
    match state.attempts[number]? with
    | some (.disconnect previousDb .draining) =>
      match previousDb.or state.conn.db with
      | some db =>
        some ((state.log [.closeCalled number db]).setAttempt number
          (.disconnect previousDb (.closing db)))
      | none => some (state.finishDisconnect number previousDb)
    | _ => none
  | .closeSettled number closed =>
    match state.attempts[number]? with
    | some (.disconnect previousDb (.closing db)) =>
      if closed then some ((state.log [.closed db]).finishDisconnect number previousDb)
      else
        -- The database that may still be open stays the connection's own.
        some { state with
          conn := clearDisconnect
            { state.conn with db := state.conn.db.or (some db), state := .connected } number
          attempts := state.attempts.set number (.disconnect previousDb (.settled false)) }
    | _ => none

def start (storageFactory : Option Nat) : Ownership where
  conn :=
    { db := none
      storageFactory
      state := .disconnected
      connectPromise := none
      disconnectPromise := none
      generation := 0 }
  attempts := []
  calls := []
  history := []

end Ownership

/-- A connection under any calls. -/
def connections (storageFactory : Option Nat) : TransitionSystem Ownership ConnectionEvent where
  start := .start storageFactory
  step := Ownership.step

end WebTsToolkit.MongooseRxdb
