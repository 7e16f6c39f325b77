import WebTsToolkit.Library.TransitionSystem
import WebTsToolkit.OidcVaultMemory.Store

set_option autoImplicit false

namespace WebTsToolkit.OidcVaultMemory

open Js Library OidcVault MemoryOidcVaultStore

/-- What a consume looks a record up by, besides its key. -/
def legacyMatch : RecordBindingMatch where
  deviceBinding := .null
  browserBindingHash := .null

section

variable {α : Type} (fields : α → OneTimeFields)

def isExpiredOneTime (record : Stored α) (now : Number) : Bool :=
  isExpiredRecord (some (fields record.fields).expiresAt) now

/-- A record that `readOneTimeRecord` does not delete. -/
def readable (record : Stored α) (now : Number) : Bool :=
  (fields record.fields).createdAt.isFinite && (fields record.fields).expiresAt.isFinite &&
    !isExpiredOneTime fields record now && hasValidRecordBinding (fields record.fields)

def readOneTimeRecord (map : Map (Stored α)) (id : String) (now : Number) :
    Map (Stored α) × Option (Stored α) :=
  match map.lookup id with
  | some record => if readable fields record now then (map, some record) else (map.erase id, none)
  | none => (map, none)

/-- The part that the consuming operations have in common, past their sweep: a record that is
accepted leaves the map. -/
def consumeRecord (accepts : α → Bool) (map : Map (Stored α)) (id : String) (now : Number) :
    Map (Stored α) × Option (Stored α) :=
  match readOneTimeRecord fields map id now with
  | (map, some record) =>
    if accepts record.fields then (map.erase id, some record) else (map, none)
  | (map, none) => (map, none)

/-- `pruneMapBatch` on a map of one-time records. -/
def pruneRecordsBatch (map : Map (Stored α)) (sweep : MapSweepState) (now : Number) :
    Swept (Stored α) :=
  sweepBatch (fun record => some (fields record.fields).expiresAt) map sweep now

/-- `cloneRecord` and `assertRecordBinding` on the input of a record. -/
def checkRecord (record : OneTimeFields) : Except StoreError OneTimeFields := do
  match structuredClone record.deviceBinding, structuredClone record.browserBindingHash,
      structuredCloneEntries record.rest with
  | some deviceBinding, some browserBindingHash, some rest =>
    let record := { record with deviceBinding, browserBindingHash, rest }
    assertRecordBinding record
    return record
  | _, _, _ => throw .dataClone

end

/-- The match of a consuming call: `cloneRecord` may throw, and `isBindingMatch` refuse it. -/
def checkMatch (expected : Value) : Except StoreError (Option RecordBindingMatch) :=
  match structuredClone expected with
  | some expected => .ok (isBindingMatch expected)
  | none => .error .dataClone

/-- The calls of the operations on sessions and one-time records. The second reading of the clock
that a `deleteSession` may make is `later`, and its rest after a wait is a call of its own. -/
inductive Call where
  | createAuthorizationTransaction (input : AuthorizationTransaction)
  | getAuthorizationTransaction (state : String)
  | consumeAuthorizationTransaction (state : String)
  | consumeAuthorizationTransactionIfMatches (state : String) (expected : Value)
  | createExchangeCode (input : ExchangeCodeRecord)
  | getExchangeCode (code : String)
  | consumeExchangeCode (code : String)
  | consumeExchangeCodeIfMatches (code expectedSessionId : String) (expected : Value)
  | createSession (input : OidcVaultSessionInput)
  | getSession (sessionId : String)
  | rotateSession (input : RotateSessionInput)
  | deleteSession (sessionId : String) (later : Number)
  | finishDeleteSession (sessionId : String)
  | deleteSessionsByLogicalSessionId (logicalSessionId : String)
  | deleteSessionsBySubject (subject : String) (scope : OidcVaultProviderMetadata)
  | deleteSessionsByProviderSessionId (providerSessionId : String)
      (scope : OidcVaultProviderMetadata)

inductive Answer where
  | done
  | waiting
  | failed (error : StoreError)
  | transaction (record : Option (Stored AuthorizationTransaction))
  | code (record : Option (Stored ExchangeCodeRecord))
  | session (session : Option OidcVaultSession)
  | count (deleted : Nat)

/-- The answer of an operation that may throw. -/
def Answer.ofExcept {α : Type} (answer : α → Answer) : Except StoreError α → Answer
  | .ok value => answer value
  | .error error => .failed error

/-- The calls on sessions; the others are on one-time records. -/
def Call.onSessions : Call → Bool
  | .createSession _ | .getSession _ | .rotateSession _ | .deleteSession _ _
  | .finishDeleteSession _ | .deleteSessionsByLogicalSessionId _
  | .deleteSessionsBySubject _ _ | .deleteSessionsByProviderSessionId _ _ => true
  | _ => false

namespace MemoryOidcVaultStore

variable (store : MemoryOidcVaultStore)

def pruneTransactions (now : Number) : MemoryOidcVaultStore :=
  let swept := pruneRecordsBatch AuthorizationTransaction.toOneTimeFields
    store.authorizationTransactions store.authorizationTransactionSweep now
  { store with
    authorizationTransactions := swept.map
    authorizationTransactionSweep := swept.sweep }

def pruneExchangeCodes (now : Number) : MemoryOidcVaultStore :=
  let swept := pruneRecordsBatch ExchangeCodeRecord.toOneTimeFields
    store.exchangeCodes store.exchangeCodeSweep now
  { store with exchangeCodes := swept.map, exchangeCodeSweep := swept.sweep }

def createAuthorizationTransaction (input : AuthorizationTransaction) (now : Number) :
    MemoryOidcVaultStore × Except StoreError Unit :=
  match checkRecord input.toOneTimeFields with
  | .error error => (store, .error error)
  | .ok fields =>
    let swept := store.pruneTransactions now
    let record : Stored AuthorizationTransaction :=
      ⟨swept.made, { input with toOneTimeFields := fields }⟩
    ({ swept with
        authorizationTransactions :=
          Map.set swept.authorizationTransactions input.state record
        made := swept.made + 1 }, .ok ())

/-- The answer is a copy of a record, told with the identity of the record, as for all reads. -/
def getAuthorizationTransaction (state : String) (now : Number) :
    MemoryOidcVaultStore × Option (Stored AuthorizationTransaction) :=
  let (map, record) := readOneTimeRecord AuthorizationTransaction.toOneTimeFields
    store.authorizationTransactions state now
  ({ store with authorizationTransactions := map },
    record.filter fun record => record.fields.state == state)

/-- `consumeAuthorizationTransactionIfMatches` past its checks of the match. -/
def consumeTransactionMatching (state : String) (expected : RecordBindingMatch) (now : Number) :
    MemoryOidcVaultStore × Option (Stored AuthorizationTransaction) :=
  let swept := store.pruneTransactions now
  let (map, record) := consumeRecord AuthorizationTransaction.toOneTimeFields
    (fun record => record.state == state && matchesRecordBinding record.toOneTimeFields expected)
    swept.authorizationTransactions state now
  ({ swept with authorizationTransactions := map }, record)

def consumeAuthorizationTransactionIfMatches (state : String) (expected : Value)
    (now : Number) :
    MemoryOidcVaultStore × Except StoreError (Option (Stored AuthorizationTransaction)) :=
  match checkMatch expected with
  | .error error => (store, .error error)
  | .ok none => (store, .ok none)
  | .ok (some expected) =>
    let (next, record) := store.consumeTransactionMatching state expected now
    (next, .ok record)

/-- The call of `consumeAuthorizationTransactionIfMatches` with two nulls. -/
def consumeAuthorizationTransaction (state : String) (now : Number) :
    MemoryOidcVaultStore × Except StoreError (Option (Stored AuthorizationTransaction)) :=
  store.consumeAuthorizationTransactionIfMatches state
    (.object [("deviceBinding", .null), ("browserBindingHash", .null)]) now

def createExchangeCode (input : ExchangeCodeRecord) (now : Number) :
    MemoryOidcVaultStore × Except StoreError Unit :=
  match checkRecord input.toOneTimeFields with
  | .error error => (store, .error error)
  | .ok fields =>
    let swept := store.pruneExchangeCodes now
    let record : Stored ExchangeCodeRecord :=
      ⟨swept.made, { input with toOneTimeFields := fields }⟩
    ({ swept with
        exchangeCodes := Map.set swept.exchangeCodes input.code record
        made := swept.made + 1 }, .ok ())

def getExchangeCode (code : String) (now : Number) :
    MemoryOidcVaultStore × Option (Stored ExchangeCodeRecord) :=
  let (map, record) := readOneTimeRecord ExchangeCodeRecord.toOneTimeFields
    store.exchangeCodes code now
  ({ store with exchangeCodes := map }, record.filter fun record => record.fields.code == code)

def consumeExchangeRecord (code : String) (expected : RecordBindingMatch) (now : Number)
    (expectedSessionId : Option String) :
    MemoryOidcVaultStore × Option (Stored ExchangeCodeRecord) :=
  let (map, record) := consumeRecord ExchangeCodeRecord.toOneTimeFields
    (fun record => record.code == code &&
      expectedSessionId.all (fun sessionId => record.sessionId == sessionId) &&
      matchesRecordBinding record.toOneTimeFields expected)
    store.exchangeCodes code now
  ({ store with exchangeCodes := map }, record)

def consumeExchangeCode (code : String) (now : Number) :
    MemoryOidcVaultStore × Option (Stored ExchangeCodeRecord) :=
  (store.pruneExchangeCodes now).consumeExchangeRecord code legacyMatch now none

def consumeExchangeCodeIfMatches (code expectedSessionId : String) (expected : Value)
    (now : Number) :
    MemoryOidcVaultStore × Except StoreError (Option (Stored ExchangeCodeRecord)) :=
  match checkMatch expected with
  | .error error => (store, .error error)
  | .ok none => (store, .ok none)
  | .ok (some expected) =>
    let (next, record) := (store.pruneExchangeCodes now).consumeExchangeRecord code expected
      now (some expectedSessionId)
    (next, .ok record)

def perform (store : MemoryOidcVaultStore) (call : Call) (now : Number) :
    MemoryOidcVaultStore × Answer :=
  match call with
  | .createAuthorizationTransaction input =>
    (store.createAuthorizationTransaction input now).map id (.ofExcept fun _ => .done)
  | .getAuthorizationTransaction state =>
    (store.getAuthorizationTransaction state now).map id .transaction
  | .consumeAuthorizationTransaction state =>
    (store.consumeAuthorizationTransaction state now).map id (.ofExcept .transaction)
  | .consumeAuthorizationTransactionIfMatches state expected =>
    (store.consumeAuthorizationTransactionIfMatches state expected now).map id
      (.ofExcept .transaction)
  | .createExchangeCode input =>
    (store.createExchangeCode input now).map id (.ofExcept fun _ => .done)
  | .getExchangeCode code => (store.getExchangeCode code now).map id .code
  | .consumeExchangeCode code => (store.consumeExchangeCode code now).map id .code
  | .consumeExchangeCodeIfMatches code expectedSessionId expected =>
    (store.consumeExchangeCodeIfMatches code expectedSessionId expected now).map id
      (.ofExcept .code)
  | .createSession input =>
    (store.createSession input now).map id (.ofExcept fun session => .session (some session))
  | .getSession sessionId => (store.getSession sessionId now).map id .session
  | .rotateSession input =>
    (store.rotateSession input now).map id (.ofExcept fun session => .session (some session))
  | .deleteSession sessionId later =>
    (store.deleteSession sessionId now later).map id fun waits =>
      if waits then .waiting else .done
  | .finishDeleteSession sessionId => (store.finishDeleteSession sessionId, .done)
  | .deleteSessionsByLogicalSessionId logicalSessionId =>
    (store.deleteSessionsByLogicalSessionId logicalSessionId now).map id .count
  | .deleteSessionsBySubject subject scope =>
    (store.deleteSessionsBySubject subject scope now).map id .count
  | .deleteSessionsByProviderSessionId providerSessionId scope =>
    (store.deleteSessionsByProviderSessionId providerSessionId scope now).map id .count

/-- The session maps of the first store are those of the second, which has made no more
records. -/
structure SameSessions (first second : MemoryOidcVaultStore) : Prop where
  sessions : first.sessions = second.sessions
  rotatedSessionAliases : first.rotatedSessionAliases = second.rotatedSessionAliases
  made : second.made ≤ first.made

theorem perform_sameSessions (store : MemoryOidcVaultStore) {call : Call} (now : Number)
    (records : call.onSessions = false) : SameSessions (store.perform call now).1 store := by
  have same : SameSessions store store := ⟨rfl, rfl, Nat.le_refl _⟩
  cases call with
  | createAuthorizationTransaction input =>
    show SameSessions (store.createAuthorizationTransaction input now).1 store
    unfold createAuthorizationTransaction
    split
    · exact same
    · exact ⟨rfl, rfl, Nat.le_succ _⟩
  | getAuthorizationTransaction state => exact ⟨rfl, rfl, Nat.le_refl _⟩
  | consumeAuthorizationTransaction state =>
    show SameSessions (store.consumeAuthorizationTransaction state now).1 store
    unfold consumeAuthorizationTransaction consumeAuthorizationTransactionIfMatches
    split <;> exact ⟨rfl, rfl, Nat.le_refl _⟩
  | consumeAuthorizationTransactionIfMatches state expected =>
    show SameSessions
      (store.consumeAuthorizationTransactionIfMatches state expected now).1 store
    unfold consumeAuthorizationTransactionIfMatches
    split <;> exact ⟨rfl, rfl, Nat.le_refl _⟩
  | createExchangeCode input =>
    show SameSessions (store.createExchangeCode input now).1 store
    unfold createExchangeCode
    split
    · exact same
    · exact ⟨rfl, rfl, Nat.le_succ _⟩
  | getExchangeCode code | consumeExchangeCode code => exact ⟨rfl, rfl, Nat.le_refl _⟩
  | consumeExchangeCodeIfMatches code expectedSessionId expected =>
    show SameSessions
      (store.consumeExchangeCodeIfMatches code expectedSessionId expected now).1 store
    unfold consumeExchangeCodeIfMatches
    split <;> exact ⟨rfl, rfl, Nat.le_refl _⟩
  | _ => contradiction

theorem perform_leavesRecords (store : MemoryOidcVaultStore) {call : Call} (now : Number)
    (sessions : call.onSessions = true) : LeavesRecords store (store.perform call now).1 := by
  cases call with
  | createSession input => exact createSession_leavesRecords store input now
  | getSession sessionId =>
    show LeavesRecords store (store.getSession sessionId now).1
    unfold getSession
    dsimp only
    split <;> exact (Shrinks.dropExpiredSession store sessionId now).leavesRecords
  | rotateSession input => exact rotateSession_leavesRecords store input now
  | deleteSession sessionId later =>
    exact (Shrinks.deleteSession store sessionId now later).leavesRecords
  | finishDeleteSession sessionId => exact (Shrinks.forgetAlias store sessionId).leavesRecords
  | deleteSessionsByLogicalSessionId lineage =>
    exact (Shrinks.deleteByLogicalSessionId store lineage now).leavesRecords
  | deleteSessionsBySubject subject scope =>
    exact (Shrinks.deleteScope store (fun session => session.subject == subject &&
      matchesProviderScope session scope) now).leavesRecords
  | deleteSessionsByProviderSessionId id scope =>
    exact (Shrinks.deleteScope store (fun session => session.providerSessionId == some id &&
      matchesProviderScope session scope) now).leavesRecords
  | _ => contradiction

end MemoryOidcVaultStore

/-- A call in a run: the store it found and the time it read. -/
structure Occurrence where
  before : MemoryOidcVaultStore
  call : Call
  now : Number

namespace Occurrence

def after (occurrence : Occurrence) : MemoryOidcVaultStore :=
  (occurrence.before.perform occurrence.call occurrence.now).1

def answer (occurrence : Occurrence) : Answer :=
  (occurrence.before.perform occurrence.call occurrence.now).2

end Occurrence

/-- A store, the last reading of its clock, the ids whose deletion waits, and the calls so far,
the latest first. -/
structure StoreRun where
  store : MemoryOidcVaultStore
  clock : Number
  waiting : List String
  past : List Occurrence

/-- The last reading of the clock that a call makes. -/
def Call.lastReading (call : Call) (now : Number) : Number :=
  match call with
  | .deleteSession _ later => later
  | _ => now

/-- The ids whose deletion waits after a call. -/
def Call.waitingAfter (call : Call) (answer : Answer) (waiting : List String) : List String :=
  match call, answer with
  | .deleteSession sessionId _, .waiting => sessionId :: waiting
  | .finishDeleteSession sessionId, _ => waiting.erase sessionId
  | _, _ => waiting

/-- A deletion is finished only if it waits. -/
def Call.possible (call : Call) (waiting : List String) : Bool :=
  match call with
  | .finishDeleteSession sessionId => waiting.contains sessionId
  | _ => true

/-- Calls in any order on a clock that never goes back. -/
def storeRuns : TransitionSystem StoreRun (Call × Number) where
  start := { store := .new, clock := .infinite true, waiting := [], past := [] }
  step run event :=
    let (call, now) := event
    if call.possible run.waiting && run.clock.le now && now.le (call.lastReading now) then
      let occurrence : Occurrence := { before := run.store, call, now }
      some {
        store := occurrence.after
        clock := call.lastReading now
        waiting := call.waitingAfter occurrence.answer run.waiting
        past := occurrence :: run.past }
    else none

/-- What a step of a run is. -/
structure Happens (run after : StoreRun) (call : Call) (now : Number) : Prop where
  store : after.store = (run.store.perform call now).1
  past : after.past = { before := run.store, call, now } :: run.past
  forward : run.clock.le now = true
  reads : now.le (call.lastReading now) = true
  clock : after.clock = call.lastReading now

theorem storeRuns_step {run after : StoreRun} {call : Call} {now : Number}
    (taken : storeRuns.step run (call, now) = some after) : Happens run after call now := by
  unfold storeRuns at taken
  dsimp only at taken
  split at taken
  · next ordered =>
    rw [Bool.and_eq_true, Bool.and_eq_true] at ordered
    rw [← Option.some.inj taken]
    exact ⟨rfl, rfl, ordered.1.2, ordered.2, rfl⟩
  · contradiction

theorem Happens.forward_clock {run after : StoreRun} {call : Call} {now : Number}
    (happens : Happens run after call now) : run.clock.le after.clock = true := by
  rw [happens.clock]
  exact Number.le_trans happens.forward happens.reads

/-- The clock of a run never goes back. -/
theorem clock_le_of_run {events : List (Call × Number)} {run later : StoreRun}
    (proper : run.clock.le run.clock = true)
    (happened : events.foldlM storeRuns.step run = some later) :
    run.clock.le later.clock = true := by
  induction events generalizing run with
  | nil =>
    rw [← Option.some.inj happened]
    exact proper
  | cons event events ih =>
    rw [List.foldlM_cons] at happened
    obtain ⟨middle, first, rest⟩ := Option.bind_eq_some_iff.mp happened
    have forward := (storeRuns_step first).forward_clock
    exact Number.le_trans forward (ih (Number.le_refl_of_le forward) rest)

/-- A session of no device, with the fields that the aliases depend on. -/
def plainSession (sessionId : String) (logicalSessionId : Option String)
    (expiresAt : Option Number) : OidcVaultSessionInput where
  sessionId := sessionId
  logicalSessionId := logicalSessionId
  subject := "user"
  providerSessionId := none
  provider := none
  deviceBinding := .undefined
  refreshToken := "refresh"
  idToken := "id"
  expiresAt := expiresAt
  rest := []
  createdAt := none
  updatedAt := none

/-- A session is rotated twice, and its last form expires. -/
def rotateTwice : List (Call × Number) :=
  [(.createSession (plainSession "first" none none), .finite 0),
    (.rotateSession ⟨"first", plainSession "second" none none⟩, .finite 1),
    (.rotateSession ⟨"second", plainSession "third" none (some (.finite 100))⟩, .finite 2)]

def rotatedTwice : StoreRun :=
  (storeRuns.run rotateTwice).getD storeRuns.start

theorem rotatedTwice_reachable : storeRuns.Reachable rotatedTwice := by
  have ran : (storeRuns.run rotateTwice).isSome = true := by decide +kernel
  obtain ⟨run, same⟩ := Option.isSome_iff_exists.mp ran
  rw [rotatedTwice, same]
  exact TransitionSystem.Reachable.of_run same

end WebTsToolkit.OidcVaultMemory
