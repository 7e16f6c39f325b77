import WebTsToolkit.Library.Outcome
import WebTsToolkit.OidcVaultMemory.Binding
import WebTsToolkit.OidcVaultMemory.Sweep

set_option autoImplicit false

namespace WebTsToolkit.OidcVaultMemory

open Js Library OidcVault

/-- An object that a map holds: its identity, the how manieth that its store made, and its
fields. -/
structure Stored (α : Type) where
  identity : Nat
  fields : α

structure RotatedSessionAlias where
  logicalSessionId : String
  expiresAt : Option Number

/-- The record maps of a store with their sweeps, and how many records it has made. -/
structure MemoryOidcVaultStore where
  authorizationTransactions : Map (Stored AuthorizationTransaction)
  exchangeCodes : Map (Stored ExchangeCodeRecord)
  sessions : Map (Stored OidcVaultSession)
  rotatedSessionAliases : Map RotatedSessionAlias
  authorizationTransactionSweep : MapSweepState
  exchangeCodeSweep : MapSweepState
  sessionSweep : MapSweepState
  rotatedSessionAliasSweep : MapSweepState
  made : Nat

namespace MemoryOidcVaultStore

def new : MemoryOidcVaultStore where
  authorizationTransactions := ∅
  exchangeCodes := ∅
  sessions := ∅
  rotatedSessionAliases := ∅
  authorizationTransactionSweep := .new
  exchangeCodeSweep := .new
  sessionSweep := .new
  rotatedSessionAliasSweep := .new
  made := 0

variable (store : MemoryOidcVaultStore)

def isExpiredSession (session : Stored OidcVaultSession) (now : Number) : Bool :=
  isExpiredRecord session.fields.expiresAt now

def hasLiveSessionForLogicalSession (logicalSessionId : String) (now : Number) : Bool :=
  store.sessions.values.any fun session =>
    session.fields.lineage == logicalSessionId && !isExpiredSession session now

def removeAliasesForLogicalSession (logicalSessionId : String) : MemoryOidcVaultStore :=
  { store with
    rotatedSessionAliases := Rows.keep store.rotatedSessionAliases fun _ rotated =>
      rotated.logicalSessionId != logicalSessionId }

def removeAliasesForInactiveLogicalSession (logicalSessionId : String) (now : Number) :
    MemoryOidcVaultStore :=
  if store.hasLiveSessionForLogicalSession logicalSessionId now then store
  else store.removeAliasesForLogicalSession logicalSessionId

def removeAliasesForInactiveLogicalSessions (logicalSessionIds : List String) (now : Number) :
    MemoryOidcVaultStore :=
  logicalSessionIds.foldl
    (fun store logicalSessionId =>
      store.removeAliasesForInactiveLogicalSession logicalSessionId now) store

def pruneSessionsBatch (now : Number) : MemoryOidcVaultStore :=
  let swept := sweepBatch (fun session => session.fields.expiresAt) store.sessions
    store.sessionSweep now
  let remaining := { store with sessions := swept.map, sessionSweep := swept.sweep }
  remaining.removeAliasesForInactiveLogicalSessions (swept.removed.map (·.fields.lineage)) now

/-- `pruneMapBatch` on the aliases. -/
def pruneAliasesBatch (now : Number) : MemoryOidcVaultStore :=
  let swept := sweepBatch RotatedSessionAlias.expiresAt store.rotatedSessionAliases
    store.rotatedSessionAliasSweep now
  { store with rotatedSessionAliases := swept.map, rotatedSessionAliasSweep := swept.sweep }

/-- The sweeps that `createSession` and `deleteSession` start with. -/
def pruneSessions (now : Number) : MemoryOidcVaultStore :=
  (store.pruneSessionsBatch now).pruneAliasesBatch now

/-- `cloneRecord` of the input of a session. -/
def cloneSession (input : OidcVaultSessionInput) : Except StoreError OidcVaultSessionInput :=
  match structuredClone input.deviceBinding, structuredCloneEntries input.rest with
  | some deviceBinding, some rest => .ok { input with deviceBinding, rest }
  | _, _ => .error .dataClone

/-- The session that is stored for an input. -/
def sessionOf (input : OidcVaultSessionInput) (logicalSessionId : String) (now : Number) :
    OidcVaultSession :=
  { input with
    logicalSessionId := some logicalSessionId
    createdAt := input.createdAt.getD now
    updatedAt := input.updatedAt.getD now }

/-- `sessions.delete(sessionId)`. -/
def forgetSession (sessionId : String) : MemoryOidcVaultStore :=
  { store with sessions := store.sessions.erase sessionId }

/-- `rotatedSessionAliases.delete(sessionId)`. -/
def forgetAlias (sessionId : String) : MemoryOidcVaultStore :=
  { store with rotatedSessionAliases := store.rotatedSessionAliases.erase sessionId }

/-- `rotatedSessionAliases.set(sessionId, rotated)`. -/
def writeAlias (sessionId : String) (rotated : RotatedSessionAlias) : MemoryOidcVaultStore :=
  { store with
    rotatedSessionAliases := Map.set store.rotatedSessionAliases sessionId rotated }

/-- The two writes that put a session into the maps. -/
def writeSession (session : OidcVaultSession) : MemoryOidcVaultStore :=
  { store with
    sessions := Map.set store.sessions session.sessionId ⟨store.made, session⟩
    rotatedSessionAliases := store.rotatedSessionAliases.erase session.sessionId
    made := store.made + 1 }

def createSession (input : OidcVaultSessionInput) (now : Number) :
    MemoryOidcVaultStore × Except StoreError OidcVaultSession :=
  let checked := do
    let input ← cloneSession input
    assertSessionBinding input.toSessionFields
    return input
  match checked with
  | .error error => (store, .error error)
  | .ok input =>
    let swept := store.pruneSessions now
    let session := sessionOf input input.lineage now
    let previous := swept.sessions.lookup session.sessionId
    let written := swept.writeSession session
    match previous with
    | some previous =>
      if previous.fields.lineage ≠ session.lineage then
        (written.removeAliasesForInactiveLogicalSession previous.fields.lineage now,
          .ok session)
      else (written, .ok session)
    | none => (written, .ok session)

/-- A session that has expired leaves, and with the last unexpired one of a lineage its aliases.
`getSession` and `rotateSession` begin with it. -/
def dropExpiredSession (sessionId : String) (now : Number) : MemoryOidcVaultStore :=
  match store.sessions.lookup sessionId with
  | some session =>
    if isExpiredSession session now then
      (store.forgetSession sessionId).removeAliasesForInactiveLogicalSession
        session.fields.lineage now
    else store
  | none => store

def getSession (sessionId : String) (now : Number) :
    MemoryOidcVaultStore × Option OidcVaultSession :=
  let dropped := store.dropExpiredSession sessionId now
  match dropped.sessions.lookup sessionId with
  | some session =>
    (dropped, if hasValidSessionRecord session.fields.toSessionFields sessionId then
      some session.fields else none)
  | none => (dropped, none)

structure RotateSessionInput where
  sessionId : String
  nextSession : OidcVaultSessionInput

/-- The checks of `rotateSession`, with the source and the next session where they pass. -/
def checkRotation (input : RotateSessionInput) (now : Number) :
    Except StoreError (Stored OidcVaultSession × OidcVaultSessionInput) :=
  match store.sessions.lookup input.sessionId with
  | none => .error (.conflict "OIDC vault session no longer exists for rotation.")
  | some source =>
    if !hasValidSessionRecord source.fields.toSessionFields input.sessionId then
      .error (.conflict "OIDC vault session no longer exists for rotation.")
    else if input.nextSession.sessionId = input.sessionId then
      .error
        (.conflict "OIDC vault session rotation target must use a different session ID.")
    else if (store.sessions.lookup input.nextSession.sessionId).any
        fun target => !isExpiredSession target now then
      .error (.conflict "OIDC vault session rotation target already exists.")
    else do
      let next ← cloneSession input.nextSession
      let next ← inheritSessionBinding source.fields.toSessionFields next
      return (source, next)

/-- The writes of `rotateSession`; a session at the target has expired by its checks. -/
def moveSession (source : Stored OidcVaultSession) (sessionId : String)
    (session : OidcVaultSession) (now : Number) : MemoryOidcVaultStore :=
  let cleared := store.dropExpiredSession session.sessionId now
  let written := (cleared.forgetSession sessionId).writeSession session
  let moved := written.writeAlias sessionId
    { logicalSessionId := session.lineage, expiresAt := session.expiresAt }
  if source.fields.lineage ≠ session.lineage then
    moved.removeAliasesForInactiveLogicalSession source.fields.lineage now
  else moved

def rotateSession (input : RotateSessionInput) (now : Number) :
    MemoryOidcVaultStore × Except StoreError OidcVaultSession :=
  let dropped := store.dropExpiredSession input.sessionId now
  match dropped.checkRotation input now with
  | .error error => (dropped, .error error)
  | .ok (source, next) =>
    let session := sessionOf next (next.logicalSessionId.getD source.fields.lineage) now
    (dropped.moveSession source input.sessionId session now, .ok session)

/-- The common loop of the scoped deletions: expired sessions leave with the ones in scope. The
answer has the lineages of the former and of the latter. -/
def deleteInScope (inScope : OidcVaultSession → Bool) (now : Number) :
    MemoryOidcVaultStore × List String × List String :=
  let expired := store.sessions.values.filter fun session => isExpiredSession session now
  let matched := store.sessions.values.filter fun session =>
    !isExpiredSession session now && inScope session.fields
  let sessions := Rows.keep store.sessions fun _ session =>
    !isExpiredSession session now && !inScope session.fields
  ({ store with sessions }, expired.map (·.fields.lineage), matched.map (·.fields.lineage))

def deleteSessionsByLogicalSessionId (logicalSessionId : String) (now : Number) :
    MemoryOidcVaultStore × Nat :=
  let (remaining, expired, matched) :=
    store.deleteInScope (·.lineage == logicalSessionId) now
  let cleaned := remaining.removeAliasesForInactiveLogicalSessions expired now
  (cleaned.removeAliasesForLogicalSession logicalSessionId, matched.length)

/-- What `deleteSessionsBySubject` and `deleteSessionsByProviderSessionId` have in common. -/
def deleteScope (inScope : OidcVaultSession → Bool) (now : Number) : MemoryOidcVaultStore × Nat :=
  let (remaining, expired, matched) := store.deleteInScope inScope now
  let cleaned := remaining.removeAliasesForInactiveLogicalSessions expired now
  (cleaned.removeAliasesForInactiveLogicalSessions matched now, matched.length)

/-- The issuer and the client that an input may name. -/
def matchesProviderScope (session : OidcVaultSession) (scope : OidcVaultProviderMetadata) :
    Bool :=
  scope.issuer.all (fun issuer => session.provider.bind (·.issuer) == some issuer) &&
    scope.clientId.all fun clientId => session.provider.bind (·.clientId) == some clientId

def deleteSessionsBySubject (subject : String) (scope : OidcVaultProviderMetadata)
    (now : Number) : MemoryOidcVaultStore × Nat :=
  store.deleteScope (fun session => session.subject == subject &&
    matchesProviderScope session scope) now

def deleteSessionsByProviderSessionId (providerSessionId : String)
    (scope : OidcVaultProviderMetadata) (now : Number) : MemoryOidcVaultStore × Nat :=
  store.deleteScope (fun session => session.providerSessionId == some providerSessionId &&
    matchesProviderScope session scope) now

/-- `deleteSession` up to its first wait or its end. It waits where it went through an alias, with
`later` the reading of the clock for the deletion of the lineage. -/
def deleteSession (sessionId : String) (now later : Number) : MemoryOidcVaultStore × Bool :=
  let swept := store.pruneSessions now
  match swept.sessions.lookup sessionId with
  | some session =>
    let remaining := (swept.forgetSession sessionId).forgetAlias sessionId
    (remaining.removeAliasesForInactiveLogicalSession session.fields.lineage now, false)
  | none =>
    match swept.rotatedSessionAliases.lookup sessionId with
    | some rotated =>
      if isExpiredRecord rotated.expiresAt now then (swept.forgetAlias sessionId, false)
      else ((swept.deleteSessionsByLogicalSessionId rotated.logicalSessionId later).1, true)
    | none => (swept, false)

/-- The rest of a `deleteSession` that waited. -/
def finishDeleteSession (sessionId : String) : MemoryOidcVaultStore :=
  store.forgetAlias sessionId

@[simp] theorem removeAliasesForInactive_sessions (lineage : String) (now : Number) :
    (store.removeAliasesForInactiveLogicalSession lineage now).sessions = store.sessions := by
  unfold removeAliasesForInactiveLogicalSession
  split <;> rfl

@[simp] theorem removeAliasesForInactives_sessions (lineages : List String) (now : Number) :
    (store.removeAliasesForInactiveLogicalSessions lineages now).sessions = store.sessions := by
  induction lineages generalizing store with
  | nil => rfl
  | cons lineage lineages ih =>
    have rest := ih (store.removeAliasesForInactiveLogicalSession lineage now)
    rw [removeAliasesForInactive_sessions] at rest
    exact rest

variable {store}

theorem cloneSession_eq_ok {input cloned : OidcVaultSessionInput}
    (passed : cloneSession input = .ok cloned) :
    ∃ deviceBinding rest, cloned = { input with deviceBinding, rest } := by
  unfold cloneSession at passed
  split at passed
  · next deviceBinding rest _ _ => exact ⟨deviceBinding, rest, (Except.ok.inj passed).symm⟩
  · contradiction

/-- What the checks of a rotation that pass tell. -/
structure RotationChecks (store : MemoryOidcVaultStore) (input : RotateSessionInput)
    (now : Number) (source : Stored OidcVaultSession) (next : OidcVaultSessionInput) : Prop where
  found : store.sessions.lookup input.sessionId = some source
  valid : hasValidSessionRecord source.fields.toSessionFields input.sessionId = true
  apart : input.nextSession.sessionId ≠ input.sessionId
  vacant : ∀ target, store.sessions.lookup input.nextSession.sessionId = some target →
    isExpiredSession target now = true
  inherited : ∃ cloned, cloneSession input.nextSession = .ok cloned ∧
    inheritSessionBinding source.fields.toSessionFields cloned = .ok next

variable {source : Stored OidcVaultSession} {next : OidcVaultSessionInput}
  {input : RotateSessionInput} {now : Number}

theorem RotationChecks.fields_eq (checks : RotationChecks store input now source next) :
    ∃ deviceBinding rest, next = { input.nextSession with deviceBinding, rest } := by
  obtain ⟨cloned, copied, passed⟩ := checks.inherited
  obtain ⟨deviceBinding, rest, rfl⟩ := cloneSession_eq_ok copied
  exact ⟨next.deviceBinding, rest, (inheritSessionBinding_eq_ok passed).2⟩

theorem RotationChecks.sessionId_eq (checks : RotationChecks store input now source next) :
    next.sessionId = input.nextSession.sessionId := by
  obtain ⟨_, _, rfl⟩ := checks.fields_eq
  rfl

theorem checkRotation_eq_ok (passed : store.checkRotation input now = .ok (source, next)) :
    RotationChecks store input now source next := by
  unfold checkRotation at passed
  split at passed
  · contradiction
  · next other found =>
    split at passed
    · contradiction
    · next valid =>
      split at passed
      · contradiction
      · next apart =>
        split at passed
        · contradiction
        · next vacant =>
          obtain ⟨cloned, copied, passed⟩ := bind_eq_ok passed
          obtain ⟨inherited, bound, passed⟩ := bind_eq_ok passed
          obtain ⟨rfl, rfl⟩ := Prod.mk.inj (Except.ok.inj passed)
          refine ⟨found, by simpa using valid, apart, fun target listed => ?_, cloned,
            copied, bound⟩
          rw [listed] at vacant
          simpa using vacant

theorem dropExpiredSession_lookup (sessionId other : String) (now : Number) :
    (store.dropExpiredSession sessionId now).sessions.lookup other =
      (store.sessions.lookup other).filter fun session =>
        other != sessionId || !isExpiredSession session now := by
  by_cases same : other = sessionId
  · subst same
    unfold dropExpiredSession
    cases found : store.sessions.lookup other with
    | none => simp [found]
    | some session =>
      by_cases expired : isExpiredSession session now = true
      · simp [Option.filter, forgetSession, expired]
      · simp [Option.filter, found, expired]
  · have kept : ((store.sessions.lookup other).filter fun session =>
        other != sessionId || !isExpiredSession session now) = store.sessions.lookup other := by
      cases store.sessions.lookup other with
      | none => rfl
      | some _ => rw [Option.filter_some_pos (by simp [same])]
    rw [kept]
    unfold dropExpiredSession
    split
    · split
      · rw [removeAliasesForInactive_sessions, forgetSession, Rows.lookup_erase, if_neg same]
      · rfl
    · rfl

/-- The one-time records are the same. -/
structure SameRecords (before after : MemoryOidcVaultStore) : Prop where
  transactions : after.authorizationTransactions = before.authorizationTransactions
  exchangeCodes : after.exchangeCodes = before.exchangeCodes

/-- Sessions leave and none is made. -/
structure Shrinks (before after : MemoryOidcVaultStore) : Prop where
  sub : ∀ sessionId session, after.sessions.lookup sessionId = some session →
    before.sessions.lookup sessionId = some session
  made : after.made = before.made
  records : SameRecords before after

theorem SameRecords.trans {before middle after : MemoryOidcVaultStore}
    (first : SameRecords before middle) (second : SameRecords middle after) :
    SameRecords before after :=
  ⟨second.transactions.trans first.transactions, second.exchangeCodes.trans first.exchangeCodes⟩

namespace Shrinks

variable {before middle after : MemoryOidcVaultStore}

theorem trans (first : Shrinks before middle) (second : Shrinks middle after) :
    Shrinks before after :=
  ⟨fun sessionId session found => first.sub sessionId session (second.sub sessionId session found),
    second.made.trans first.made, first.records.trans second.records⟩

theorem refl (store : MemoryOidcVaultStore) : Shrinks store store :=
  ⟨fun _ _ found => found, rfl, rfl, rfl⟩

theorem forgetSession (store : MemoryOidcVaultStore) (sessionId : String) :
    Shrinks store (store.forgetSession sessionId) := by
  refine ⟨fun other session found => ?_, rfl, rfl, rfl⟩
  rw [MemoryOidcVaultStore.forgetSession, Rows.lookup_erase] at found
  split at found
  · contradiction
  · exact found

theorem forgetAlias (store : MemoryOidcVaultStore) (sessionId : String) :
    Shrinks store (store.forgetAlias sessionId) :=
  ⟨fun _ _ found => found, rfl, rfl, rfl⟩

theorem removeAliases (store : MemoryOidcVaultStore) (lineage : String) :
    Shrinks store (store.removeAliasesForLogicalSession lineage) :=
  ⟨fun _ _ found => found, rfl, rfl, rfl⟩

theorem removeInactive (store : MemoryOidcVaultStore) (lineage : String) (now : Number) :
    Shrinks store (store.removeAliasesForInactiveLogicalSession lineage now) := by
  unfold removeAliasesForInactiveLogicalSession
  split
  · exact refl store
  · exact removeAliases store lineage

theorem removeInactives (store : MemoryOidcVaultStore) (lineages : List String) (now : Number) :
    Shrinks store (store.removeAliasesForInactiveLogicalSessions lineages now) := by
  induction lineages generalizing store with
  | nil => exact refl store
  | cons lineage lineages ih => exact (removeInactive store lineage now).trans (ih _)

theorem pruneSessions (store : MemoryOidcVaultStore) (now : Number) :
    Shrinks store (store.pruneSessions now) := by
  have swept := sweepBatch_sweepsExpired
    (fun session : Stored OidcVaultSession => session.fields.expiresAt) store.sessions
    store.sessionSweep now
  have batch : Shrinks store (store.pruneSessionsBatch now) := by
    refine Shrinks.trans ?_ (removeInactives _ _ now)
    exact ⟨swept.kept, rfl, rfl, rfl⟩
  exact batch.trans ⟨fun _ _ found => found, rfl, rfl, rfl⟩

theorem dropExpiredSession (store : MemoryOidcVaultStore) (sessionId : String) (now : Number) :
    Shrinks store (store.dropExpiredSession sessionId now) := by
  unfold MemoryOidcVaultStore.dropExpiredSession
  split
  · split
    · exact (forgetSession store sessionId).trans (removeInactive _ _ now)
    · exact refl store
  · exact refl store

theorem deleteInScope (store : MemoryOidcVaultStore) (inScope : OidcVaultSession → Bool)
    (now : Number) : Shrinks store (store.deleteInScope inScope now).1 :=
  ⟨fun _ _ found => (Rows.lookup_keep_eq_some.mp found).1, rfl, rfl, rfl⟩

theorem deleteScope (store : MemoryOidcVaultStore) (inScope : OidcVaultSession → Bool)
    (now : Number) : Shrinks store (store.deleteScope inScope now).1 :=
  ((deleteInScope store inScope now).trans (removeInactives _ _ now)).trans
    (removeInactives _ _ now)

theorem deleteByLogicalSessionId (store : MemoryOidcVaultStore) (lineage : String)
    (now : Number) : Shrinks store (store.deleteSessionsByLogicalSessionId lineage now).1 := by
  have remaining := deleteInScope store (fun session => session.lineage == lineage) now
  exact (remaining.trans (removeInactives _ _ now)).trans (removeAliases _ lineage)

theorem deleteSession (store : MemoryOidcVaultStore) (sessionId : String) (now later : Number) :
    Shrinks store (store.deleteSession sessionId now later).1 := by
  have pruned := pruneSessions store now
  unfold MemoryOidcVaultStore.deleteSession
  dsimp only
  split
  · exact ((pruned.trans (forgetSession _ sessionId)).trans (forgetAlias _ sessionId)).trans
      (removeInactive _ _ now)
  · split
    · split
      · exact pruned.trans (forgetAlias _ sessionId)
      · exact pruned.trans (deleteByLogicalSessionId _ _ later)
    · exact pruned

end Shrinks

/-- The operations on sessions leave the one-time records and give out identities upwards. -/
structure LeavesRecords (before after : MemoryOidcVaultStore) : Prop where
  records : SameRecords before after
  made : before.made ≤ after.made

theorem Shrinks.leavesRecords {before after : MemoryOidcVaultStore}
    (shrinks : Shrinks before after) : LeavesRecords before after :=
  ⟨shrinks.records, Nat.le_of_eq shrinks.made.symm⟩

theorem LeavesRecords.trans {before middle after : MemoryOidcVaultStore}
    (first : LeavesRecords before middle) (second : LeavesRecords middle after) :
    LeavesRecords before after :=
  ⟨first.records.trans second.records, Nat.le_trans first.made second.made⟩

theorem writeSession_leavesRecords (store : MemoryOidcVaultStore) (session : OidcVaultSession) :
    LeavesRecords store (store.writeSession session) :=
  ⟨⟨rfl, rfl⟩, Nat.le_succ _⟩

theorem createSession_leavesRecords (store : MemoryOidcVaultStore)
    (input : OidcVaultSessionInput) (now : Number) :
    LeavesRecords store (store.createSession input now).1 := by
  unfold createSession
  dsimp only
  split
  · exact (Shrinks.refl store).leavesRecords
  · next input _ =>
    have pruned := (Shrinks.pruneSessions store now).leavesRecords
    have written := pruned.trans
      (writeSession_leavesRecords _ (sessionOf input input.lineage now))
    split
    · split
      · exact written.trans (Shrinks.removeInactive _ _ now).leavesRecords
      · exact written
    · exact written

theorem moveSession_leavesRecords (store : MemoryOidcVaultStore)
    (source : Stored OidcVaultSession) (sessionId : String) (session : OidcVaultSession)
    (now : Number) : LeavesRecords store (store.moveSession source sessionId session now) := by
  have cleared := (Shrinks.dropExpiredSession store session.sessionId now).leavesRecords
  have erased := cleared.trans (Shrinks.forgetSession _ sessionId).leavesRecords
  have written := erased.trans (writeSession_leavesRecords _ session)
  unfold moveSession
  dsimp only
  split
  · refine LeavesRecords.trans ?_ (Shrinks.removeInactive _ _ now).leavesRecords
    exact written.trans ⟨⟨rfl, rfl⟩, Nat.le_refl _⟩
  · exact written.trans ⟨⟨rfl, rfl⟩, Nat.le_refl _⟩

theorem rotateSession_leavesRecords (store : MemoryOidcVaultStore) (input : RotateSessionInput)
    (now : Number) : LeavesRecords store (store.rotateSession input now).1 := by
  have dropped := (Shrinks.dropExpiredSession store input.sessionId now).leavesRecords
  unfold rotateSession
  dsimp only
  split
  · exact dropped
  · exact dropped.trans (moveSession_leavesRecords _ _ _ _ now)

end MemoryOidcVaultStore

end WebTsToolkit.OidcVaultMemory
