import WebTsToolkit.OidcVaultMemory.RecordCalls

set_option autoImplicit false

namespace WebTsToolkit.OidcVaultMemory

open Js Library OidcVault MemoryOidcVaultStore

/-- What a consuming call asks for, past its checks. -/
structure RecordRequest where
  key : String
  expected : RecordBindingMatch
  expectedSessionId : Option String

/-- What a call is to a map of one-time records, past its checks. -/
inductive ViewedCall (α : Type) where
  | other
  | create (key : String) (record : α)
  | read (key : String)
  | consume (request : RecordRequest)

/-- One of the two maps of one-time records. -/
structure RecordView (α : Type) where
  fields : α → OneTimeFields
  key : α → String
  sessionId : α → Option String
  map : MemoryOidcVaultStore → Map (Stored α)
  viewed : Call → ViewedCall α
  /-- The record in the answer of a consuming call. -/
  returned : Call → Answer → Option (Stored α)

/-- A call that stores a record. -/
def creation {α : Type} (key : String) : Except StoreError α → ViewedCall α
  | .ok record => .create key record
  | .error _ => .other

/-- A guarded call whose match is admitted. -/
def guarded {α : Type} (key : String) (expectedSessionId : Option String) :
    Except StoreError (Option RecordBindingMatch) → ViewedCall α
  | .ok (some expected) => .consume { key, expected, expectedSessionId }
  | _ => .other

namespace RecordView

/-- The authorization transactions. -/
def transactions : RecordView AuthorizationTransaction where
  fields := AuthorizationTransaction.toOneTimeFields
  key := AuthorizationTransaction.state
  sessionId _ := none
  map := MemoryOidcVaultStore.authorizationTransactions
  viewed
    | .createAuthorizationTransaction input =>
      creation input.state ((checkRecord input.toOneTimeFields).map fun fields =>
        { input with toOneTimeFields := fields })
    | .getAuthorizationTransaction state => .read state
    | .consumeAuthorizationTransaction state =>
      .consume { key := state, expected := legacyMatch, expectedSessionId := none }
    | .consumeAuthorizationTransactionIfMatches state expected =>
      guarded state none (checkMatch expected)
    | _ => .other
  returned
    | .consumeAuthorizationTransaction _, .transaction record => record
    | .consumeAuthorizationTransactionIfMatches _ _, .transaction record => record
    | _, _ => none

/-- The exchange codes. -/
def exchangeCodes : RecordView ExchangeCodeRecord where
  fields := ExchangeCodeRecord.toOneTimeFields
  key := ExchangeCodeRecord.code
  sessionId record := some record.sessionId
  map := MemoryOidcVaultStore.exchangeCodes
  viewed
    | .createExchangeCode input =>
      creation input.code ((checkRecord input.toOneTimeFields).map fun fields =>
        { input with toOneTimeFields := fields })
    | .getExchangeCode code => .read code
    | .consumeExchangeCode code =>
      .consume { key := code, expected := legacyMatch, expectedSessionId := none }
    | .consumeExchangeCodeIfMatches code expectedSessionId expected =>
      guarded code (some expectedSessionId) (checkMatch expected)
    | _ => .other
  returned
    | .consumeExchangeCode _, .code record => record
    | .consumeExchangeCodeIfMatches _ _ _, .code record => record
    | _, _ => none

variable {α : Type} (view : RecordView α)

/-- The test of a record that the code makes for a request. -/
def accepts (request : RecordRequest) (record : α) : Bool :=
  view.key record == request.key &&
    request.expectedSessionId.all (fun sessionId => view.sessionId record == some sessionId) &&
    matchesRecordBinding (view.fields record) request.expected

def onMap : ViewedCall α → RecordCall α
  | .other => .other
  | .create key record => .create key record
  | .read key => .read key
  | .consume request => .consume request.key (view.accepts request)

/-- The match and the session of a request are those of the record. -/
structure Fits (request : RecordRequest) (record : α) : Prop where
  binding : MatchesExactly (view.fields record) request.expected
  session : ∀ sessionId, request.expectedSessionId = some sessionId →
    view.sessionId record = some sessionId

/-- The record that a call returns as its consumer. -/
def taken (occurrence : Occurrence) : Option (Stored α) :=
  view.returned occurrence.call occurrence.answer

/-- Each call does to the map what its view says. -/
structure Faithful : Prop where
  start : view.map .new = ∅
  step : ∀ store call now, RecordStep view.fields (view.onMap (view.viewed call)) now store.made
    (store.perform call now).1.made (view.map store) (view.map (store.perform call now).1)
    (view.taken ⟨store, call, now⟩)
  keyed : ∀ call key record, view.viewed call = .create key record → view.key record = key
  admitted : ∀ call request, view.viewed call = .consume request → ValidMatch request.expected

/-- A view stores records under their keys and asks with admitted matches. -/
def Sound : ViewedCall α → Prop
  | .create key record => view.key record = key
  | .consume request => ValidMatch request.expected
  | _ => True

theorem sound_creation (key : String) (record : OneTimeFields → α)
    (keyed : ∀ fields, view.key (record fields) = key) (input : OneTimeFields) :
    view.Sound (creation key ((checkRecord input).map record)) := by
  cases checkRecord input with
  | error _ => trivial
  | ok fields => exact keyed fields

theorem sound_guarded (key : String) (expectedSessionId : Option String) (expected : Value) :
    view.Sound (guarded key expectedSessionId (checkMatch expected)) := by
  unfold guarded
  split
  · next admitted passed =>
    unfold checkMatch at passed
    split at passed
    · exact isBindingMatch_eq_some (Except.ok.inj passed)
    · contradiction
  · trivial

theorem validMatch_legacy : ValidMatch legacyMatch :=
  ⟨Or.inl rfl, Or.inl rfl⟩

variable {view}

/-- A call on other records. -/
theorem untouched {store after : MemoryOidcVaultStore} {now : Number}
    (same : view.map after = view.map store) (grows : store.made ≤ after.made) :
    RecordStep view.fields (view.onMap .other) now store.made after.made (view.map store)
      (view.map after) none := by
  rw [same]
  exact recordStep_other _ grows

/-- A call on sessions. -/
theorem untouched_sessions {store : MemoryOidcVaultStore} {call : Call} {now : Number}
    (other : view.viewed call = .other) (none : view.taken ⟨store, call, now⟩ = none)
    (same : view.map (store.perform call now).1 = view.map store)
    (grows : store.made ≤ (store.perform call now).1.made) :
    RecordStep view.fields (view.onMap (view.viewed call)) now store.made
      (store.perform call now).1.made (view.map store) (view.map (store.perform call now).1)
      (view.taken ⟨store, call, now⟩) := by
  rw [other, none]
  exact untouched same grows

theorem faithful_of (start : view.map .new = ∅) (sound : ∀ call, view.Sound (view.viewed call))
    (step : ∀ store call now, RecordStep view.fields (view.onMap (view.viewed call)) now
      store.made (store.perform call now).1.made (view.map store)
      (view.map (store.perform call now).1) (view.taken ⟨store, call, now⟩)) : view.Faithful where
  start := start
  step := step
  keyed call key record here := by
    have stored := sound call
    rwa [here] at stored
  admitted call request here := by
    have asked := sound call
    rwa [here] at asked

end RecordView

open RecordView

theorem accepts_transaction (request : RecordRequest) (none : request.expectedSessionId = none)
    (record : AuthorizationTransaction) :
    transactions.accepts request record = (record.state == request.key &&
      matchesRecordBinding record.toOneTimeFields request.expected) := by
  unfold accepts
  rw [none, Option.all_none, Bool.and_true]
  rfl

/-- The consuming operations past their checks, on the map of the transactions. -/
theorem consumeTransactionMatching_step (store : MemoryOidcVaultStore) (request : RecordRequest)
    (none : request.expectedSessionId = none) (now : Number) :
    RecordStep AuthorizationTransaction.toOneTimeFields
      (transactions.onMap (.consume request)) now store.made
      (store.consumeTransactionMatching request.key request.expected now).1.made
      store.authorizationTransactions
      (store.consumeTransactionMatching request.key request.expected now).1.authorizationTransactions
      (store.consumeTransactionMatching request.key request.expected now).2 := by
  have step : RecordStep AuthorizationTransaction.toOneTimeFields _ now _ _ _ _ _ :=
    recordStep_perform (transactions.onMap (.consume request)) store.authorizationTransactions
      store.authorizationTransactionSweep (Nat.le_refl store.made) fun _ _ same => by contradiction
  have same : transactions.accepts request = fun record => record.state == request.key &&
      matchesRecordBinding record.toOneTimeFields request.expected :=
    funext (accepts_transaction request none)
  rw [onMap, same] at step ⊢
  exact step

section Frames

variable {store : MemoryOidcVaultStore}

theorem createExchangeCode_transactions (input : ExchangeCodeRecord) (now : Number) :
    (store.createExchangeCode input now).1.authorizationTransactions =
      store.authorizationTransactions := by
  unfold createExchangeCode
  split <;> rfl

theorem consumeExchangeCode_transactions (code expectedSessionId : String) (expected : Value)
    (now : Number) :
    (store.consumeExchangeCodeIfMatches code expectedSessionId expected
      now).1.authorizationTransactions = store.authorizationTransactions := by
  unfold consumeExchangeCodeIfMatches
  split <;> rfl

theorem createAuthorizationTransaction_codes (input : AuthorizationTransaction) (now : Number) :
    (store.createAuthorizationTransaction input now).1.exchangeCodes = store.exchangeCodes := by
  unfold createAuthorizationTransaction
  split <;> rfl

theorem consumeAuthorizationTransaction_codes (state : String) (expected : Value)
    (now : Number) :
    (store.consumeAuthorizationTransactionIfMatches state expected now).1.exchangeCodes =
      store.exchangeCodes := by
  unfold consumeAuthorizationTransactionIfMatches
  split <;> rfl

end Frames

theorem transactions_sound (call : Call) : transactions.Sound (transactions.viewed call) := by
  cases call with
  | createAuthorizationTransaction input =>
    exact transactions.sound_creation input.state
      (fun fields => { input with toOneTimeFields := fields }) (fun _ => rfl) _
  | consumeAuthorizationTransaction state => exact validMatch_legacy
  | consumeAuthorizationTransactionIfMatches state expected =>
    exact transactions.sound_guarded state none expected
  | _ => trivial

theorem transactions_faithful : Faithful transactions := by
  refine faithful_of rfl transactions_sound fun store call now => ?_
  by_cases sessions : call.onSessions = true
  · have leaves := perform_leavesRecords store now sessions
    apply untouched_sessions _ _ leaves.records.transactions leaves.made
    · cases call <;> first | rfl | contradiction
    · cases call <;> first | rfl | contradiction
  · have grows := (perform_sameSessions store now (Bool.not_eq_true _ ▸ sessions)).made
    cases call with
    | createAuthorizationTransaction input =>
      have key : transactions.viewed (.createAuthorizationTransaction input) =
        creation input.state ((checkRecord input.toOneTimeFields).map fun fields =>
          { input with toOneTimeFields := fields }) := rfl
      show RecordStep _ _ now store.made
        (store.createAuthorizationTransaction input now).1.made
        store.authorizationTransactions
        (store.createAuthorizationTransaction input now).1.authorizationTransactions none
      unfold createAuthorizationTransaction
      rw [key]
      cases checkRecord input.toOneTimeFields with
      | error _ => exact recordStep_other _ (Nat.le_refl _)
      | ok fields =>
        exact recordStep_perform _ _ store.authorizationTransactionSweep (Nat.le_succ _)
          fun _ _ _ => Nat.lt_succ_self _
    | getAuthorizationTransaction state =>
      exact recordStep_perform (.read state) _ store.authorizationTransactionSweep
        (Nat.le_refl _) fun _ _ same => by contradiction
    | consumeAuthorizationTransaction state =>
      exact consumeTransactionMatching_step store ⟨state, legacyMatch, none⟩ rfl now
    | consumeAuthorizationTransactionIfMatches state expected =>
      have key : transactions.viewed (.consumeAuthorizationTransactionIfMatches state expected) =
        guarded state none (checkMatch expected) := rfl
      have answer : transactions.taken
          ⟨store, .consumeAuthorizationTransactionIfMatches state expected, now⟩ =
        transactions.returned (.consumeAuthorizationTransactionIfMatches state expected)
          (.ofExcept .transaction
            (store.consumeAuthorizationTransactionIfMatches state expected now).2) := rfl
      show RecordStep _ _ now store.made
        (store.consumeAuthorizationTransactionIfMatches state expected now).1.made
        store.authorizationTransactions
        (store.consumeAuthorizationTransactionIfMatches state expected
          now).1.authorizationTransactions _
      rw [key, answer]
      unfold consumeAuthorizationTransactionIfMatches
      rcases checkMatch expected with _ | _ | admitted
      · exact recordStep_other _ (Nat.le_refl _)
      · exact recordStep_other _ (Nat.le_refl _)
      · exact consumeTransactionMatching_step store ⟨state, admitted, none⟩ rfl now
    | createExchangeCode input => exact untouched (createExchangeCode_transactions input now) grows
    | getExchangeCode code | consumeExchangeCode code => exact untouched rfl grows
    | consumeExchangeCodeIfMatches code expectedSessionId expected =>
      exact untouched (consumeExchangeCode_transactions code expectedSessionId expected now) grows
    | _ => exact absurd rfl sessions

/-- The test of a code for a request, in the order of the source. -/
theorem accepts_exchangeCode (request : RecordRequest) :
    exchangeCodes.accepts request = fun record => record.code == request.key &&
      request.expectedSessionId.all (fun sessionId => record.sessionId == sessionId) &&
      matchesRecordBinding record.toOneTimeFields request.expected := by
  funext record
  have same : (fun sessionId => some record.sessionId == some sessionId) =
      fun sessionId => record.sessionId == sessionId := by
    funext sessionId
    exact Option.some_beq_some
  unfold accepts
  show (record.code == request.key && request.expectedSessionId.all
    (fun sessionId => some record.sessionId == some sessionId) && _) = _
  rw [same]
  rfl

/-- `consumeExchangeRecord` after the sweep, on the map of the codes. -/
theorem consumeExchangeRecord_step (store : MemoryOidcVaultStore) (request : RecordRequest)
    (now : Number) :
    RecordStep ExchangeCodeRecord.toOneTimeFields (exchangeCodes.onMap (.consume request)) now
      store.made store.made store.exchangeCodes
      ((store.pruneExchangeCodes now).consumeExchangeRecord request.key request.expected now
        request.expectedSessionId).1.exchangeCodes
      ((store.pruneExchangeCodes now).consumeExchangeRecord request.key request.expected now
        request.expectedSessionId).2 := by
  have step : RecordStep ExchangeCodeRecord.toOneTimeFields _ now _ _ _ _ _ :=
    recordStep_perform (exchangeCodes.onMap (.consume request)) store.exchangeCodes
      store.exchangeCodeSweep (Nat.le_refl store.made) fun _ _ same => by contradiction
  rw [onMap, accepts_exchangeCode] at step ⊢
  exact step

theorem exchangeCodes_sound (call : Call) : exchangeCodes.Sound (exchangeCodes.viewed call) := by
  cases call with
  | createExchangeCode input =>
    exact exchangeCodes.sound_creation input.code
      (fun fields => { input with toOneTimeFields := fields }) (fun _ => rfl) _
  | consumeExchangeCode code => exact validMatch_legacy
  | consumeExchangeCodeIfMatches code expectedSessionId expected =>
    exact exchangeCodes.sound_guarded code (some expectedSessionId) expected
  | _ => trivial

theorem exchangeCodes_faithful : Faithful exchangeCodes := by
  refine faithful_of rfl exchangeCodes_sound fun store call now => ?_
  by_cases sessions : call.onSessions = true
  · have leaves := perform_leavesRecords store now sessions
    apply untouched_sessions _ _ leaves.records.exchangeCodes leaves.made
    · cases call <;> first | rfl | contradiction
    · cases call <;> first | rfl | contradiction
  · have grows := (perform_sameSessions store now (Bool.not_eq_true _ ▸ sessions)).made
    cases call with
    | createExchangeCode input =>
      have key : exchangeCodes.viewed (.createExchangeCode input) =
        creation input.code ((checkRecord input.toOneTimeFields).map fun fields =>
          { input with toOneTimeFields := fields }) := rfl
      show RecordStep _ _ now store.made (store.createExchangeCode input now).1.made
        store.exchangeCodes (store.createExchangeCode input now).1.exchangeCodes none
      unfold createExchangeCode
      rw [key]
      cases checkRecord input.toOneTimeFields with
      | error _ => exact recordStep_other _ (Nat.le_refl _)
      | ok fields =>
        exact recordStep_perform _ _ store.exchangeCodeSweep (Nat.le_succ _)
          fun _ _ _ => Nat.lt_succ_self _
    | getExchangeCode code =>
      exact recordStep_perform (.read code) _ store.exchangeCodeSweep
        (Nat.le_refl _) fun _ _ same => by contradiction
    | consumeExchangeCode code =>
      exact consumeExchangeRecord_step store ⟨code, legacyMatch, none⟩ now
    | consumeExchangeCodeIfMatches code expectedSessionId expected =>
      have key : exchangeCodes.viewed
          (.consumeExchangeCodeIfMatches code expectedSessionId expected) =
        guarded code (some expectedSessionId) (checkMatch expected) := rfl
      have answer : exchangeCodes.taken
          ⟨store, .consumeExchangeCodeIfMatches code expectedSessionId expected, now⟩ =
        exchangeCodes.returned (.consumeExchangeCodeIfMatches code expectedSessionId expected)
          (.ofExcept .code
            (store.consumeExchangeCodeIfMatches code expectedSessionId expected now).2) := rfl
      show RecordStep _ _ now store.made
        (store.consumeExchangeCodeIfMatches code expectedSessionId expected now).1.made
        store.exchangeCodes
        (store.consumeExchangeCodeIfMatches code expectedSessionId expected
          now).1.exchangeCodes _
      rw [key, answer]
      unfold consumeExchangeCodeIfMatches
      rcases checkMatch expected with _ | _ | admitted
      · exact recordStep_other _ (Nat.le_refl _)
      · exact recordStep_other _ (Nat.le_refl _)
      · exact consumeExchangeRecord_step store ⟨code, admitted, some expectedSessionId⟩ now
    | createAuthorizationTransaction input =>
      exact untouched (createAuthorizationTransaction_codes input now) grows
    | getAuthorizationTransaction state => exact untouched rfl grows
    | consumeAuthorizationTransaction state =>
      exact untouched (consumeAuthorizationTransaction_codes state
        (.object [("deviceBinding", .null), ("browserBindingHash", .null)]) now) grows
    | consumeAuthorizationTransactionIfMatches state expected =>
      exact untouched (consumeAuthorizationTransaction_codes state expected now) grows
    | _ => exact absurd rfl sessions

end WebTsToolkit.OidcVaultMemory
