import WebTsToolkit.OidcVaultMemory.OneTimeSafety

set_option autoImplicit false

namespace WebTsToolkit.OidcVaultMemory

open Js Library OidcVault MemoryOidcVaultStore

namespace RecordView

variable {α : Type} {view : RecordView α}

/-- Records are stored under their own keys. -/
def Keyed (view : RecordView α) (store : MemoryOidcVaultStore) : Prop :=
  ∀ key record, (view.map store).lookup key = some record → view.key record.fields = key

variable {key : String} {record : Stored α} {now : Number}

theorem onMap_eq_consume {viewed : ViewedCall α} {test : α → Bool}
    (same : view.onMap viewed = .consume key test) :
    ∃ request, viewed = .consume request ∧ request.key = key ∧ view.accepts request = test := by
  cases viewed with
  | consume request =>
    obtain ⟨here, there⟩ := RecordCall.consume.inj same
    exact ⟨request, rfl, here, there⟩
  | _ => contradiction

theorem onMap_eq_create {viewed : ViewedCall α} {record : α}
    (same : view.onMap viewed = .create key record) : viewed = .create key record := by
  cases viewed with
  | create place stored =>
    obtain ⟨rfl, rfl⟩ := RecordCall.create.inj same
    rfl
  | _ => contradiction

/-- The code accepts the records that fit, of those that are readable. -/
theorem accepts_iff {request : RecordRequest} (valid : readable view.fields record now = true)
    (admitted : ValidMatch request.expected) :
    view.accepts request record.fields = true ↔
      view.key record.fields = request.key ∧ view.Fits request record.fields := by
  have bound : hasValidRecordBinding (view.fields record.fields) = true := by
    rw [readable, Bool.and_eq_true] at valid
    exact valid.2
  unfold accepts
  rw [Bool.and_eq_true, Bool.and_eq_true, beq_iff_eq, matchesRecordBinding_iff bound admitted,
    Option.all_eq_true, and_assoc, and_congr_right_iff]
  intro _
  constructor
  · rintro ⟨session, binding⟩
    exact ⟨binding, fun sessionId asked => beq_iff_eq.mp (session sessionId asked)⟩
  · intro fits
    exact ⟨fun sessionId asked => beq_iff_eq.mpr (fits.session sessionId asked), fits.binding⟩

/-- Why a record was returned: a call asked for it by its key, before its expiry, with its binding
and with its session where it named one. -/
structure Justified (view : RecordView α) (occurrence : Occurrence) (record : Stored α) :
    Prop where
  requested : ∃ request, view.viewed occurrence.call = .consume request ∧
    (view.map occurrence.before).lookup request.key = some record ∧
    view.Fits request record.fields
  unexpired : isExpiredRecord (some (view.fields record.fields).expiresAt) occurrence.now = false

theorem Faithful.justified (faithful : view.Faithful) {occurrence : Occurrence}
    (taken : view.taken occurrence = some record) : view.Justified occurrence record := by
  have effect := (faithful.step occurrence.before occurrence.call occurrence.now).effect
  have answer : view.taken { occurrence with } = some record :=
    taken
  rw [answer] at effect
  generalize view.map (occurrence.before.perform occurrence.call occurrence.now).1 = after
    at effect
  cases effect with
  | consumed less key test _ here keeps found valid accepted =>
    obtain ⟨request, viewed, rfl, rfl⟩ := onMap_eq_consume here
    have admitted := faithful.admitted occurrence.call request viewed
    have fits := (accepts_iff valid admitted).mp accepted
    refine ⟨⟨request, viewed, found, fits.2⟩, ?_⟩
    rw [readable, Bool.and_eq_true, Bool.and_eq_true, Bool.not_eq_true'] at valid
    exact valid.1.2

theorem Faithful.keyed_perform (faithful : view.Faithful) {store : MemoryOidcVaultStore}
    (keyed : view.Keyed store) (call : Call) (now : Number) :
    view.Keyed (store.perform call now).1 := by
  have effect := (faithful.step store call now).effect
  unfold Keyed
  revert effect
  generalize view.map (store.perform call now).1 = after
  generalize view.taken ⟨store, call, now⟩ = answer
  intro effect key record found
  cases effect with
  | kept _ keeps _ => exact keyed key record (keeps.sub key record found)
  | created less place stored here keeps =>
    rw [Map.lookup_set] at found
    split at found
    · next same =>
      rw [← Option.some.inj found, same]
      exact faithful.keyed call place stored (onMap_eq_create here)
    · exact keyed key record (keeps.sub key record found)
  | consumed less place test other here keeps listed valid accepted =>
    rw [Rows.lookup_erase] at found
    split at found
    · contradiction
    · exact keyed key record (keeps.sub key record found)

/-- What holds of the records in every state of a run. -/
structure Accounted (view : RecordView α) (run : StoreRun) : Prop where
  tracked : ∃ known, Tracked Stored.identity ((view.map run.store).lookup ·) run.store.made known
    ((run.past.filterMap view.taken).map Stored.identity)
  keyed : view.Keyed run.store

theorem Faithful.accounted_start (faithful : view.Faithful) :
    view.Accounted storeRuns.start := by
  have empty : view.map storeRuns.start.store = ∅ := faithful.start
  refine ⟨⟨fun _ => False, ?_⟩, fun key record found => ?_⟩
  · rw [empty]
    exact tracked_empty Stored.identity
  · rw [empty] at found
    contradiction

theorem Faithful.accounted_step (faithful : view.Faithful) {run after : StoreRun} {call : Call}
    (accounted : view.Accounted run) (happened : storeRuns.step run (call, now) = some after) :
    view.Accounted after := by
  have happens := storeRuns_step happened
  obtain ⟨known, tracked⟩ := accounted.tracked
  have step := faithful.step run.store call now
  refine ⟨?_, ?_⟩
  · obtain ⟨known', next⟩ := step.tracked tracked
    refine ⟨known', ?_⟩
    rw [happens.store, happens.past]
    cases answer : view.taken ⟨run.store, call, now⟩ with
    | none =>
      rw [List.filterMap_cons_none answer]
      rw [answer] at next
      exact next
    | some record =>
      rw [List.filterMap_cons_some answer]
      rw [answer] at next
      exact next
  · rw [happens.store]
    exact faithful.keyed_perform accounted.keyed call now

theorem Faithful.accounted (faithful : view.Faithful) {run : StoreRun}
    (reached : storeRuns.Reachable run) : view.Accounted run :=
  reached.invariant faithful.accounted_start
    fun _ _ _ accounted happened => faithful.accounted_step accounted happened

theorem readable_mono {now later : Number} (ordered : now.le later = true)
    (valid : readable view.fields record later = true) :
    readable view.fields record now = true := by
  unfold readable at valid ⊢
  rw [Bool.and_eq_true, Bool.and_eq_true, Bool.not_eq_true'] at valid ⊢
  refine ⟨⟨valid.1.1, ?_⟩, valid.2⟩
  by_contra expired
  rw [Bool.not_eq_false] at expired
  have dead := isExpiredRecord_mono ordered expired
  have alive := valid.1.2
  rw [isExpiredOneTime, dead] at alive
  contradiction

/-- A call that neither stores a record under the key nor asks for the record in a way that
fits. -/
def Spares (view : RecordView α) (key : String) (record : Stored α) (call : Call) : Prop :=
  (∀ other, view.viewed call ≠ .create key other) ∧
    ∀ request, view.viewed call = .consume request → request.key = key →
      ¬view.Fits request record.fields

theorem Faithful.stays (faithful : view.Faithful) {store : MemoryOidcVaultStore} {call : Call}
    (found : (view.map store).lookup key = some record)
    (valid : readable view.fields record now = true) (spares : view.Spares key record call) :
    (view.map (store.perform call now).1).lookup key = some record := by
  apply (faithful.step store call now).stays found valid
  · intro other here
    exact spares.1 other (onMap_eq_create here)
  · intro test here
    obtain ⟨request, viewed, rfl, rfl⟩ := onMap_eq_consume here
    by_contra accepted
    rw [Bool.not_eq_false] at accepted
    have fits := (accepts_iff valid (faithful.admitted call request viewed)).mp accepted
    exact spares.2 request viewed rfl fits.2

/-- Over a run of calls that spare it, a record stays until it expires. -/
theorem Faithful.stays_run (faithful : view.Faithful)
    (valid : readable view.fields record now = true) {events : List (Call × Number)}
    {run later : StoreRun} (found : (view.map run.store).lookup key = some record)
    (happened : events.foldlM storeRuns.step run = some later)
    (spares : ∀ event ∈ events, view.Spares key record event.1)
    (before : later.clock.le now = true) : (view.map later.store).lookup key = some record := by
  induction events generalizing run with
  | nil => exact Option.some.inj happened ▸ found
  | cons event events ih =>
    rw [List.foldlM_cons] at happened
    obtain ⟨middle, first, rest⟩ := Option.bind_eq_some_iff.mp happened
    have happens := storeRuns_step first
    have proper := Number.le_refl_of_le happens.forward_clock
    have ordered : middle.clock.le now = true :=
      Number.le_trans (clock_le_of_run proper rest) before
    -- so this call reads the clock before the record expires
    have reading : event.2.le now = true := by
      rw [happens.clock] at ordered
      exact Number.le_trans happens.reads ordered
    have kept : (view.map middle.store).lookup key = some record := by
      rw [happens.store]
      exact faithful.stays found (readable_mono reading valid)
        (spares event List.mem_cons_self)
    exact ih kept rest fun event member => spares event (List.mem_cons_of_mem _ member)

/-- The records of a map are consumed once, for good reason, and not lost before. -/
structure ConsumedOnce (view : RecordView α) (run : StoreRun) : Prop where
  once : ((run.past.filterMap view.taken).map Stored.identity).Nodup
  justified : ∀ occurrence ∈ run.past, ∀ record, view.taken occurrence = some record →
    view.Justified occurrence record
  consumable : ∀ key record (events : List (Call × Number)) (later : StoreRun),
    (view.map run.store).lookup key = some record →
    events.foldlM storeRuns.step run = some later →
    (∀ event ∈ events, view.Spares key record event.1) →
    ∀ call request now, later.clock.le now = true →
      readable view.fields record now = true → view.viewed call = .consume request →
      request.key = key → view.Fits request record.fields →
      view.taken ⟨later.store, call, now⟩ = some record

theorem Faithful.consumedOnce (faithful : view.Faithful) {run : StoreRun}
    (reached : storeRuns.Reachable run) : view.ConsumedOnce run := by
  obtain ⟨_, tracked⟩ := (faithful.accounted reached).tracked
  refine ⟨tracked.distinct, fun occurrence _ record taken => faithful.justified taken, ?_⟩
  intro key record events later found happened spares call request now before valid viewed here
    fits
  have kept := faithful.stays_run valid found happened spares before
  have keyed := (faithful.accounted (reached.steps happened)).keyed key record kept
  have accepted := (accepts_iff valid (faithful.admitted call request viewed)).mpr
    ⟨keyed.trans here.symm, fits⟩
  have asked : view.onMap (view.viewed call) = .consume key (view.accepts request) := by
    rw [viewed, onMap, here]
  exact (faithful.step later.store call now).takes asked kept valid accepted

end RecordView

/-- In every state that calls in any order can reach, each authorization transaction and each
exchange code that was created has been returned by at most one consuming call, only to one that
asked for it before its expiry with its own binding; and a record that no such call has asked for
is there for the next one that does. -/
theorem records_consumed_once {run : StoreRun} (reached : storeRuns.Reachable run) :
    RecordView.transactions.ConsumedOnce run ∧ RecordView.exchangeCodes.ConsumedOnce run :=
  ⟨transactions_faithful.consumedOnce reached, exchangeCodes_faithful.consumedOnce reached⟩

/-- A transaction with no binding. -/
def plainTransaction : AuthorizationTransaction where
  deviceBinding := .undefined
  browserBindingHash := .undefined
  createdAt := .finite 0
  expiresAt := .finite 100
  rest := []
  state := "state"
  nonce := "nonce"
  pkceVerifier := "verifier"
  codeChallenge := "challenge"

/-- A transaction is created, consumed, and asked for again. -/
def consumeTwice : List (Call × Number) :=
  [(.createAuthorizationTransaction plainTransaction, .finite 1),
    (.consumeAuthorizationTransaction "state", .finite 2),
    (.consumeAuthorizationTransaction "state", .finite 3)]

def consumedTwice : StoreRun :=
  (storeRuns.run consumeTwice).getD storeRuns.start

theorem consumedTwice_reachable : storeRuns.Reachable consumedTwice := by
  have ran : (storeRuns.run consumeTwice).isSome = true := by decide +kernel
  obtain ⟨run, same⟩ := Option.isSome_iff_exists.mp ran
  rw [consumedTwice, same]
  exact TransitionSystem.Reachable.of_run same

theorem records_consumed_once_consumedTwice :
    (consumedTwice.past.filterMap RecordView.transactions.taken).map Stored.identity = [0] ∧
      RecordView.transactions.ConsumedOnce consumedTwice :=
  ⟨by decide +kernel, (records_consumed_once consumedTwice_reachable).1⟩

end WebTsToolkit.OidcVaultMemory
