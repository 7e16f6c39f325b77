import WebTsToolkit.Library.HeapTable
import WebTsToolkit.RequestAttestation.MemoryStore

set_option autoImplicit false

namespace WebTsToolkit.RequestAttestation.MemoryAttestationStore

open Library Library.Ledger

/-- The map and the heap. -/
def table (store : MemoryAttestationStore) : HeapTable String Reservation where
  rows := store.reservations
  heap := store.expiryHeap

/-- What the map says: the deadline of each key. -/
def ledger (store : MemoryAttestationStore) : Ledger String Int :=
  ofRows Reservation.retainUntilMs store.reservations

/-- The map and the heap hold the same reservations, at most as many as the store may hold. -/
structure Coherent (store : MemoryAttestationStore) : Prop where
  sound : store.table.Sound Reservation.replayKey Reservation.retainUntilMs
  within : store.table.size ≤ store.maxEntries

variable {store : MemoryAttestationStore}

def withTable (store : MemoryAttestationStore) (table : HeapTable String Reservation) :
    MemoryAttestationStore :=
  { store with reservations := table.rows, expiryHeap := table.heap }

theorem remove_eq (store : MemoryAttestationStore) (index : Nat) :
    store.remove index = store.withTable
      (store.table.remove Reservation.replayKey Reservation.retainUntilMs index) := by
  rw [MemoryAttestationStore.remove, HeapTable.remove]
  have same : store.table.heap.slots[index]? = store.expiryHeap.slots[index]? := rfl
  rw [same]
  cases store.expiryHeap.slots[index]? with
  | none | some removed => rfl

theorem sweep_eq (nowMs : Int) (left : Nat) : ∀ store : MemoryAttestationStore,
    store.sweep nowMs left = store.withTable
      (store.table.sweep Reservation.replayKey Reservation.retainUntilMs nowMs left) := by
  induction left with
  | zero =>
    intro store
    rfl
  | succ left ih =>
    intro store
    rw [MemoryAttestationStore.sweep, HeapTable.sweep]
    have same : store.table.heap.slots[0]? = store.expiryHeap.slots[0]? := rfl
    rw [same]
    cases store.expiryHeap.slots[0]? with
    | none => rfl
    | some first =>
      by_cases past : first.retainUntilMs ≤ nowMs
      · simp only [if_pos past]
        rw [ih, remove_eq]
        rfl
      · simp only [if_neg past]
        rfl

theorem reclaim_eq (store : MemoryAttestationStore) (replayKey : String) (nowMs : Int) :
    store.reclaim replayKey nowMs = store.withTable
      (store.table.reclaim Reservation.replayKey Reservation.retainUntilMs replayKey nowMs
        expirySweepBatchSize) := by
  rw [MemoryAttestationStore.reclaim, HeapTable.reclaim]
  have same : store.table.rows.lookup replayKey = store.reservations.lookup replayKey := rfl
  rw [same]
  cases store.reservations.lookup replayKey with
  | none => exact sweep_eq nowMs expirySweepBatchSize store
  | some existing =>
    simp only
    rw [sweep_eq, remove_eq]
    rfl

/-- The reservation that an insertion makes. -/
def added (store : MemoryAttestationStore) (replayKey : String) (retainUntilMs : Int) :
    Reservation :=
  { identity := store.made, replayKey, retainUntilMs }

/-- An admission is a reservation in the table. -/
theorem reserveChecked_eq (store : MemoryAttestationStore) (replayKey : String)
    {nowMs deadline : Int} (ahead : nowMs < deadline) (near : overlong nowMs deadline = false) :
    ((store.reserveChecked replayKey deadline nowMs).1.table,
        outcome (store.reserveChecked replayKey deadline nowMs).2) =
      store.table.reserve Reservation.replayKey Reservation.retainUntilMs overlong
        store.maxEntries expirySweepBatchSize nowMs (store.added replayKey deadline) := by
  rw [MemoryAttestationStore.reserveChecked, HeapTable.reserve]
  have later : ¬(store.added replayKey deadline).retainUntilMs ≤ nowMs := by
    show ¬deadline ≤ nowMs
    omega
  have within : ¬overlong nowMs (store.added replayKey deadline).retainUntilMs = true := by
    show ¬overlong nowMs deadline = true
    rw [near]
    exact Bool.false_ne_true
  rw [if_neg later, if_neg within]
  show _ = if store.live replayKey nowMs = true then _ else _
  by_cases listed : store.live replayKey nowMs = true
  · rw [if_pos listed, if_pos listed]
    rfl
  · rw [if_neg listed, if_neg listed, reclaim_eq]
    have key : (store.added replayKey deadline).replayKey = replayKey := rfl
    have size (table : HeapTable String Reservation) :
        (store.withTable table).reservations.entries.length = table.size := rfl
    have limit (table : HeapTable String Reservation) :
        (store.withTable table).maxEntries = store.maxEntries := rfl
    simp only [key, size, limit]
    split <;> rfl

theorem reserveChecked_maxEntries (replayKey : String) (nowMs deadline : Int) :
    (store.reserveChecked replayKey deadline nowMs).1.maxEntries = store.maxEntries := by
  rw [MemoryAttestationStore.reserveChecked]
  split
  · rfl
  · rw [reclaim_eq]
    simp only
    split <;> rfl

theorem Coherent.reserveChecked (coherent : Coherent store) {request : Request String Int}
    (ahead : request.now < request.deadline)
    (near : overlong request.now request.deadline = false) :
    Coherent (store.reserveChecked request.key request.deadline request.now).1 ∧
      (store.reserveChecked request.key request.deadline request.now).1.ledger.prune request.now =
        (store.ledger.reserve store.maxEntries overlong request).1 ∧
      outcome (store.reserveChecked request.key request.deadline request.now).2 =
        (store.ledger.reserve store.maxEntries overlong request).2 := by
  have same := reserveChecked_eq store request.key ahead near
  obtain ⟨sound, within, ledger, answer⟩ := coherent.sound.reserve overlong coherent.within
    (show 0 < expirySweepBatchSize by decide) request.now
    (store.added request.key request.deadline)
  rw [← same] at sound within ledger answer
  refine ⟨⟨sound, ?_⟩, ledger, answer⟩
  rw [reserveChecked_maxEntries]
  exact within

theorem checkInput_some {replayKey : String} {retainUntilMs : Option Int} {nowMs deadline : Int}
    (passed : checkInput replayKey retainUntilMs nowMs = .ok (some deadline)) :
    retainUntilMs = some deadline ∧ nowMs < deadline ∧ overlong nowMs deadline = false := by
  unfold checkInput at passed
  split at passed
  · contradiction
  · obtain ⟨_, _, passed⟩ := bind_eq_ok passed
    cases given : retainUntilMs with
    | none =>
      rw [given] at passed
      contradiction
    | some retainUntilMs =>
      rw [given] at passed
      obtain ⟨_, _, passed⟩ := bind_eq_ok passed
      split at passed
      · cases passed
      · next ahead =>
        split at passed
        · contradiction
        · next near =>
          rw [← Option.some.inj (Except.ok.inj passed)]
          exact ⟨rfl, by omega, decide_eq_false near⟩

/-- What one call of `reserve` does to the ledger: nothing live is lost, and a deadline is
recorded only under a key without a live entry. -/
theorem Coherent.reserve (coherent : Coherent store) (replayKey : String)
    (retainUntilMs retainUntil : Option Int) (nowMs : Int) :
    Coherent (store.reserve replayKey retainUntilMs retainUntil nowMs).1 ∧
      KeepsLive nowMs store.ledger
        (store.reserve replayKey retainUntilMs retainUntil nowMs).1.ledger ∧
      ((store.reserve replayKey retainUntilMs retainUntil nowMs).2 = .ok .reserved →
        ∃ deadline, retainUntilMs.or retainUntil = some deadline ∧
          Reserves nowMs replayKey deadline store.ledger
            (store.reserve replayKey retainUntilMs retainUntil nowMs).1.ledger) := by
  rw [MemoryAttestationStore.reserve]
  split
  · refine ⟨coherent, fun _ _ found _ => found, ?_⟩
    intro reserved
    cases reserved
  · refine ⟨coherent, fun _ _ found _ => found, ?_⟩
    intro reserved
    cases reserved
  · next deadline passed =>
    obtain ⟨given, ahead, near⟩ := checkInput_some passed
    let request : Request String Int := { now := nowMs, key := replayKey, deadline }
    obtain ⟨after, updated, answer⟩ := coherent.reserveChecked (show request.now < _ from ahead) near
    refine ⟨after, keepsLive_of_prune updated, ?_⟩
    intro reserved
    rw [reserved] at answer
    exact ⟨deadline, given, reserves_of_prune updated answer.symm⟩

theorem coherent_new {maxEntries : Option Int} {store : MemoryAttestationStore}
    (made : new maxEntries = .ok store) : Coherent store := by
  rw [new] at made
  split at made
  · rw [← Except.ok.inj made]
    constructor
    · exact HeapTable.Sound.empty
    · exact Nat.zero_le _
  · contradiction

/-- One valid call, with the store's answer. -/
def perform (store : MemoryAttestationStore) (call : ReserveCall) :
    MemoryAttestationStore × Except ReserveError ReserveResult :=
  store.reserve call.replayKey (some call.retainUntilMs) none call.nowMs

theorem Coherent.perform (coherent : Coherent store) (call : ReserveCall) :
    Coherent (store.perform call).1 ∧
      (store.perform call).1.maxEntries = store.maxEntries ∧
      (store.perform call).1.ledger.prune call.nowMs =
        (store.ledger.reserve store.maxEntries overlong call.request).1 ∧
      outcome (store.perform call).2 =
        (store.ledger.reserve store.maxEntries overlong call.request).2 := by
  rw [MemoryAttestationStore.perform, MemoryAttestationStore.reserve, Option.some_or,
    checkInput_call]
  by_cases past : call.retainUntilMs ≤ call.nowMs
  · rw [if_pos past, reserve_of_past past]
    exact ⟨coherent, rfl, rfl, rfl⟩
  · rw [if_neg past]
    by_cases far : overlong call.nowMs call.retainUntilMs = true
    · rw [if_pos far, reserve_of_far past far]
      exact ⟨coherent, rfl, rfl, rfl⟩
    · rw [if_neg far]
      have near : overlong call.nowMs call.retainUntilMs = false := Bool.eq_false_iff.mpr far
      obtain ⟨after, updated, answer⟩ :=
        coherent.reserveChecked (show call.request.now < _ from not_le.mp past) near
      exact ⟨after, reserveChecked_maxEntries _ _ _, updated, answer⟩

/-- A memory store is a ledger of at most its number of live keys. -/
theorem implements_ledger (maxEntries : Nat) :
    Implements maxEntries overlong ReserveCall.request MemoryAttestationStore.perform ledger
      (fun answer => some (outcome answer))
      (fun _ store => Coherent store ∧ store.maxEntries = maxEntries) where
  fits := by
    intro _ store call fit
    have after := fit.1.perform call
    exact ⟨after.1, after.2.1.trans fit.2⟩
  answers := by
    intro _ store call fit
    have after := fit.1.perform call
    rw [after.2.2.2, fit.2]
  updates := by
    intro _ store call fit
    have after := fit.1.perform call
    rw [← fit.2]
    exact after.2.2.1

end WebTsToolkit.RequestAttestation.MemoryAttestationStore
