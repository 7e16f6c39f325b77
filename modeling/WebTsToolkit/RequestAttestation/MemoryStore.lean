import Mathlib.Data.List.AList
import WebTsToolkit.Js.Text
import WebTsToolkit.Library.BoundedLedger
import WebTsToolkit.Library.IndexedHeap
import WebTsToolkit.RequestAttestation.TimePolicy

set_option autoImplicit false

namespace WebTsToolkit.RequestAttestation

open Js Library

def minReplayKeyBytes : Nat := 1
def maxReplayKeyBytes : Nat := 256

/-- Opaque replay keys are printable ASCII. -/
def validateReplayKey (replayKey : String) : Except AttestationProtocolError Unit :=
  let length := utf16Length replayKey
  if length < minReplayKeyBytes ∨ maxReplayKeyBytes < length then
    .error (protocolError "replayKey must be 1-256 characters")
  else if replayKey.toList.any fun c => c.toNat < 0x20 || 0x7e < c.toNat then
    .error (protocolError "replayKey must be printable ASCII")
  else .ok ()

/-- A reservation is an object with an identity, the how manieth that its store made. Its mutable
`index` is its position in the heap. -/
structure Reservation where
  identity : Nat
  replayKey : String
  retainUntilMs : Int
  deriving DecidableEq, Repr

/-- `maxEntries` is a positive safe integer. -/
structure MemoryAttestationStore where
  reservations : AList fun _ : String => Reservation
  expiryHeap : IndexedHeap Reservation
  maxEntries : Nat
  made : Nat

inductive ReserveResult where
  | reserved
  | duplicate
  | expired
  deriving DecidableEq, Repr

inductive ReserveError where
  | protocol (error : AttestationProtocolError)
  | capacity
  deriving DecidableEq, Repr

/-- The most expired entries that one admission removes besides its own key. -/
def expirySweepBatchSize : Nat := 64

def memoryStoreDefaultMaxEntries : Nat := 50000

/-- A call of `reserve` with a valid key and deadline, at a valid time of the store's clock. -/
structure ReserveCall where
  replayKey : String
  retainUntilMs : Int
  nowMs : Int
  keyValid : validateReplayKey replayKey = .ok ()
  deadlineValid : assertTimestampMs "retainUntilMs" retainUntilMs = .ok ()
  clockValid : (isSafeInteger nowMs && decide (0 ≤ nowMs)) = true

namespace ReserveCall

def request (call : ReserveCall) : Ledger.Request String Int where
  now := call.nowMs
  key := call.replayKey
  deadline := call.retainUntilMs

end ReserveCall

/-- Beyond the global retention cap. -/
def overlong (nowMs retainUntilMs : Int) : Bool :=
  globalMaxRetentionMs < retainUntilMs - nowMs

/-- The outcome that an answer stands for. -/
def outcome : Except ReserveError ReserveResult → Ledger.Outcome
  | .ok .reserved => .reserved
  | .ok .duplicate => .duplicate
  | .ok .expired => .expired
  | .error .capacity => .capacity
  | .error (.protocol _) => .rejected

/-- Why a store that others share does not answer. -/
inductive StoreError where
  | reserve (error : ReserveError)
  | unavailable (message : String)
  deriving DecidableEq, Repr

def sharedOutcome : Except StoreError ReserveResult → Option Ledger.Outcome
  | .ok result => some (outcome (.ok result))
  | .error (.reserve error) => some (outcome (.error error))
  | .error (.unavailable _) => none

namespace MemoryAttestationStore

def new (maxEntries : Option Int) : Except AttestationProtocolError MemoryAttestationStore :=
  let maxEntries := maxEntries.getD memoryStoreDefaultMaxEntries
  if isSafeInteger maxEntries && 0 < maxEntries then
    .ok { reservations := ∅, expiryHeap := .empty, maxEntries := maxEntries.toNat, made := 0 }
  else
    .error (protocolError "memory attestation store maxEntries must be a positive safe integer")

def remove (store : MemoryAttestationStore) (index : Nat) : MemoryAttestationStore :=
  match store.expiryHeap.slots[index]? with
  | none => store
  | some removed =>
    { store with
      reservations := store.reservations.erase removed.replayKey
      expiryHeap := store.expiryHeap.removeAt Reservation.retainUntilMs index }

/-- Removes expired entries from the top of the heap, up to a number of them. -/
def sweep (nowMs : Int) : Nat → MemoryAttestationStore → MemoryAttestationStore
  | 0, store => store
  | left + 1, store =>
    match store.expiryHeap.slots[0]? with
    | none => store
    | some first =>
      if first.retainUntilMs ≤ nowMs then sweep nowMs left (store.remove 0) else store

/-- A new reservation under a key that has none. -/
def insert (store : MemoryAttestationStore) (replayKey : String) (retainUntilMs : Int) :
    MemoryAttestationStore :=
  let reservation : Reservation := { identity := store.made, replayKey, retainUntilMs }
  { store with
    reservations := store.reservations.insert replayKey reservation
    expiryHeap := store.expiryHeap.push Reservation.retainUntilMs reservation
    made := store.made + 1 }

/-- The removals before an insertion: an expired entry of the same key, then a sweep. -/
def reclaim (store : MemoryAttestationStore) (replayKey : String) (nowMs : Int) :
    MemoryAttestationStore :=
  let cleared := match store.reservations.lookup replayKey with
    | some existing => store.remove (store.expiryHeap.position existing)
    | none => store
  cleared.sweep nowMs expirySweepBatchSize

/-- Whether a key has a live entry. -/
def live (store : MemoryAttestationStore) (replayKey : String) (nowMs : Int) : Bool :=
  ((store.reservations.lookup replayKey).map fun existing =>
    decide (nowMs < existing.retainUntilMs)).getD false

/-- `reserve` from the duplicate check on. What an admission without capacity removes stays
removed. -/
def reserveChecked (store : MemoryAttestationStore) (replayKey : String) (retainUntilMs nowMs : Int) :
    MemoryAttestationStore × Except ReserveError ReserveResult :=
  if store.live replayKey nowMs then (store, .ok .duplicate)
  else
    let reclaimed := store.reclaim replayKey nowMs
    if reclaimed.maxEntries ≤ reclaimed.reservations.entries.length then
      (reclaimed, .error .capacity)
    else (reclaimed.insert replayKey retainUntilMs, .ok .reserved)

/-- The checks of `reserve` before it looks at the store; none when the deadline is over. -/
def checkInput (replayKey : String) (retainUntilMs : Option Int) (nowMs : Int) :
    Except AttestationProtocolError (Option Int) := do
  if !(isSafeInteger nowMs && 0 ≤ nowMs) then
    .error (protocolError "attestation store clock must return a non-negative safe integer")
  else do
    validateReplayKey replayKey
    match retainUntilMs with
    | none => .error (protocolError "retainUntilMs must be a non-negative safe integer")
    | some retainUntilMs => do
      assertTimestampMs "retainUntilMs" retainUntilMs
      if retainUntilMs ≤ nowMs then .ok none
      else if globalMaxRetentionMs < retainUntilMs - nowMs then
        .error (protocolError "retainUntilMs exceeds the 240000 ms global retention cap")
      else .ok (some retainUntilMs)

/-- `MemoryAttestationStore.reserve`, at the time of the store's clock. It waits for nothing, so
it is one step. -/
def reserve (store : MemoryAttestationStore) (replayKey : String)
    (retainUntilMs retainUntil : Option Int) (nowMs : Int) :
    MemoryAttestationStore × Except ReserveError ReserveResult :=
  match checkInput replayKey (retainUntilMs.or retainUntil) nowMs with
  | .error error => (store, .error (.protocol error))
  | .ok none => (store, .ok .expired)
  | .ok (some retainUntilMs) => store.reserveChecked replayKey retainUntilMs nowMs

/-- The checks of a valid call. -/
theorem checkInput_call (call : ReserveCall) :
    checkInput call.replayKey (some call.retainUntilMs) call.nowMs =
      if call.retainUntilMs ≤ call.nowMs then .ok none
      else if overlong call.nowMs call.retainUntilMs then
        .error (protocolError "retainUntilMs exceeds the 240000 ms global retention cap")
      else .ok (some call.retainUntilMs) := by
  unfold checkInput
  rw [call.clockValid, call.keyValid]
  simp only [Bool.not_true, Bool.false_eq_true, if_false]
  show (assertTimestampMs "retainUntilMs" call.retainUntilMs >>= _) = _
  rw [call.deadlineValid, overlong]
  simp only [decide_eq_true_eq]
  rfl

end MemoryAttestationStore

end WebTsToolkit.RequestAttestation
