import WebTsToolkit.Library.Rows
import WebTsToolkit.RequestAttestation.MemoryStore

set_option autoImplicit false

namespace WebTsToolkit.RequestAttestation

open Js Library

structure ProofDocument where
  id : String
  retainUntilMs : Int
  deriving DecidableEq, Repr

inductive CapacityKind where
  | capacity
  | reservation
  deriving DecidableEq, Repr

/-- A row of the capacity collection: the accounting row, or a reservation. -/
structure CapacityDocument where
  id : String
  kind : CapacityKind
  entries : Option Int
  revision : Option Int
  maxEntries : Option Int
  proofsCollectionName : Option String
  replayKey : Option String
  retainUntilMs : Option Int
  deriving DecidableEq, Repr

/-- The two collections of a store, by `_id`. -/
structure MongoCollections where
  proofs : AList fun _ : String => ProofDocument
  capacity : AList fun _ : String => CapacityDocument

def capacityId : String := "capacity"

def reservationId (replayKey : String) : String := "proof:" ++ replayKey

/-- The most expired rows that one admission reclaims besides the requested key. -/
def mongoSweepBatchSize : Nat := 64

/-- `maxEntries` is a positive safe integer. -/
structure MongoAttestationStore where
  maxEntries : Nat
  positive : 0 < maxEntries
  safe : isSafeInteger maxEntries = true
  proofsCollectionName : String

/-- How a sorted find orders rows; rows of one deadline come in any order. -/
structure FindOrder where
  sort : List CapacityDocument → List CapacityDocument
  perm : ∀ rows, (sort rows).Perm rows
  sorted : ∀ rows, (sort rows).Pairwise fun left right =>
    left.retainUntilMs.getD 0 ≤ right.retainUntilMs.getD 0

/-- Whether a row may come before another one. -/
def endsBefore (left right : CapacityDocument) : Bool :=
  left.retainUntilMs.getD 0 ≤ right.retainUntilMs.getD 0

/-- Rows of one deadline as they come. -/
def FindOrder.stable : FindOrder where
  sort := fun rows => rows.mergeSort endsBefore
  perm := fun rows => List.mergeSort_perm rows endsBefore
  sorted := by
    intro rows
    have ordered : (rows.mergeSort endsBefore).Pairwise fun left right =>
        endsBefore left right = true := by
      apply List.pairwise_mergeSort
      · intro left middle right before after
        rw [endsBefore, decide_eq_true_iff] at before after ⊢
        omega
      · intro left right
        rw [Bool.or_eq_true, endsBefore, endsBefore, decide_eq_true_iff, decide_eq_true_iff]
        omega
    exact ordered.imp of_decide_eq_true

namespace MongoCollections

/-- The counter of the accounting row; none counts as zero. -/
def entriesCounter (collections : MongoCollections) : Int :=
  ((collections.capacity.lookup capacityId).bind CapacityDocument.entries).getD 0

/-- The number of reservation rows. -/
def reservationRows (collections : MongoCollections) : Nat :=
  (Rows.keep collections.capacity fun _ row => row.kind = .reservation).entries.length

end MongoCollections

namespace MongoAttestationStore

/-- The accounting row has its shape and the capacity of this store; its number of entries. -/
def validateCapacity (store : MongoAttestationStore) (row : CapacityDocument) :
    Except StoreError Int :=
  let malformed : Except StoreError Int := .error (.unavailable
    "Attestation MongoDB replay capacity configuration/accounting is inconsistent.")
  match row.entries, row.revision with
  | some entries, some revision =>
    if row.id = capacityId ∧ row.kind = .capacity ∧ row.maxEntries = some (store.maxEntries : Int) ∧
        row.proofsCollectionName = some store.proofsCollectionName ∧
        isSafeInteger entries = true ∧ 0 ≤ entries ∧ entries ≤ store.maxEntries ∧
        isSafeInteger revision = true then
      .ok entries
    else malformed
  | _, _ => malformed

/-- A reservation row has its shape; its key and deadline. -/
def validateReservation (row : CapacityDocument) : Except StoreError (String × Int) :=
  let malformed : Except StoreError (String × Int) := .error (.unavailable
    "Attestation MongoDB replay expiry accounting is malformed.")
  match row.replayKey, row.retainUntilMs with
  | some replayKey, some retainUntilMs =>
    if row.kind = .reservation ∧ row.id = reservationId replayKey ∧
        isSafeInteger retainUntilMs = true ∧ 0 ≤ retainUntilMs then
      .ok (replayKey, retainUntilMs)
    else malformed
  | _, _ => malformed

def validateProof (row : ProofDocument) (replayKey : String) : Except StoreError Int :=
  if row.id = replayKey ∧ isSafeInteger row.retainUntilMs = true ∧ 0 ≤ row.retainUntilMs then
    .ok row.retainUntilMs
  else .error (.unavailable "Attestation MongoDB replay proof is malformed.")

def accountRow (store : MongoAttestationStore) (entries revision : Int) : CapacityDocument :=
  { id := capacityId, kind := .capacity, entries := some entries, revision := some revision
    maxEntries := some (store.maxEntries : Int)
    proofsCollectionName := some store.proofsCollectionName
    replayKey := none, retainUntilMs := none }

/-- The `findOneAndUpdate` that all admissions contend for: it counts them, and makes the
accounting row if there is none. -/
def touchCapacity (store : MongoAttestationStore) (collections : MongoCollections) :
    CapacityDocument :=
  match collections.capacity.lookup capacityId with
  | some row => { row with revision := some (row.revision.getD 0 + 1) }
  | none => store.accountRow 0 1

def reservationRow (replayKey : String) (retainUntilMs : Int) : CapacityDocument :=
  { id := reservationId replayKey, kind := .reservation, entries := none, revision := none
    maxEntries := none, proofsCollectionName := none
    replayKey := some replayKey, retainUntilMs := some retainUntilMs }

/-- The deadline of a document that a read found, none if it found none. -/
def readDeadline {δ : Type} (validate : δ → Except StoreError Int) :
    Option δ → Except StoreError (Option Int)
  | none => .ok none
  | some row => (validate row).map some

/-- The expired reservation rows that an admission reclaims. -/
def expiredRows (order : FindOrder) (capacity : AList fun _ : String => CapacityDocument)
    (now : Int) : List CapacityDocument :=
  (order.sort ((capacity.entries.map fun entry => entry.2).filter fun row =>
    row.kind = .reservation && row.retainUntilMs.any fun deadline => deadline ≤ now)).take
      mongoSweepBatchSize

/-- `deleteMany` of reservation rows by their ids. -/
def deleteReservations (capacity : AList fun _ : String => CapacityDocument)
    (ids : List String) : AList fun _ : String => CapacityDocument :=
  Rows.keep capacity fun id row => !(ids.contains id && row.kind = .reservation)

/-- `deleteMany` of expired proofs by their keys. -/
def deleteProofs (proofs : AList fun _ : String => ProofDocument) (replayKeys : List String)
    (now : Int) : AList fun _ : String => ProofDocument :=
  Rows.keep proofs fun key row => !(replayKeys.contains key && row.retainUntilMs ≤ now)

/-- An insertion of a new reservation, with its proof and the new count. -/
def insertReservation (collections : MongoCollections) (replayKey : String)
    (retainUntilMs entries : Int) : Except StoreError MongoCollections :=
  let ledgerId := reservationId replayKey
  match collections.capacity.lookup ledgerId with
  | some _ =>
    .error (.unavailable "Attestation MongoDB reservation failed: E11000 duplicate key error")
  | none =>
    let inserted := collections.capacity.insert ledgerId (reservationRow replayKey retainUntilMs)
    let counted := match inserted.lookup capacityId with
      | some row => inserted.insert capacityId { row with entries := some entries }
      | none => inserted
    .ok { proofs := collections.proofs.insert replayKey { id := replayKey, retainUntilMs }
          capacity := counted }

/-- The transaction past the duplicate checks. -/
def reclaimAndInsert (store : MongoAttestationStore) (order : FindOrder)
    (collections : MongoCollections) (entries : Int) (existing : Bool) (replayKey : String)
    (retainUntilMs now : Int) : Except StoreError MongoCollections := do
  let ledgerId := reservationId replayKey
  let capacity := if existing then collections.capacity.erase ledgerId else collections.capacity
  let expired := expiredRows order capacity now
  let rows ← expired.mapM validateReservation
  let reclaimed := deleteReservations capacity (expired.map CapacityDocument.id)
  let proofs := deleteProofs collections.proofs (rows.map Prod.fst) now
  -- the counts that `deleteOne` and `deleteMany` report
  let removed : Int := collections.capacity.entries.length - reclaimed.entries.length
  let left := entries - removed
  if isSafeInteger left = false ∨ left < 0 then
    .error (.unavailable "Attestation MongoDB replay capacity accounting is inconsistent.")
  else if store.maxEntries ≤ left then .error (.reserve .capacity)
  else insertReservation { proofs, capacity := reclaimed } replayKey retainUntilMs (left + 1)

/-- The transaction past its checks of the deadline. -/
def admission (store : MongoAttestationStore) (order : FindOrder) (collections : MongoCollections)
    (replayKey : String) (retainUntilMs now : Int) :
    Except StoreError (MongoCollections × ReserveResult) := do
  let row := store.touchCapacity collections
  let touched := { collections with capacity := collections.capacity.insert capacityId row }
  let entries ← store.validateCapacity row
  let proof ← readDeadline (validateProof · replayKey) (touched.proofs.lookup replayKey)
  if proof.any fun deadline => now < deadline then .ok (touched, .duplicate)
  else do
    let existing ← readDeadline (fun row => (validateReservation row).map Prod.snd)
      (touched.capacity.lookup (reservationId replayKey))
    if existing.any fun deadline => now < deadline then .ok (touched, .duplicate)
    else do
      let after ← store.reclaimAndInsert order touched entries existing.isSome replayKey
        retainUntilMs now
      .ok (after, .reserved)

/-- The body of the transaction; its clock is read again. -/
def transaction (store : MongoAttestationStore) (order : FindOrder)
    (collections : MongoCollections) (replayKey : String) (retainUntilMs now : Int) :
    Except StoreError (MongoCollections × ReserveResult) :=
  if !(isSafeInteger now && 0 ≤ now) then
    .error (.reserve (.protocol
      (protocolError "attestation store clock must return a non-negative safe integer")))
  else if retainUntilMs ≤ now then .ok (collections, .expired)
  else if globalMaxRetentionMs < retainUntilMs - now then
    .error (.reserve (.protocol
      (protocolError "retainUntilMs exceeds the 240000 ms global retention cap")))
  else store.admission order collections replayKey retainUntilMs now

/-- `MongoAttestationStore.reserve` at the time `nowMs`. A transaction that throws is aborted and
leaves the collections as they were. -/
def reserve (store : MongoAttestationStore) (order : FindOrder) (collections : MongoCollections)
    (replayKey : String) (retainUntilMs retainUntil : Option Int) (nowMs : Int) :
    MongoCollections × Except StoreError ReserveResult :=
  match MemoryAttestationStore.checkInput replayKey (retainUntilMs.or retainUntil) nowMs with
  | .error error => (collections, .error (.reserve (.protocol error)))
  | .ok none => (collections, .ok .expired)
  | .ok (some retainUntilMs) =>
    match store.transaction order collections replayKey retainUntilMs nowMs with
    | .ok committed => (committed.1, .ok committed.2)
    | .error error => (collections, .error error)

end MongoAttestationStore

end WebTsToolkit.RequestAttestation
