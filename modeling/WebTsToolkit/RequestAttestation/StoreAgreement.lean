import WebTsToolkit.RequestAttestation.MemoryLedger
import WebTsToolkit.RequestAttestation.MongoLedger
import WebTsToolkit.RequestAttestation.RedisStore

set_option autoImplicit false

namespace WebTsToolkit.RequestAttestation

open Js Library Library.Ledger

/-- One call as the three stores take it: whether Redis first drops the key of its ledger, and how
MongoDB orders a sorted find. -/
structure SharedCall where
  call : ReserveCall
  dropped : Bool
  order : FindOrder

namespace SharedCall

def memory (shared : SharedCall) : ReserveCall :=
  shared.call

def redis (shared : SharedCall) : ReserveCall × Bool :=
  (shared.call, shared.dropped)

def mongo (shared : SharedCall) : ReserveCall × FindOrder :=
  (shared.call, shared.order)

end SharedCall

/-- A new store of each kind, all of one capacity. -/
structure FreshStores where
  memory : MemoryAttestationStore
  redis : RedisAttestationStore
  mongo : MongoAttestationStore
  memoryNew : MemoryAttestationStore.new (some (mongo.maxEntries : Int)) = .ok memory
  redisNew : redis.ledgerKey = .zset .empty
  redisCapacity : redis.maxEntries = mongo.maxEntries

def emptyCollections : MongoCollections where
  proofs := ∅
  capacity := ∅

theorem memory_new {maxEntries : Nat} {store : MemoryAttestationStore}
    (made : MemoryAttestationStore.new (some (maxEntries : Int)) = .ok store) :
    store.ledger = (fun _ => none) ∧ store.maxEntries = maxEntries := by
  rw [MemoryAttestationStore.new] at made
  split at made
  · rw [← Except.ok.inj made]
    exact ⟨rfl, rfl⟩
  · contradiction

/-- All three stores answer as the ledger does and hold the same live entries. MongoDB does so as
long as its revision can count the calls, and its counter is its number of reservation rows. -/
structure StoresAgree (stores : FreshStores) (calls : List SharedCall) : Prop where
  memory : Agrees stores.mongo.maxEntries overlong ReserveCall.request
    MemoryAttestationStore.perform MemoryAttestationStore.ledger
    (fun answer => some (outcome answer)) stores.memory (calls.map SharedCall.memory)
  redis : Agrees stores.mongo.maxEntries overlong (fun call : ReserveCall × Bool => call.1.request)
    RedisAttestationStore.perform RedisAttestationStore.ledger sharedOutcome stores.redis
    (calls.map SharedCall.redis)
  mongo : calls.length < 2 ^ 53 → Agrees stores.mongo.maxEntries overlong
    (fun call : ReserveCall × FindOrder => call.1.request) stores.mongo.perform
    MongoAttestationStore.ledger sharedOutcome emptyCollections (calls.map SharedCall.mongo)
  counter : calls.length < 2 ^ 53 →
    (after stores.mongo.perform emptyCollections (calls.map SharedCall.mongo)).entriesCounter =
      (after stores.mongo.perform emptyCollections (calls.map SharedCall.mongo)).reservationRows

/-- Under a clock that does not run backwards the three stores are one ledger. -/
theorem stores_agree_with_ledger (stores : FreshStores) (calls : List SharedCall)
    (forward : (calls.map fun shared => shared.call.nowMs).Pairwise (· ≤ ·)) :
    StoresAgree stores calls := by
  have sorted {γ : Type} (part : SharedCall → γ) (time : γ → Int)
      (same : ∀ shared, time (part shared) = shared.call.nowMs) :
      ((calls.map part).map time).Pairwise (· ≤ ·) := by
    rw [List.map_map]
    have equal : time ∘ part = fun shared => shared.call.nowMs := funext same
    rw [equal]
    exact forward
  have mongo (few : calls.length < 2 ^ 53) : MongoAttestationStore.Coherent stores.mongo
      (calls.map SharedCall.mongo).length emptyCollections := by
    rw [List.length_map]
    exact MongoAttestationStore.Coherent.empty stores.mongo few
  constructor
  · obtain ⟨empty, capacity⟩ := memory_new stores.memoryNew
    have coherent := MemoryAttestationStore.coherent_new stores.memoryNew
    apply (MemoryAttestationStore.implements_ledger stores.mongo.maxEntries).agrees
      ⟨coherent, capacity⟩ empty
    exact sorted SharedCall.memory _ fun _ => rfl
  · have coherent : stores.redis.Coherent := ⟨.empty, stores.redisNew, SortedSet.Coherent.empty⟩
    have empty : stores.redis.ledger = fun _ => none := by
      rw [RedisAttestationStore.ledger, stores.redisNew]
      rfl
    apply (RedisAttestationStore.implements_ledger stores.mongo.maxEntries).agrees
      ⟨coherent, stores.redisCapacity⟩ empty
    exact sorted SharedCall.redis _ fun _ => rfl
  · intro few
    apply (MongoAttestationStore.implements_ledger stores.mongo).agrees (mongo few) rfl
    exact sorted SharedCall.mongo _ fun _ => rfl
  · intro few
    have last := (MongoAttestationStore.implements_ledger stores.mongo).fits_after
      (calls.map SharedCall.mongo) emptyCollections 0 (mongo few)
    exact last.entriesCounter_eq

/-- Stores of one entry. -/
def exampleStores : FreshStores where
  memory := { reservations := ∅, expiryHeap := .empty, maxEntries := 1, made := 0 }
  redis := { maxEntries := 1, positive := Nat.one_pos, safe := rfl, ledgerKey := .zset .empty }
  mongo :=
    { maxEntries := 1, positive := Nat.one_pos, safe := rfl
      proofsCollectionName := "attestation_proofs" }
  memoryNew := by rfl
  redisNew := rfl
  redisCapacity := rfl

theorem smallTime_valid {time : Int} (inside : 0 ≤ time ∧ time < 1000) :
    (isSafeInteger time && decide (0 ≤ time)) = true := by
  rw [Bool.and_eq_true, isSafeInteger_iff, decide_eq_true_iff]
  omega

theorem smallDeadline_valid {time : Int} (inside : 0 ≤ time ∧ time < 1000) :
    assertTimestampMs "retainUntilMs" time = .ok () :=
  if_pos (smallTime_valid inside)

def exampleCall (replayKey : String) (keyValid : validateReplayKey replayKey = .ok ())
    (nowMs retainUntilMs : Int) (early : 0 ≤ nowMs ∧ nowMs < 1000)
    (late : 0 ≤ retainUntilMs ∧ retainUntilMs < 1000) : SharedCall where
  call :=
    { replayKey, retainUntilMs, nowMs, keyValid
      deadlineValid := smallDeadline_valid late
      clockValid := smallTime_valid early }
  dropped := false
  order := .stable

/-- The second call finds the store full, and the third one finds only an entry that ended. -/
def exampleCalls : List SharedCall :=
  [exampleCall "a" (by decide) 0 10 (by decide) (by decide),
    exampleCall "b" (by decide) 5 15 (by decide) (by decide),
    exampleCall "b" (by decide) 20 30 (by decide) (by decide)]

theorem stores_agree_with_ledger_example : StoresAgree exampleStores exampleCalls :=
  stores_agree_with_ledger exampleStores exampleCalls (by decide)

/-- One call over and over, at one time. -/
def repeatedCall : SharedCall :=
  exampleCall "a" (by decide) 0 10 (by decide) (by decide)

def repeatedMongo : MongoAttestationStore :=
  exampleStores.mongo

/-- The collections after a number of repeated calls. -/
def repeatedCollections (revision : Int) : MongoCollections where
  proofs := (∅ : AList fun _ : String => ProofDocument).insert "a" { id := "a", retainUntilMs := 10 }
  capacity := ((∅ : AList fun _ : String => CapacityDocument).insert (reservationId "a")
    (MongoAttestationStore.reservationRow "a" 10)).insert capacityId
      (repeatedMongo.accountRow 1 revision)

theorem repeated_first : (repeatedMongo.perform emptyCollections repeatedCall.mongo).1 =
    repeatedCollections 1 := by
  have proofs : (repeatedMongo.perform emptyCollections repeatedCall.mongo).1.proofs =
      (repeatedCollections 1).proofs := AList.ext (by decide +kernel)
  have capacity : (repeatedMongo.perform emptyCollections repeatedCall.mongo).1.capacity =
      (repeatedCollections 1).capacity := AList.ext (by decide +kernel)
  exact congrArg₂ MongoCollections.mk proofs capacity

/-- A repeated call is a duplicate, and counts. -/
theorem repeated_next {revision : Int} (positive : 0 ≤ revision)
    (few : revision + 1 < 2 ^ 53) :
    (repeatedMongo.perform (repeatedCollections revision) repeatedCall.mongo).1 =
      repeatedCollections (revision + 1) := by
  have safe : isSafeInteger (revision + 1) = true := by
    rw [isSafeInteger_iff]
    omega
  have valid : repeatedMongo.validateCapacity (repeatedMongo.accountRow 1 (revision + 1)) =
      .ok 1 :=
    if_pos ⟨rfl, rfl, rfl, rfl, rfl, by decide, by decide, safe⟩
  have counted : (repeatedCollections revision).capacity.lookup capacityId =
      some (repeatedMongo.accountRow 1 revision) := AList.lookup_insert _
  have row : repeatedMongo.touchCapacity (repeatedCollections revision) =
      repeatedMongo.accountRow 1 (revision + 1) := by
    rw [MongoAttestationStore.touchCapacity, counted]
    rfl
  have touched : (repeatedCollections revision).capacity.insert capacityId
      (repeatedMongo.accountRow 1 (revision + 1)) = (repeatedCollections (revision + 1)).capacity :=
    AList.insert_insert _
  have admission : repeatedMongo.admission .stable (repeatedCollections revision) "a" 10 0 =
      .ok (repeatedCollections (revision + 1), .duplicate) := by
    unfold MongoAttestationStore.admission
    show (repeatedMongo.validateCapacity (repeatedMongo.touchCapacity _) >>= _) = _
    rw [row, valid]
    show Except.ok (MongoCollections.mk (repeatedCollections revision).proofs
      ((repeatedCollections revision).capacity.insert capacityId _), _) = _
    rw [touched]
    rfl
  have transaction : repeatedMongo.transaction .stable (repeatedCollections revision) "a" 10 0 =
      .ok (repeatedCollections (revision + 1), .duplicate) := by
    rw [MongoAttestationStore.transaction, if_neg (by decide), if_neg (by decide),
      if_neg (by decide), admission]
  have checked : MemoryAttestationStore.checkInput "a" (some 10) 0 = .ok (some 10) := by rfl
  show (repeatedMongo.reserve .stable (repeatedCollections revision) "a" (some 10) none 0).1 = _
  rw [MongoAttestationStore.reserve, Option.some_or, checked]
  simp only [transaction]

/-- The revision is no safe integer any more. -/
theorem repeated_last : sharedOutcome
    (repeatedMongo.perform (repeatedCollections (2 ^ 53 - 1 : Nat)) repeatedCall.mongo).2 = none := by
  decide +kernel

theorem after_repeated (count : Nat) (positive : 0 < count) (few : count < 2 ^ 53) :
    after repeatedMongo.perform emptyCollections (List.replicate count repeatedCall.mongo) =
      repeatedCollections count := by
  induction count with
  | zero => contradiction
  | succ count ih =>
    by_cases first : count = 0
    · rw [first]
      exact repeated_first
    · have before := ih (by omega) (by omega)
      rw [List.replicate_succ', after, List.foldl_append]
      show (repeatedMongo.perform (after repeatedMongo.perform emptyCollections _) _).1 = _
      rw [before, repeated_next (by omega) (by omega)]
      rfl

/-- Of `2 ^ 53` calls at one time the last one is not answered. -/
theorem revision_overflows :
    ((List.replicate (2 ^ 53) repeatedCall).map fun shared => shared.call.nowMs).Pairwise (· ≤ ·) ∧
      ¬Agrees repeatedMongo.maxEntries overlong
        (fun call : ReserveCall × FindOrder => call.1.request) repeatedMongo.perform
        MongoAttestationStore.ledger sharedOutcome emptyCollections
        ((List.replicate (2 ^ 53) repeatedCall).map SharedCall.mongo) := by
  have split : List.replicate (2 ^ 53) repeatedCall =
      List.replicate (2 ^ 53 - 1) repeatedCall ++ [repeatedCall] :=
    List.replicate_succ'
  constructor
  · rw [List.map_replicate]
    exact List.pairwise_replicate_of_refl
  · intro agrees
    rw [split, List.map_append, List.map_replicate] at agrees
    apply agrees.answered rfl
    rw [after_repeated (2 ^ 53 - 1) (by decide) (by decide)]
    exact repeated_last

end WebTsToolkit.RequestAttestation
