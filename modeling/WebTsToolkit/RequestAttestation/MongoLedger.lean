import Mathlib.Data.List.Perm.Basic
import WebTsToolkit.RequestAttestation.MongoStore

set_option autoImplicit false

namespace WebTsToolkit.RequestAttestation.MongoAttestationStore

open Js Library Library.Ledger

theorem reservationId_injective : Function.Injective reservationId := by
  intro first second same
  have lists := congrArg String.toList same
  rw [reservationId, reservationId, String.toList_append, String.toList_append] at lists
  exact String.toList_injective (List.append_cancel_left lists)

theorem reservationId_ne (replayKey : String) : reservationId replayKey ≠ capacityId := by
  intro same
  have lists := congrArg String.toList same
  rw [reservationId, String.toList_append] at lists
  have heads := congrArg List.head? lists
  revert heads
  simp [capacityId]

/-- Each proof has its reservation row and no other row has a proof; the accounting row apart. -/
structure Matched (proofs : AList fun _ : String => ProofDocument)
    (capacity : AList fun _ : String => CapacityDocument) : Prop where
  valid : ∀ replayKey proof, proofs.lookup replayKey = some proof →
    proof.id = replayKey ∧ isSafeInteger proof.retainUntilMs = true ∧ 0 ≤ proof.retainUntilMs
  reserved : ∀ replayKey proof, proofs.lookup replayKey = some proof →
    capacity.lookup (reservationId replayKey) = some (reservationRow replayKey proof.retainUntilMs)
  proved : ∀ id row, capacity.lookup id = some row → id ≠ capacityId →
    ∃ replayKey proof, id = reservationId replayKey ∧ proofs.lookup replayKey = some proof

variable {proofs : AList fun _ : String => ProofDocument}
  {capacity : AList fun _ : String => CapacityDocument}

theorem Matched.row_of_id (matched : Matched proofs capacity) {id : String}
    {row : CapacityDocument} (found : capacity.lookup id = some row) (other : id ≠ capacityId) :
    ∃ replayKey proof, id = reservationId replayKey ∧
      row = reservationRow replayKey proof.retainUntilMs ∧
      proofs.lookup replayKey = some proof := by
  obtain ⟨replayKey, proof, same, listed⟩ := matched.proved id row found other
  refine ⟨replayKey, proof, same, ?_, listed⟩
  have there := matched.reserved replayKey proof listed
  rw [← same, found] at there
  exact Option.some.inj there

/-- There is one row for each proof, and the accounting row. -/
theorem Matched.size (matched : Matched proofs capacity) {account : CapacityDocument}
    (counted : capacity.lookup capacityId = some account) :
    capacity.entries.length = proofs.entries.length + 1 := by
  have distinct : capacity.keys.Nodup := capacity.nodupKeys
  have distinct' : proofs.keys.Nodup := proofs.nodupKeys
  have members : capacity.keys.Perm (capacityId :: proofs.keys.map reservationId) := by
    rw [List.perm_ext_iff_of_nodup distinct]
    · intro id
      rw [List.mem_cons, List.mem_map, ← AList.mem_keys, ← AList.lookup_isSome]
      constructor
      · intro there
        obtain ⟨row, found⟩ := Option.isSome_iff_exists.mp there
        by_cases same : id = capacityId
        · exact Or.inl same
        · obtain ⟨replayKey, proof, named, listed⟩ := matched.proved id row found same
          right
          refine ⟨replayKey, ?_, named.symm⟩
          rw [← AList.mem_keys, ← AList.lookup_isSome, listed]
          rfl
      · intro there
        rcases there with same | listed
        · rw [same, counted]
          rfl
        · obtain ⟨replayKey, member, named⟩ := listed
          rw [← AList.mem_keys, ← AList.lookup_isSome] at member
          obtain ⟨proof, found⟩ := Option.isSome_iff_exists.mp member
          rw [← named, matched.reserved replayKey proof found]
          rfl
    · rw [List.nodup_cons]
      refine ⟨?_, distinct'.map reservationId_injective⟩
      intro member
      obtain ⟨replayKey, _, same⟩ := List.mem_map.mp member
      exact reservationId_ne replayKey same
  have length := members.length_eq
  simp only [AList.keys, List.keys, List.length_cons, List.length_map] at length
  exact length

/-- The accounting row does not matter. -/
theorem Matched.account (matched : Matched proofs capacity) (row : CapacityDocument) :
    Matched proofs (capacity.insert capacityId row) where
  valid := matched.valid
  reserved := by
    intro replayKey proof found
    rw [Rows.lookup_insert, if_neg (reservationId_ne replayKey)]
    exact matched.reserved replayKey proof found
  proved := by
    intro id other found apart
    rw [Rows.lookup_insert, if_neg apart] at found
    exact matched.proved id other found apart

/-- Some keys leave both collections. -/
theorem Matched.without (matched : Matched proofs capacity) (gone : String → Prop)
    [DecidablePred gone] {proofs' : AList fun _ : String => ProofDocument}
    {capacity' : AList fun _ : String => CapacityDocument}
    (proofsLeft : ∀ replayKey, proofs'.lookup replayKey =
      if gone replayKey then none else proofs.lookup replayKey)
    (rowsLeft : ∀ replayKey, capacity'.lookup (reservationId replayKey) =
      if gone replayKey then none else capacity.lookup (reservationId replayKey))
    (shrinks : ∀ id row, capacity'.lookup id = some row → capacity.lookup id = some row) :
    Matched proofs' capacity' where
  valid := by
    intro replayKey proof found
    rw [proofsLeft] at found
    split at found
    · contradiction
    · exact matched.valid replayKey proof found
  reserved := by
    intro replayKey proof found
    rw [proofsLeft] at found
    split at found
    · contradiction
    · next stays =>
      rw [rowsLeft, if_neg stays]
      exact matched.reserved replayKey proof found
  proved := by
    intro id row found apart
    obtain ⟨replayKey, proof, same, listed⟩ := matched.proved id row (shrinks id row found) apart
    refine ⟨replayKey, proof, same, ?_⟩
    rw [same, rowsLeft] at found
    rw [proofsLeft]
    split at found
    · contradiction
    · next stays =>
      rw [if_neg stays]
      exact listed

/-- A new key joins both. -/
theorem Matched.added (matched : Matched proofs capacity) {replayKey : String} {deadline : Int}
    (safe : isSafeInteger deadline = true ∧ 0 ≤ deadline)
    {proofs' : AList fun _ : String => ProofDocument}
    {capacity' : AList fun _ : String => CapacityDocument}
    (proofsGrown : ∀ other, proofs'.lookup other =
      if other = replayKey then some { id := replayKey, retainUntilMs := deadline }
      else proofs.lookup other)
    (rowsGrown : ∀ id, id ≠ capacityId → capacity'.lookup id =
      if id = reservationId replayKey then some (reservationRow replayKey deadline)
      else capacity.lookup id) :
    Matched proofs' capacity' where
  valid := by
    intro other proof found
    rw [proofsGrown] at found
    split at found
    · next same =>
      rw [← Option.some.inj found]
      exact ⟨same.symm, safe⟩
    · exact matched.valid other proof found
  reserved := by
    intro other proof found
    rw [rowsGrown _ (reservationId_ne other)]
    rw [proofsGrown] at found
    by_cases same : other = replayKey
    · rw [if_pos same] at found
      rw [if_pos (congrArg reservationId same), ← Option.some.inj found, same]
    · rw [if_neg same] at found
      have apart : reservationId other ≠ reservationId replayKey :=
        fun equal => same (reservationId_injective equal)
      rw [if_neg apart]
      exact matched.reserved other proof found
  proved := by
    intro id row found apart
    rw [rowsGrown id apart] at found
    by_cases same : id = reservationId replayKey
    · exact ⟨replayKey, _, same, by rw [proofsGrown, if_pos rfl]⟩
    · rw [if_neg same] at found
      obtain ⟨other, proof, named, listed⟩ := matched.proved id row found apart
      refine ⟨other, proof, named, ?_⟩
      have different : other ≠ replayKey := by
        intro equal
        rw [named, equal] at same
        exact same rfl
      rw [proofsGrown, if_neg different]
      exact listed

section Reclaiming

variable {now : Int} (order : FindOrder) {account : CapacityDocument} {replayKey : String}

/-- The rows that a reclaim finds are reservations that are over. -/
theorem Matched.of_mem_expiredRows (matched : Matched proofs capacity)
    (counted : capacity.lookup capacityId = some account) (kind : account.kind = .capacity)
    {row : CapacityDocument} (found : row ∈ expiredRows order capacity now) :
    ∃ replayKey proof, row = reservationRow replayKey proof.retainUntilMs ∧
      proofs.lookup replayKey = some proof ∧ proof.retainUntilMs ≤ now := by
  have sorted := (order.perm _).mem_iff.mp (List.mem_of_mem_take found)
  rw [List.mem_filter, List.mem_map] at sorted
  obtain ⟨⟨entry, inside, same⟩, kept⟩ := sorted
  have listed : capacity.lookup entry.1 = some row := by
    rw [← same, ← Option.mem_def, AList.mem_lookup_iff]
    exact inside
  rw [Bool.and_eq_true, decide_eq_true_iff] at kept
  have apart : entry.1 ≠ capacityId := by
    intro here
    rw [here, counted, Option.some.injEq] at listed
    rw [← listed, kind] at kept
    exact absurd kept.1 (by decide)
  obtain ⟨replayKey, proof, _, shape, proved⟩ := matched.row_of_id listed apart
  refine ⟨replayKey, proof, shape, proved, ?_⟩
  have past := kept.2
  rw [shape] at past
  simpa [reservationRow] using past

/-- If a reclaim finds nothing, all proofs are live. -/
theorem Matched.live_of_expiredRows_eq_nil (matched : Matched proofs capacity)
    (nothing : expiredRows order capacity now = []) {proof : ProofDocument}
    (found : proofs.lookup replayKey = some proof) : now < proof.retainUntilMs := by
  by_contra past
  rw [expiredRows, List.take_eq_nil_iff] at nothing
  rcases nothing with zero | nothing
  · contradiction
  · have perm := order.perm ((capacity.entries.map fun entry => entry.2).filter fun row =>
      row.kind = .reservation && row.retainUntilMs.any fun deadline => deadline ≤ now)
    rw [nothing] at perm
    have row := matched.reserved replayKey proof found
    rw [← Option.mem_def, AList.mem_lookup_iff] at row
    have listed : reservationRow replayKey proof.retainUntilMs ∈
        capacity.entries.map fun entry => entry.2 :=
      List.mem_map.mpr ⟨_, row, rfl⟩
    have dropped := List.filter_eq_nil_iff.mp perm.nil_eq.symm _ listed
    apply dropped
    simpa [reservationRow] using not_lt.mp past

/-- What a reclaim validates: the keys and deadlines of its rows. -/
theorem Matched.validate_expiredRows (matched : Matched proofs capacity)
    (counted : capacity.lookup capacityId = some account) (kind : account.kind = .capacity) :
    (expiredRows order capacity now).mapM validateReservation =
      .ok ((expiredRows order capacity now).map fun row =>
        (row.replayKey.getD "", row.retainUntilMs.getD 0)) := by
  apply mapM_eq_ok
  intro row found
  obtain ⟨replayKey, proof, shape, proved, _⟩ :=
    matched.of_mem_expiredRows order counted kind found
  have valid := matched.valid replayKey proof proved
  rw [shape, validateReservation]
  exact if_pos ⟨rfl, rfl, valid.2⟩

/-- The requested key and the expired rows leave together. -/
theorem Matched.reclaimed (matched : Matched proofs capacity)
    (counted : capacity.lookup capacityId = some account) (kind : account.kind = .capacity) :
    let page := expiredRows order capacity now
    let keys := page.map fun row => row.replayKey.getD ""
    (∀ replayKey, (deleteReservations capacity (page.map CapacityDocument.id)).lookup
        (reservationId replayKey) =
      if replayKey ∈ keys then none else capacity.lookup (reservationId replayKey)) ∧
    (∀ replayKey, (deleteProofs proofs keys now).lookup replayKey =
      if replayKey ∈ keys then none else proofs.lookup replayKey) ∧
    (deleteReservations capacity (page.map CapacityDocument.id)).lookup capacityId =
      some account ∧
    (∀ replayKey ∈ keys, ∃ proof, proofs.lookup replayKey = some proof ∧
      proof.retainUntilMs ≤ now) := by
  intro page keys
  have shape (row : CapacityDocument) (found : row ∈ page) :=
    matched.of_mem_expiredRows order counted kind found
  have ids (replayKey : String) :
      reservationId replayKey ∈ page.map CapacityDocument.id ↔ replayKey ∈ keys := by
    rw [List.mem_map, List.mem_map]
    constructor
    · intro listed
      obtain ⟨row, found, named⟩ := listed
      obtain ⟨key, proof, same, _⟩ := shape row found
      refine ⟨row, found, ?_⟩
      rw [same] at named ⊢
      exact reservationId_injective named
    · intro listed
      obtain ⟨row, found, named⟩ := listed
      obtain ⟨key, proof, same, _⟩ := shape row found
      refine ⟨row, found, ?_⟩
      rw [same] at named ⊢
      exact congrArg reservationId named
  have past : ∀ replayKey ∈ keys, ∃ proof, proofs.lookup replayKey = some proof ∧
      proof.retainUntilMs ≤ now := by
    intro replayKey listed
    obtain ⟨row, found, named⟩ := List.mem_map.mp listed
    obtain ⟨key, proof, same, proved, ended⟩ := shape row found
    rw [same] at named
    rw [← named]
    exact ⟨proof, proved, ended⟩
  refine ⟨?_, ?_, ?_, past⟩
  · intro replayKey
    rw [deleteReservations, Rows.lookup_keep]
    by_cases listed : replayKey ∈ keys
    · rw [if_pos listed]
      obtain ⟨proof, proved, _⟩ := past replayKey listed
      rw [matched.reserved replayKey proof proved, Option.filter_some, if_neg]
      simp [(ids replayKey).mpr listed, reservationRow]
    · have absent := mt (ids replayKey).mp listed
      rw [if_neg listed]
      cases capacity.lookup (reservationId replayKey) with
      | none => rfl
      | some row =>
        rw [Option.filter_some, if_pos]
        simp [List.contains_eq_mem, absent]
  · intro replayKey
    rw [deleteProofs, Rows.lookup_keep]
    by_cases listed : replayKey ∈ keys
    · rw [if_pos listed]
      obtain ⟨proof, proved, ended⟩ := past replayKey listed
      rw [proved, Option.filter_some, if_neg]
      simp [listed, ended]
    · rw [if_neg listed]
      cases proofs.lookup replayKey with
      | none => rfl
      | some proof =>
        rw [Option.filter_some, if_pos]
        simp [List.contains_eq_mem, listed]
  · rw [deleteReservations, Rows.lookup_keep, counted, Option.filter_some, if_pos]
    simp [kind]

/-- The capacity collection without the row of the requested key. -/
def cleared (capacity : AList fun _ : String => CapacityDocument) (replayKey : String) :
    AList fun _ : String => CapacityDocument :=
  if (capacity.lookup (reservationId replayKey)).isSome then
    capacity.erase (reservationId replayKey)
  else capacity

theorem lookup_cleared (capacity : AList fun _ : String => CapacityDocument)
    (replayKey id : String) : (cleared capacity replayKey).lookup id =
      if id = reservationId replayKey then none else capacity.lookup id := by
  rw [cleared]
  split
  · exact Rows.lookup_erase capacity (reservationId replayKey) id
  · next absent =>
    by_cases same : id = reservationId replayKey
    · rw [if_pos same, same]
      exact Option.not_isSome_iff_eq_none.mp absent
    · rw [if_neg same]

theorem Matched.withoutExisting (matched : Matched proofs capacity) (replayKey : String) :
    Matched (proofs.erase replayKey) (cleared capacity replayKey) := by
  apply matched.without (· = replayKey) (Rows.lookup_erase proofs replayKey)
  · intro other
    rw [lookup_cleared]
    by_cases same : other = replayKey
    · rw [if_pos same, if_pos (congrArg reservationId same)]
    · have apart : reservationId other ≠ reservationId replayKey :=
        fun equal => same (reservationId_injective equal)
      rw [if_neg same, if_neg apart]
  · intro id row found
    rw [lookup_cleared] at found
    split at found
    · contradiction
    · exact found

/-- What is left after the deletions: fewer rows, unless all were live. -/
structure Reclaimed (now : Int) (replayKey : String)
    (proofs : AList fun _ : String => ProofDocument)
    (capacity : AList fun _ : String => CapacityDocument)
    (proofs' : AList fun _ : String => ProofDocument)
    (capacity' : AList fun _ : String => CapacityDocument) : Prop where
  matched : Matched proofs' capacity'
  absent : proofs'.lookup replayKey = none
  account : capacity'.lookup capacityId = capacity.lookup capacityId
  same : (ofRows ProofDocument.retainUntilMs proofs').prune now =
    (ofRows ProofDocument.retainUntilMs proofs).prune now
  size_le : proofs'.entries.length ≤ proofs.entries.length
  progress : proofs'.entries.length < proofs.entries.length ∨
    ∀ other proof, proofs.lookup other = some proof → now < proof.retainUntilMs

/-- Proofs that have ended may go. -/
theorem prune_eq_of_lookup {proofs' : AList fun _ : String => ProofDocument} {gone : String → Prop}
    [DecidablePred gone]
    (left : ∀ other, proofs'.lookup other = if gone other then none else proofs.lookup other)
    (ended : ∀ other proof, gone other → proofs.lookup other = some proof →
      proof.retainUntilMs ≤ now) :
    (ofRows ProofDocument.retainUntilMs proofs').prune now =
      (ofRows ProofDocument.retainUntilMs proofs).prune now := by
  funext other
  rw [prune, prune, ofRows, ofRows, left]
  by_cases leaves : gone other
  · rw [if_pos leaves]
    cases found : proofs.lookup other with
    | none => rfl
    | some proof =>
      have past := ended other proof leaves found
      rw [Option.map_some, Option.filter_some, if_neg (by simpa using past)]
      rfl
  · rw [if_neg leaves]

theorem Matched.reclaim (matched : Matched proofs capacity)
    (counted : capacity.lookup capacityId = some account) (kind : account.kind = .capacity)
    (dead : ∀ proof, proofs.lookup replayKey = some proof → proof.retainUntilMs ≤ now) :
    let page := expiredRows order (cleared capacity replayKey) now
    let keys := page.map fun row => row.replayKey.getD ""
    Reclaimed now replayKey proofs capacity (deleteProofs (proofs.erase replayKey) keys now)
      (deleteReservations (cleared capacity replayKey)
        (page.map CapacityDocument.id)) := by
  intro page keys
  have matched' := matched.withoutExisting replayKey
  have counted' : (cleared capacity replayKey).lookup capacityId =
      some account := by
    rw [lookup_cleared, if_neg (reservationId_ne replayKey).symm, counted]
  obtain ⟨rowsLeft, proofsLeft, accountLeft, ended⟩ := matched'.reclaimed order counted' kind
  have lookup (other : String) :
      (deleteProofs (proofs.erase replayKey) keys now).lookup other =
        if other ∈ keys ∨ other = replayKey then none else proofs.lookup other := by
    rw [proofsLeft, Rows.lookup_erase]
    by_cases listed : other ∈ keys
    · rw [if_pos listed, if_pos (Or.inl listed)]
    · by_cases same : other = replayKey
      · rw [if_neg listed, if_pos same, if_pos (Or.inr same)]
      · rw [if_neg listed, if_neg same, if_neg (by tauto)]
  have erased := Rows.length_erase_le proofs replayKey
  have kept := Rows.length_keep_le (proofs.erase replayKey) fun key row =>
    !(keys.contains key && decide (row.retainUntilMs ≤ now))
  have progress : (deleteProofs (proofs.erase replayKey) keys now).entries.length <
      proofs.entries.length ∨
        ∀ other proof, proofs.lookup other = some proof → now < proof.retainUntilMs := by
    cases found : proofs.lookup replayKey with
    | some proof =>
      left
      have length := Rows.length_erase found
      exact lt_of_le_of_lt kept (by omega)
    | none =>
      by_cases nothing : page = []
      · right
        intro other proof listed
        have apart : other ≠ replayKey := by
          intro same
          rw [same, found] at listed
          contradiction
        have there : (proofs.erase replayKey).lookup other = some proof := by
          rw [Rows.lookup_erase, if_neg apart, listed]
        exact matched'.live_of_expiredRows_eq_nil order nothing there
      · left
        obtain ⟨row, first⟩ := List.exists_mem_of_ne_nil _ nothing
        have key : row.replayKey.getD "" ∈ keys := List.mem_map_of_mem first
        obtain ⟨proof, there, past⟩ := ended _ key
        have dropped : (!(keys.contains (row.replayKey.getD "") &&
            decide (proof.retainUntilMs ≤ now))) = false := by
          simp [key, past]
        exact lt_of_lt_of_le (Rows.length_keep_lt there dropped) erased
  constructor
  · apply matched'.without (· ∈ keys) proofsLeft rowsLeft
    intro id row found
    exact (Rows.lookup_keep_eq_some.mp found).1
  · rw [lookup, if_pos (Or.inr rfl)]
  · rw [accountLeft, counted]
  · apply prune_eq_of_lookup lookup
    intro other proof leaves found
    rcases leaves with listed | same
    · obtain ⟨proof', found', past⟩ := ended other listed
      rw [Rows.lookup_erase] at found'
      split at found'
      · contradiction
      · rw [found, Option.some.injEq] at found'
        rw [found']
        exact past
    · rw [same] at found
      exact dead proof found
  · exact le_trans kept erased
  · exact progress

theorem Matched.lookup_none (matched : Matched proofs capacity)
    (absent : proofs.lookup replayKey = none) :
    capacity.lookup (reservationId replayKey) = none := by
  by_contra there
  obtain ⟨row, found⟩ := Option.ne_none_iff_exists'.mp there
  obtain ⟨key, proof, same, proved⟩ := matched.proved _ row found (reservationId_ne replayKey)
  rw [← reservationId_injective same, absent] at proved
  contradiction

/-- The insertion of a key that both collections miss. -/
theorem Matched.insertion {store : MongoAttestationStore} {revision entries : Int}
    (matched : Matched proofs capacity) {proofs' : AList fun _ : String => ProofDocument}
    {deadline : Int} (absent : proofs.lookup replayKey = none)
    (same : ∀ other, other ≠ replayKey → proofs'.lookup other = proofs.lookup other)
    (counted : capacity.lookup capacityId = some (store.accountRow entries revision))
    (safe : isSafeInteger deadline = true ∧ 0 ≤ deadline) :
    ∃ after, insertReservation { proofs := proofs', capacity } replayKey deadline
          (proofs.entries.length + 1) = .ok after ∧
      Matched after.proofs after.capacity ∧
      after.proofs.entries.length = proofs.entries.length + 1 ∧
      after.capacity.lookup capacityId =
        some (store.accountRow (proofs.entries.length + 1) revision) ∧
      ∀ other, after.proofs.lookup other =
        if other = replayKey then some { id := replayKey, retainUntilMs := deadline }
        else proofs.lookup other := by
  have free := matched.lookup_none absent
  have account : (capacity.insert (reservationId replayKey)
      (reservationRow replayKey deadline)).lookup capacityId =
        some (store.accountRow entries revision) := by
    rw [Rows.lookup_insert, if_neg (reservationId_ne replayKey).symm, counted]
  rw [insertReservation]
  simp only [free, account]
  have proofsGrown (other : String) :
      (proofs'.insert replayKey { id := replayKey, retainUntilMs := deadline }).lookup other =
        if other = replayKey then some { id := replayKey, retainUntilMs := deadline }
        else proofs.lookup other := by
    rw [Rows.lookup_insert]
    by_cases equal : other = replayKey
    · rw [if_pos equal, if_pos equal]
    · rw [if_neg equal, if_neg equal, same other equal]
  have rowsGrown (id : String) (apart : id ≠ capacityId) :
      ((capacity.insert (reservationId replayKey) (reservationRow replayKey deadline)).insert
          capacityId { store.accountRow entries revision with
            entries := some ((proofs.entries.length : Int) + 1) }).lookup id =
        if id = reservationId replayKey then some (reservationRow replayKey deadline)
        else capacity.lookup id := by
    rw [Rows.lookup_insert, if_neg apart, Rows.lookup_insert]
  have joined := matched.added safe proofsGrown rowsGrown
  refine ⟨_, rfl, joined, ?_, ?_, proofsGrown⟩
  · have before := matched.size counted
    have after := joined.size (Rows.lookup_insert _ _ _ _ |>.trans (if_pos rfl))
    rw [Rows.length_replace account, Rows.length_insert free] at after
    show (proofs'.insert replayKey _).entries.length = _
    omega
  · rw [Rows.lookup_insert, if_pos rfl]
    rfl

/-- The transaction past the duplicate checks of a key that has no live proof. -/
theorem Matched.reclaimedInsertion {store : MongoAttestationStore} {revision : Int}
    (matched : Matched proofs capacity) {deadline : Int} (counted : capacity.lookup capacityId =
      some (store.accountRow proofs.entries.length revision))
    (within : proofs.entries.length ≤ store.maxEntries)
    (dead : ∀ proof, proofs.lookup replayKey = some proof → proof.retainUntilMs ≤ now)
    (ahead : now < deadline) (safe : isSafeInteger deadline = true ∧ 0 ≤ deadline) :
    let live := (ofRows ProofDocument.retainUntilMs proofs).prune now
    let result := store.reclaimAndInsert order { proofs, capacity } proofs.entries.length
      (capacity.lookup (reservationId replayKey)).isSome replayKey deadline now
    (live.liveKeys.ncard = store.maxEntries → result = .error (.reserve .capacity)) ∧
      (live.liveKeys.ncard ≠ store.maxEntries → ∃ after, result = .ok after ∧
        Matched after.proofs after.capacity ∧
        after.capacity.lookup capacityId =
          some (store.accountRow after.proofs.entries.length revision) ∧
        after.proofs.entries.length ≤ store.maxEntries ∧
        (ofRows ProofDocument.retainUntilMs after.proofs).prune now =
          Function.update live replayKey (some deadline)) := by
  intro live result
  let page := expiredRows order (cleared capacity replayKey) now
  let keys := page.map fun row => row.replayKey.getD ""
  let kept := deleteProofs (proofs.erase replayKey) keys now
  let rows := deleteReservations (cleared capacity replayKey) (page.map CapacityDocument.id)
  let left : Int := proofs.entries.length - (capacity.entries.length - rows.entries.length)
  have reclaimed : Reclaimed now replayKey proofs capacity kept rows :=
    matched.reclaim order counted rfl dead
  have full : store.maxEntries ≤ kept.entries.length ↔ live.liveKeys.ncard = store.maxEntries :=
    full_iff within reclaimed.same reclaimed.size_le reclaimed.progress
  have counted' : (cleared capacity replayKey).lookup capacityId =
      some (store.accountRow proofs.entries.length revision) := by
    rw [lookup_cleared, if_neg (reservationId_ne replayKey).symm, counted]
  have validated : page.mapM validateReservation =
      .ok (page.map fun row => (row.replayKey.getD "", row.retainUntilMs.getD 0)) :=
    (matched.withoutExisting replayKey).validate_expiredRows order counted' rfl
  have before := matched.size counted
  have after := reclaimed.matched.size (reclaimed.account.trans counted)
  have counts : left = (kept.entries.length : Int) := by
    show (proofs.entries.length : Int) - (capacity.entries.length - rows.entries.length) = _
    omega
  have computed : result =
      if isSafeInteger left = false ∨ left < 0 then .error (.unavailable
        "Attestation MongoDB replay capacity accounting is inconsistent.")
      else if store.maxEntries ≤ left then .error (.reserve .capacity)
      else insertReservation { proofs := deleteProofs proofs keys now, capacity := rows }
        replayKey deadline (left + 1) := by
    show store.reclaimAndInsert _ _ _ _ _ _ _ = _
    unfold reclaimAndInsert
    show (page.mapM validateReservation >>= _) = _
    rw [validated]
    have names : (page.map fun row => (row.replayKey.getD "", row.retainUntilMs.getD 0)).map
        Prod.fst = keys := List.map_map
    show (if isSafeInteger left = false ∨ left < 0 then _
      else if store.maxEntries ≤ left then _
      else insertReservation ⟨deleteProofs proofs ((page.map fun row =>
        (row.replayKey.getD "", row.retainUntilMs.getD 0)).map Prod.fst) now, rows⟩
          replayKey deadline (left + 1)) = _
    rw [names]
  have limit := store.safe
  have fewer := reclaimed.size_le
  have safeLeft : isSafeInteger left = true := by
    rw [isSafeInteger_iff] at limit ⊢
    omega
  have consistent : ¬(isSafeInteger left = false ∨ left < 0) := by
    intro malformed
    rcases malformed with imprecise | negative
    · rw [safeLeft] at imprecise
      contradiction
    · omega
  rw [computed, if_neg consistent, counts]
  simp only [Int.ofNat_le]
  constructor
  · intro crowded
    rw [if_pos (full.mpr crowded)]
  · intro room
    rw [if_neg (mt full.mp room)]
    have stays (other : String) (apart : other ≠ replayKey) :
        (deleteProofs proofs keys now).lookup other =
          kept.lookup other := by
      show _ = (deleteProofs (proofs.erase replayKey) keys now).lookup other
      rw [deleteProofs, deleteProofs, Rows.lookup_keep, Rows.lookup_keep, Rows.lookup_erase,
        if_neg apart]
    obtain ⟨after', done, joined, length, account, lookup⟩ :=
      reclaimed.matched.insertion reclaimed.absent stays (reclaimed.account.trans counted) safe
    refine ⟨after', done, joined, ?_, ?_, ?_⟩
    · rw [account, length]
      rfl
    · rw [length]
      have smaller := mt full.mp room
      omega
    · show _ = Function.update (prune now (ofRows ProofDocument.retainUntilMs proofs)) _ _
      rw [← reclaimed.same]
      funext other
      by_cases requested : other = replayKey
      · rw [requested, Function.update_self, prune, ofRows, lookup, if_pos rfl, Option.map_some,
          Option.filter_some, if_pos (decide_eq_true ahead)]
      · rw [Function.update_of_ne requested, prune, ofRows, lookup, if_neg requested]
        rfl

end Reclaiming

/-- The collections of a store that may still take a number of calls: each admission counts in the
revision of the accounting row, which must stay a safe integer. -/
structure Coherent (store : MongoAttestationStore) (calls : Nat)
    (collections : MongoCollections) : Prop where
  matched : Matched collections.proofs collections.capacity
  within : collections.proofs.entries.length ≤ store.maxEntries
  account : (collections.capacity.lookup capacityId = none ∧
      collections.proofs.entries.length = 0 ∧ calls < 2 ^ 53) ∨
    ∃ revision : Int, collections.capacity.lookup capacityId =
        some (store.accountRow collections.proofs.entries.length revision) ∧
      0 ≤ revision ∧ revision + calls < 2 ^ 53

variable {store : MongoAttestationStore} {calls : Nat} {collections : MongoCollections}

/-- What the proofs say: the deadline of each key. -/
def ledger (collections : MongoCollections) : Ledger String Int :=
  ofRows ProofDocument.retainUntilMs collections.proofs

theorem Coherent.empty (store : MongoAttestationStore) (few : calls < 2 ^ 53) :
    Coherent store calls { proofs := ∅, capacity := ∅ } where
  matched := by
    constructor
    · intro replayKey proof found
      contradiction
    · intro replayKey proof found
      contradiction
    · intro id row found
      contradiction
  within := Nat.zero_le _
  account := Or.inl ⟨rfl, rfl, few⟩

theorem Coherent.fewer (coherent : Coherent store (calls + 1) collections) :
    Coherent store calls collections where
  __ := coherent
  account := by
    rcases coherent.account with fresh | counted
    · exact Or.inl ⟨fresh.1, fresh.2.1, by omega⟩
    · obtain ⟨revision, found, positive, few⟩ := counted
      exact Or.inr ⟨revision, found, positive, by omega⟩

/-- The accounting row of an admission is valid. -/
theorem Coherent.touch (coherent : Coherent store (calls + 1) collections) :
    ∃ revision : Int, store.touchCapacity collections =
        store.accountRow collections.proofs.entries.length revision ∧
      0 ≤ revision ∧ revision + calls < 2 ^ 53 ∧
      store.validateCapacity (store.touchCapacity collections) =
        .ok collections.proofs.entries.length := by
  have valid (revision : Int) (positive : 0 ≤ revision) (few : revision + calls < 2 ^ 53) :
      store.validateCapacity (store.accountRow collections.proofs.entries.length revision) =
        .ok collections.proofs.entries.length := by
    have limit := store.safe
    have within := coherent.within
    have safeEntries : isSafeInteger collections.proofs.entries.length = true := by
      rw [isSafeInteger_iff] at limit ⊢
      omega
    have safeRevision : isSafeInteger revision = true := by
      rw [isSafeInteger_iff]
      omega
    exact if_pos ⟨rfl, rfl, rfl, rfl, safeEntries, by omega, by omega, safeRevision⟩
  rcases coherent.account with fresh | counted
  · obtain ⟨nothing, none_, few⟩ := fresh
    have row : store.touchCapacity collections =
        store.accountRow collections.proofs.entries.length 1 := by
      rw [touchCapacity, nothing, none_]
      rfl
    refine ⟨1, row, by omega, by omega, ?_⟩
    rw [row]
    exact valid 1 (by omega) (by omega)
  · obtain ⟨revision, found, positive, few⟩ := counted
    have row : store.touchCapacity collections =
        store.accountRow collections.proofs.entries.length (revision + 1) := by
      rw [touchCapacity, found]
      rfl
    refine ⟨revision + 1, row, by omega, by omega, ?_⟩
    rw [row]
    exact valid (revision + 1) (by omega) (by omega)

theorem Matched.readProof (matched : Matched proofs capacity) (replayKey : String) :
    readDeadline (validateProof · replayKey) (proofs.lookup replayKey) =
      .ok (ofRows ProofDocument.retainUntilMs proofs replayKey) := by
  rw [ofRows]
  cases found : proofs.lookup replayKey with
  | none => rfl
  | some proof =>
    have valid := matched.valid replayKey proof found
    rw [readDeadline, validateProof, if_pos valid]
    rfl

theorem Matched.readReservation (matched : Matched proofs capacity) (replayKey : String) :
    readDeadline (fun row => (validateReservation row).map Prod.snd)
        (capacity.lookup (reservationId replayKey)) =
      .ok (ofRows ProofDocument.retainUntilMs proofs replayKey) := by
  rw [ofRows]
  cases found : proofs.lookup replayKey with
  | none =>
    rw [matched.lookup_none found]
    rfl
  | some proof =>
    have valid := matched.valid replayKey proof found
    have passed : validateReservation (reservationRow replayKey proof.retainUntilMs) =
        .ok (replayKey, proof.retainUntilMs) := if_pos ⟨rfl, rfl, valid.2⟩
    rw [matched.reserved replayKey proof found, readDeadline, passed]
    rfl

theorem Matched.isSome_reservation (matched : Matched proofs capacity) (replayKey : String) :
    (ofRows ProofDocument.retainUntilMs proofs replayKey).isSome =
      (capacity.lookup (reservationId replayKey)).isSome := by
  rw [ofRows]
  cases found : proofs.lookup replayKey with
  | none =>
    rw [matched.lookup_none found]
    rfl
  | some proof =>
    rw [matched.reserved replayKey proof found]
    rfl

/-- An admission is a reservation in the ledger of the proofs; without capacity it is aborted. -/
theorem Coherent.admission (coherent : Coherent store (calls + 1) collections) (order : FindOrder)
    {request : Request String Int} (ahead : request.now < request.deadline)
    (near : overlong request.now request.deadline = false)
    (safe : isSafeInteger request.deadline = true ∧ 0 ≤ request.deadline) :
    (∃ after result, store.admission order collections request.key request.deadline request.now =
        .ok (after, result) ∧
      Coherent store calls after ∧
      (ledger after).prune request.now =
        ((ledger collections).reserve store.maxEntries overlong request).1 ∧
      sharedOutcome (.ok result) =
        some ((ledger collections).reserve store.maxEntries overlong request).2) ∨
    (store.admission order collections request.key request.deadline request.now =
        .error (.reserve .capacity) ∧
      (ledger collections).reserve store.maxEntries overlong request =
        ((ledger collections).prune request.now, .capacity)) := by
  obtain ⟨revision, row, positive, few, valid⟩ := coherent.touch
  let touched : MongoCollections :=
    { collections with
      capacity := collections.capacity.insert capacityId (store.touchCapacity collections) }
  have matched : Matched touched.proofs touched.capacity :=
    coherent.matched.account (store.touchCapacity collections)
  have counted : touched.capacity.lookup capacityId =
      some (store.accountRow touched.proofs.entries.length revision) := by
    rw [Rows.lookup_insert, if_pos rfl, row]
  have kept : Coherent store calls touched :=
    ⟨matched, coherent.within, Or.inr ⟨revision, counted, positive, few⟩⟩
  have proof := matched.readProof request.key
  have existing := matched.readReservation request.key
  have unfolded : store.admission order collections request.key request.deadline request.now =
      if (ledger collections request.key).any fun deadline => request.now < deadline then
        .ok (touched, .duplicate)
      else (store.reclaimAndInsert order touched touched.proofs.entries.length
        (touched.capacity.lookup (reservationId request.key)).isSome request.key request.deadline
          request.now).map (·, .reserved) := by
    unfold MongoAttestationStore.admission
    show (store.validateCapacity (store.touchCapacity collections) >>= _) = _
    rw [valid]
    show (readDeadline (validateProof · request.key) (touched.proofs.lookup request.key) >>= _) = _
    rw [proof]
    show (if (ledger collections request.key).any (fun deadline => request.now < deadline) = true
      then _ else _) = _
    split
    · rfl
    · next dead =>
      show (readDeadline (fun row => (validateReservation row).map Prod.snd)
        (touched.capacity.lookup (reservationId request.key)) >>= _) = _
      rw [existing]
      show (if (ledger collections request.key).any (fun deadline => request.now < deadline) =
        true then _ else _) = _
      rw [if_neg dead, ← matched.isSome_reservation]
      show (store.reclaimAndInsert order touched touched.proofs.entries.length
        (ofRows ProofDocument.retainUntilMs touched.proofs request.key).isSome request.key
          request.deadline request.now >>= _) = _
      cases store.reclaimAndInsert order touched touched.proofs.entries.length
          (ofRows ProofDocument.retainUntilMs touched.proofs request.key).isSome request.key
          request.deadline request.now with
      | ok after | error error => rfl
  have member : request.key ∈ ((ledger collections).prune request.now).liveKeys ↔
      (ledger collections request.key).any (fun deadline => request.now < deadline) = true := by
    show ((ledger collections).prune request.now request.key).isSome = true ↔ _
    rw [prune, Option.isSome_filter]
  rw [unfolded, reserve_of_ahead (not_le.mpr ahead) near]
  by_cases live : (ledger collections request.key).any (fun deadline =>
      decide (request.now < deadline)) = true
  · rw [if_pos live, if_pos (member.mpr live)]
    exact Or.inl ⟨touched, .duplicate, rfl, kept, rfl, rfl⟩
  · rw [if_neg live, if_neg (mt member.mp live)]
    have dead : ∀ proof, touched.proofs.lookup request.key = some proof →
        proof.retainUntilMs ≤ request.now := by
      intro proof found
      have here : ledger collections request.key = some proof.retainUntilMs :=
        ofRows_eq_some.mpr ⟨proof, found, rfl⟩
      rw [here] at live
      simpa using live
    obtain ⟨full, room⟩ :=
      matched.reclaimedInsertion order counted coherent.within dead ahead safe
    by_cases crowded : ((ledger collections).prune request.now).liveKeys.ncard = store.maxEntries
    · right
      rw [full crowded, if_pos crowded]
      exact ⟨rfl, rfl⟩
    · left
      obtain ⟨after, done, joined, account, within, updated⟩ := room crowded
      rw [done, if_neg crowded]
      exact ⟨after, .reserved, rfl, ⟨joined, within, Or.inr ⟨revision, account, positive, few⟩⟩,
        updated, rfl⟩

/-- There are as many reservation rows as proofs. -/
theorem Matched.reservationRows (matched : Matched collections.proofs collections.capacity)
    (kind : ∀ row, collections.capacity.lookup capacityId = some row → row.kind = .capacity) :
    collections.reservationRows = collections.proofs.entries.length := by
  let rows := Rows.keep collections.capacity fun _ row => decide (row.kind = .reservation)
  have without : rows.lookup capacityId = none := by
    rw [Rows.lookup_keep]
    cases found : collections.capacity.lookup capacityId with
    | none => rfl
    | some row =>
      rw [Option.filter_some, kind row found]
      rfl
  have kept : Matched collections.proofs rows := by
    apply matched.without (fun _ => False)
    · intro replayKey
      rw [if_neg not_false]
    · intro replayKey
      rw [if_neg not_false, Rows.lookup_keep]
      cases found : collections.capacity.lookup (reservationId replayKey) with
      | none => rfl
      | some row =>
        obtain ⟨_, _, _, shape, _⟩ := matched.row_of_id found (reservationId_ne replayKey)
        rw [shape]
        rfl
    · intro id row found
      exact (Rows.lookup_keep_eq_some.mp found).1
  have counted := (kept.account (reservationRow "" 0)).size
    ((Rows.lookup_insert rows capacityId capacityId _).trans (if_pos rfl))
  rw [Rows.length_insert without] at counted
  exact Nat.succ.inj counted

/-- The counter is the number of reservation rows. -/
theorem Coherent.entriesCounter_eq (coherent : Coherent store calls collections) :
    collections.entriesCounter = collections.reservationRows := by
  rw [MongoCollections.entriesCounter]
  rcases coherent.account with fresh | counted
  · obtain ⟨nothing, none_, _⟩ := fresh
    have rows := coherent.matched.reservationRows (by
      intro row found
      rw [nothing] at found
      contradiction)
    rw [nothing, rows, none_]
    rfl
  · obtain ⟨revision, found, _, _⟩ := counted
    have rows := coherent.matched.reservationRows (by
      intro row found'
      rw [found, Option.some.injEq] at found'
      rw [← found']
      rfl)
    rw [found, rows]
    rfl

/-- One valid call of a store, where the database orders a sorted find. -/
def perform (store : MongoAttestationStore) (collections : MongoCollections)
    (call : ReserveCall × FindOrder) : MongoCollections × Except StoreError ReserveResult :=
  store.reserve call.2 collections call.1.replayKey (some call.1.retainUntilMs) none call.1.nowMs

theorem Coherent.perform (coherent : Coherent store (calls + 1) collections)
    (call : ReserveCall × FindOrder) :
    Coherent store calls (store.perform collections call).1 ∧
      (ledger (store.perform collections call).1).prune call.1.nowMs =
        ((ledger collections).reserve store.maxEntries overlong call.1.request).1 ∧
      sharedOutcome (store.perform collections call).2 =
        some ((ledger collections).reserve store.maxEntries overlong call.1.request).2 := by
  rw [MongoAttestationStore.perform, MongoAttestationStore.reserve, Option.some_or,
    MemoryAttestationStore.checkInput_call]
  by_cases past : call.1.retainUntilMs ≤ call.1.nowMs
  · rw [if_pos past, reserve_of_past past]
    exact ⟨coherent.fewer, rfl, rfl⟩
  · rw [if_neg past]
    by_cases far : overlong call.1.nowMs call.1.retainUntilMs = true
    · rw [if_pos far, reserve_of_far past far]
      exact ⟨coherent.fewer, rfl, rfl⟩
    · have near : overlong call.1.nowMs call.1.retainUntilMs = false := Bool.eq_false_iff.mpr far
      have transaction : store.transaction call.2 collections call.1.replayKey
          call.1.retainUntilMs call.1.nowMs =
            store.admission call.2 collections call.1.replayKey call.1.retainUntilMs
              call.1.nowMs := by
        rw [MongoAttestationStore.transaction, call.1.clockValid, if_neg (by decide),
          if_neg past, if_neg (of_decide_eq_false near)]
      rw [if_neg far]
      simp only [transaction]
      rcases coherent.admission call.2 (show call.1.request.now < _ from not_le.mp past) near
        (assertTimestampMs_ok call.1.deadlineValid) with committed | aborted
      · obtain ⟨after, result, done, kept, updated, answer⟩ := committed
        have done' : store.admission call.2 collections call.1.replayKey call.1.retainUntilMs
            call.1.nowMs = .ok (after, result) := done
        simp only [done']
        exact ⟨kept, updated, answer⟩
      · obtain ⟨failed, full⟩ := aborted
        have failed' : store.admission call.2 collections call.1.replayKey call.1.retainUntilMs
            call.1.nowMs = .error (.reserve .capacity) := failed
        simp only [failed', full]
        exact ⟨coherent.fewer, rfl, rfl⟩

/-- The collections of a store are a ledger of at most its number of live keys, as long as the
revision can count. -/
theorem implements_ledger (store : MongoAttestationStore) :
    Implements store.maxEntries overlong (fun call : ReserveCall × FindOrder => call.1.request)
      store.perform ledger sharedOutcome (Coherent store) where
  fits := by
    intro calls collections call fit
    exact (fit.perform call).1
  answers := by
    intro calls collections call fit
    exact (fit.perform call).2.2
  updates := by
    intro calls collections call fit
    exact (fit.perform call).2.1

end WebTsToolkit.RequestAttestation.MongoAttestationStore
