import Mathlib.Data.Finset.Card

set_option autoImplicit false

namespace WebTsToolkit.Library

variable {ι : Type} [DecidableEq ι]

/-- Permits in use, and the queue for the next ones. -/
@[ext]
structure PermitPool (ι : Type) where
  holders : Finset ι
  queue : List ι

namespace PermitPool

def acquire (limit : Nat) (pool : PermitPool ι) (one : ι) : PermitPool ι :=
  if pool.holders.card < limit then { pool with holders := insert one pool.holders }
  else { pool with queue := pool.queue ++ [one] }

/-- The permit goes to the head of the queue, or back to the pool. -/
def release (pool : PermitPool ι) (one : ι) : PermitPool ι :=
  match pool.queue with
  | [] => { pool with holders := pool.holders.erase one }
  | next :: rest => { holders := insert next (pool.holders.erase one), queue := rest }

/-- No more permits than the limit are in use, nobody waits while one is free, and nobody both
holds and waits, or waits twice. -/
structure Fair (limit : Nat) (pool : PermitPool ι) : Prop where
  bounded : pool.holders.card ≤ limit
  full : pool.queue ≠ [] → pool.holders.card = limit
  distinct : pool.queue.Nodup
  apart : ∀ one ∈ pool.queue, one ∉ pool.holders

variable {limit : Nat} {pool : PermitPool ι} {one : ι}

theorem card_release (held : one ∈ pool.holders) {next : ι} {rest : List ι}
    (waits : pool.queue = next :: rest) (fair : pool.Fair limit) :
    (pool.release one).holders.card = pool.holders.card := by
  have notHeld : next ∉ pool.holders.erase one := by
    intro member
    apply fair.apart next
    · rw [waits]
      exact List.mem_cons_self
    · exact Finset.mem_of_mem_erase member
  have shape : pool.release one =
      { holders := insert next (pool.holders.erase one), queue := rest } := by
    rw [release, waits]
  have some : 0 < pool.holders.card := Finset.card_pos.mpr ⟨one, held⟩
  rw [shape, Finset.card_insert_of_notMem notHeld, Finset.card_erase_of_mem held]
  omega

theorem Fair.acquire (fair : pool.Fair limit) (fresh : one ∉ pool.holders)
    (fresh' : one ∉ pool.queue) : (pool.acquire limit one).Fair limit := by
  by_cases free : pool.holders.card < limit
  · have nobody : pool.queue = [] := by
      by_contra waits
      have full := fair.full waits
      omega
    rw [PermitPool.acquire, if_pos free]
    constructor
    · show (insert one pool.holders).card ≤ limit
      rw [Finset.card_insert_of_notMem fresh]
      omega
    · intro waits
      exact absurd nobody waits
    · exact fair.distinct
    · intro other waits
      rw [nobody] at waits
      cases waits
  · rw [PermitPool.acquire, if_neg free]
    constructor
    · exact fair.bounded
    · intro _
      show pool.holders.card = limit
      have bounded := fair.bounded
      omega
    · apply List.nodup_append.mpr
      refine ⟨fair.distinct, List.nodup_singleton one, ?_⟩
      intro other waits last same
      rw [List.mem_singleton.mp same]
      rintro rfl
      exact fresh' waits
    · intro other waits
      rcases List.mem_append.mp waits with waits | last
      · exact fair.apart other waits
      · rwa [List.mem_singleton.mp last]

theorem Fair.release (fair : pool.Fair limit) (held : one ∈ pool.holders) :
    (pool.release one).Fair limit := by
  cases waits : pool.queue with
  | nil =>
    have shape : pool.release one = { pool with holders := pool.holders.erase one } := by
      rw [PermitPool.release, waits]
    rw [shape]
    constructor
    · exact (Finset.card_erase_le).trans fair.bounded
    · intro some
      exact absurd waits some
    · exact fair.distinct
    · intro other queued
      have nobody : other ∈ pool.queue := queued
      rw [waits] at nobody
      cases nobody
  | cons next rest =>
    have count := card_release held waits fair
    have full := fair.full (by rw [waits]; exact List.cons_ne_nil next rest)
    have distinct := fair.distinct
    rw [waits, List.nodup_cons] at distinct
    have shape : pool.release one =
        { holders := insert next (pool.holders.erase one), queue := rest } := by
      rw [PermitPool.release, waits]
    rw [shape] at count ⊢
    have same : (insert next (pool.holders.erase one)).card = pool.holders.card := count
    constructor
    · show (insert next (pool.holders.erase one)).card ≤ limit
      have bounded := fair.bounded
      omega
    · intro _
      show (insert next (pool.holders.erase one)).card = limit
      omega
    · exact distinct.2
    · intro other queued inside
      rcases Finset.mem_insert.mp inside with same | inside
      · rw [same] at queued
        exact distinct.1 queued
      · apply fair.apart other
        · rw [waits]
          exact List.mem_cons_of_mem next queued
        · exact Finset.mem_of_mem_erase inside

end PermitPool

end WebTsToolkit.Library
