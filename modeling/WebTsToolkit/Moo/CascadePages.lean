import WebTsToolkit.Moo.CascadeSteps

set_option autoImplicit false

namespace WebTsToolkit.Moo.CascadeDelete

open Library KeysetPaging

variable {Id Row Err : Type} [LinearOrder Id] {context : Context Id Row}
  {traversal next : Traversal Id Row Err}

omit [LinearOrder Id] in
theorem read_append (journal : Journal Id Row Err) (page : PageRead Id Row) :
    ({ journal with pages := journal.pages ++ [page] } : Journal Id Row Err).read =
      journal.read ++ page.ids := by
  rw [Journal.read, List.flatMap_append, List.flatMap_singleton]
  rfl

omit [LinearOrder Id] in
/-- The rows that match, in the order of the collection. -/
theorem matching_nodup (context : Context Id Row) (collection : Collection Id Row) :
    ((collection.rows.filter fun row => context.filter row.1 row.2).map Prod.fst).Nodup :=
  collection.distinct.sublist (List.filter_sublist.map Prod.fst)

omit [LinearOrder Id] in
theorem mem_matching {rows : List (Id × Row)} {id : Id} :
    id ∈ (rows.filter fun row => context.filter row.1 row.2).map Prod.fst ↔
      ∃ row, (id, row) ∈ rows ∧ context.filter id row = true := by
  constructor
  · intro listed
    obtain ⟨⟨_, row⟩, member, rfl⟩ := List.mem_map.mp listed
    obtain ⟨stored, matching⟩ := List.mem_filter.mp member
    exact ⟨row, stored, matching⟩
  · rintro ⟨row, stored, matching⟩
    exact List.mem_map.mpr ⟨(id, row), List.mem_filter.mpr ⟨stored, matching⟩, rfl⟩

/-- The ids of a page come after those that were read. -/
theorem read_lt {lastId : Option Id} {read : List Id}
    (before : ∀ id ∈ read, isAfter lastId id = false) {earlier later : Id} (listed : earlier ∈ read)
    (after : isAfter lastId later = true) : earlier < later := by
  have behind := before earlier listed
  cases lastId with
  | none => cases behind
  | some last =>
    exact (not_lt.mp (of_decide_eq_false behind)).trans_lt (of_decide_eq_true after)

/-- Before and after a page the fresh ids are the first ones with their print. -/
theorem fresh_append (key : Id → String) {read ids : List Id} (seen : List String)
    (known : ∀ printed, printed ∈ seen ↔ ∃ id ∈ read, key id = printed)
    (increasing : ids.Pairwise (· < ·)) (after : ∀ earlier ∈ read, ∀ later ∈ ids, earlier < later)
    (id : Id) : Fresh key (read ++ ids) id ↔
      Fresh key read id ∨ id ∈ (freshBy key ids seen).1 := by
  constructor
  · rintro ⟨listed, alone⟩
    rcases List.mem_append.mp listed with old | new
    · exact .inl ⟨old, fun other member => alone other (List.mem_append_left _ member)⟩
    · refine .inr ((mem_freshBy key increasing seen new).mpr ⟨?_, ?_⟩)
      · intro printed
        obtain ⟨other, member, same⟩ := (known _).mp printed
        exact alone other (List.mem_append_left _ member) (after other member id new) same
      · exact fun other member => alone other (List.mem_append_right _ member)
  · rintro (⟨old, alone⟩ | fresh)
    · refine ⟨List.mem_append_left _ old, fun other member less => ?_⟩
      rcases List.mem_append.mp member with read | new
      · exact alone other read less
      · exact absurd less (lt_asymm (after id old other new))
    · have new := (freshBy_sublist key ids seen).subset fresh
      obtain ⟨unseen, alone⟩ := (mem_freshBy key increasing seen new).mp fresh
      refine ⟨List.mem_append_right _ new, fun other member less same => ?_⟩
      rcases List.mem_append.mp member with read | listed
      · exact unseen ((known _).mpr ⟨other, read, same⟩)
      · exact alone other listed less same

omit [LinearOrder Id] in
theorem effectiveConcurrency_pos (context : Context Id Row) : 0 < context.effectiveConcurrency := by
  rw [Context.effectiveConcurrency]
  split
  · exact Nat.one_pos
  · exact context.maxConcurrency_pos

/-- A page arrives in order, and the pool takes its fresh ids. -/
theorem receive_inv {lastId : Option Id} (inv : Inv context traversal)
    (phase : traversal.phase = .reading lastId) :
    Inv context (receive context lastId traversal) := by
  have at_ := inv.phase
  rw [PhaseOk, phase] at at_
  obtain ⟨quiet, unfailed, pending, before, steadyRead⟩ := at_
  have queue := inv.queue
  have started : traversal.journal.started ++ traversal.pool.pending =
      traversal.journal.started := by
    rw [pending, List.append_nil]
  have distinct := queue.distinct
  have fresh := queue.fresh
  rw [started] at distinct
  simp only [started] at fresh
  have silent : traversal.journal.failures = [] := by
    by_contra some
    rw [inv.failures.failed.mpr some] at unfailed
    cases unfailed
  generalize page : fetchDependentIdPage context traversal.collection.rows lastId = ids
  have apart := matching_nodup context traversal.collection
  have increasing : ids.Pairwise (· < ·) := by
    rw [← page]
    exact page_pairwise apart lastId context.batchSize
  have after : ∀ earlier ∈ traversal.journal.read, ∀ later ∈ ids, earlier < later := by
    intro earlier listed later member
    rw [← page] at member
    exact read_lt before listed (mem_of_mem_page member).2
  have matched : ∀ id ∈ ids,
      ∃ row, (id, row) ∈ traversal.collection.rows ∧ context.filter id row = true := by
    intro id member
    rw [← page] at member
    exact mem_matching.mp (mem_of_mem_page member).1
  -- a steady row that was not read is on the page, or after a full page
  have complete : ∀ id ∈ traversal.journal.steady, id ∈ traversal.journal.read ++ ids ∨
      ids.length = context.batchSize ∧ ∀ other ∈ ids, other < id := by
    intro id listed
    rcases steadyRead id listed with read | ahead
    · exact .inl (List.mem_append_left _ read)
    · by_cases removed : id ∈ traversal.journal.removed
      · have begun := inv.calls.started id (inv.calls.removed id removed)
        exact .inl (List.mem_append_left _ ((fresh id).mp begun).1)
      · have stored := mem_matching.mpr (inv.steady id listed removed)
        rw [← page]
        exact (page_complete apart stored ahead).imp_left fun member =>
          List.mem_append_right _ member
  have readOk {seen : List String}
      (known : ∀ printed, printed ∈ seen ↔
        ∃ id ∈ traversal.journal.read ++ ids, context.printed.key id = printed) :
      ReadOk context seen (traversal.journal.pages ++ [⟨traversal.collection.rows, ids⟩]) := by
    have all := read_append traversal.journal (.mk traversal.collection.rows ids)
    rw [Journal.read] at all
    refine ⟨?_, ?_, ?_⟩
    · rw [all]
      exact known
    · rw [all]
      exact List.pairwise_append.mpr ⟨inv.read.increasing, increasing, after⟩
    · intro entry listed
      rcases List.mem_append.mp listed with old | new
      · exact inv.read.matched entry old
      · rw [List.mem_singleton.mp new]
        exact matched
  rw [receive]
  dsimp only
  rw [page]
  split
  · next empty =>
    obtain rfl := List.isEmpty_iff.mp empty
    have all := read_append traversal.journal (.mk traversal.collection.rows [])
    refine { inv with
      read := readOk (by rw [List.append_nil]; exact inv.read.seen), queue := ?_, phase := ?_ }
    · rw [all, List.append_nil]
      exact queue
    · refine ⟨quiet, unfailed, pending, fun id listed => ?_⟩
      rw [all]
      rcases complete id listed with read | ⟨size, _⟩
      · exact read
      · have positive := context.batchSize_pos
        rw [← size] at positive
        cases positive
  · next filled =>
    have known (printed : String) :
        printed ∈ (freshBy context.printed.key ids traversal.seen).2 ↔
          ∃ id ∈ traversal.journal.read ++ ids, context.printed.key id = printed := by
      rw [mem_freshBy_seen, inv.read.seen]
      simp only [List.mem_append, or_and_right, exists_or]
      rfl
    obtain ⟨last, ends⟩ : ∃ last, ids.getLast? = some last := by
      cases ends : ids.getLast? with
      | none =>
        rw [List.getLast?_eq_none_iff] at ends
        exact absurd (ends ▸ rfl) filled
      | some last => exact ⟨last, rfl⟩
    obtain ⟨front, split⟩ := List.getLast?_eq_some_iff.mp ends
    have most : ∀ id ∈ ids, id ≤ last := by
      rw [split] at increasing ⊢
      intro id listed
      rcases List.mem_append.mp listed with early | same
      · exact le_of_lt ((List.pairwise_append.mp increasing).2.2 id early last
          List.mem_cons_self)
      · exact le_of_eq (List.mem_singleton.mp same)
    have lastListed : last ∈ ids := by
      rw [split]
      exact List.mem_append_right _ List.mem_cons_self
    let base : Traversal Id Row Err :=
      { traversal with
        seen := (freshBy context.printed.key ids traversal.seen).2
        phase := .deleting ids
        pool := ⟨(freshBy context.printed.key ids traversal.seen).1, 0, false, none, []⟩
        journal :=
          { traversal.journal with
            pages := traversal.journal.pages ++ [⟨traversal.collection.rows, ids⟩] } }
    have kept := freshBy_sublist context.printed.key ids traversal.seen
    have pool : PoolOk context base := by
      have idle (worker : Nat) (place : Worker Id Err) : base.workerAt worker ≠ some place := by
        intro here
        contradiction
      refine ⟨⟨?_, ?_⟩, inv.calls, fun worker _ id stage _ here => absurd here (idle _ _),
        fun worker id stage here => absurd here (idle _ _), ?_,
        fun worker here => absurd here (idle _ _), fun failed => by contradiction⟩
      · refine List.nodup_append.mpr ⟨distinct, ?_, ?_⟩
        · exact (increasing.imp ne_of_lt).sublist kept
        · intro early listed late new same
          have read := ((fresh early).mp listed).1
          exact absurd same (ne_of_lt (after early read late (kept.subset new)))
      · intro id
        rw [read_append, List.mem_append, fresh id]
        exact (fresh_append context.printed.key traversal.seen inv.read.seen increasing after
          id).symm
      · intro id listed
        rcases inv.crew.covered id listed with done | ⟨worker, stage, here⟩ | fails
        · exact .inl done
        · exact absurd here (quiet worker id stage)
        · rw [unfailed] at fails
          cases fails
    have failures : FailuresOk false none traversal.journal.failures := by
      rw [silent]
      exact ⟨iff_of_false Bool.false_ne_true fun some => some rfl, rfl⟩
    have rest : (∃ last, ids.getLast? = some last ∧
        (∀ id ∈ base.journal.read, id ≤ last) ∧
        ∀ id ∈ base.journal.steady, id ∈ base.journal.read ∨
          context.batchSize ≤ ids.length ∧ last < id) := by
      refine ⟨last, ends, ?_, ?_⟩
      · intro id listed
        rw [read_append] at listed
        rcases List.mem_append.mp listed with old | new
        · exact le_of_lt (after id old last lastListed)
        · exact most id new
      · intro id listed
        rw [read_append]
        exact (complete id listed).imp_right fun full =>
          ⟨le_of_eq full.1.symm, full.2 last lastListed⟩
    rw [runWithConcurrencyLimit]
    dsimp only
    split
    · next nothing =>
      exact {
        read := readOk known, queue := pool.queue, crew := pool.crew, calls := pool.calls
        steady := inv.steady, failures, limit := Nat.zero_le _
        phase := ⟨rest, fun _ => List.isEmpty_iff.mp nothing⟩ }
    · next something =>
      have positive := effectiveConcurrency_pos context
      obtain ⟨_, workers, _, same, spawned, length⟩ := spawn_ok
        (max 1 (min context.effectiveConcurrency
          (freshBy context.printed.key ids traversal.seen).1.length)) pool
      rw [same] at spawned ⊢
      simp only [base, List.length_nil] at length
      exact {
        read := readOk known, queue := spawned.queue, crew := spawned.crew
        calls := spawned.calls, steady := inv.steady, failures
        limit := by
          rw [length]
          omega
        phase := by
          refine ⟨rest, fun empty => ?_⟩
          have none_ : workers = [] := empty
          rw [none_, List.length_nil] at length
          omega }

end WebTsToolkit.Moo.CascadeDelete
