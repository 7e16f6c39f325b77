import WebTsToolkit.Moo.CascadeInvariant

set_option autoImplicit false

namespace WebTsToolkit.Moo.CascadeDelete

open Library

variable {Id Row Err : Type} [LinearOrder Id] {context : Context Id Row}
  {traversal next : Traversal Id Row Err}

/-- A new worker is added at the end of the pool. -/
theorem dispatch_append (pool : PoolOk context traversal) : ∃ next worker started,
    dispatch (fun workers worker => workers ++ [worker]) traversal =
        { traversal with
          pool := { traversal.pool with next, workers := traversal.pool.workers ++ [worker] }
          journal := { traversal.journal with started } } ∧
      PoolOk context (dispatch (fun workers worker => workers ++ [worker]) traversal) := by
  have placed (worker : Worker Id Err) (other : Nat) :
      (traversal.pool.workers ++ [worker])[other]? =
        Function.update traversal.workerAt traversal.pool.workers.length (some worker) other := by
    by_cases same : other = traversal.pool.workers.length
    · rw [same, Function.update_self, List.getElem?_append_right (Nat.le_refl _), Nat.sub_self]
      rfl
    · rw [Function.update_of_ne same, Traversal.workerAt]
      rcases Nat.lt_or_gt_of_ne same with less | more
      · rw [List.getElem?_append_left less]
      · rw [List.getElem?_eq_none (by rw [List.length_append, List.length_singleton]; omega),
          List.getElem?_eq_none (Nat.le_of_lt more)]
  have vacant : Function.update traversal.workerAt traversal.pool.workers.length none =
      traversal.workerAt := by
    rw [Function.update_eq_self_iff, Traversal.workerAt, List.getElem?_eq_none (Nat.le_refl _)]
  have crew := pool.crew
  rw [← vacant] at crew
  exact dispatch_ok (fun workers worker => workers ++ [worker]) placed pool.queue pool.calls crew

theorem spawn_ok (count : Nat) (pool : PoolOk context traversal) : ∃ next workers started,
    spawn count traversal =
        { traversal with
          pool := { traversal.pool with next, workers }
          journal := { traversal.journal with started } } ∧
      PoolOk context (spawn count traversal) ∧
        workers.length = traversal.pool.workers.length + count := by
  induction count generalizing traversal with
  | zero => exact ⟨_, _, _, rfl, pool, rfl⟩
  | succ count ih =>
    obtain ⟨next, worker, started, same, appended⟩ := dispatch_append pool
    obtain ⟨next', workers, started', same', spawned, length⟩ := ih appended
    refine ⟨next', workers, started', ?_, spawned, ?_⟩
    · rw [spawn, same', same]
    · rw [length, same, List.length_append, List.length_singleton]
      omega

variable {worker : Nat} {id : Id} {stage : Stage} {collection : Collection Id Row}

/-- While a deletion is in flight the traversal awaits its pool, or has thrown a failure. -/
theorem PhaseOk.keep (phase : PhaseOk context traversal)
    (found : traversal.workerAt worker = some (.working id stage))
    (same : next.phase = traversal.phase) (pages : next.journal.pages = traversal.journal.pages)
    (steady : next.journal.steady = traversal.journal.steady)
    (head : ∀ error, traversal.journal.failures.head? = some error →
      next.journal.failures.head? = some error) (staffed : next.pool.workers ≠ []) :
    PhaseOk context next := by
  rw [PhaseOk] at phase ⊢
  rw [same]
  cases stands : traversal.phase with
  | reading lastId | returned =>
    rw [stands] at phase
    exact absurd found (phase.1 worker id stage)
  | deleting ids =>
    rw [stands] at phase
    dsimp only
    rw [Journal.read, pages, steady]
    exact ⟨phase.1, fun empty => absurd empty staffed⟩
  | thrown error =>
    rw [stands] at phase
    rcases phase with first | ⟨_, quiet⟩
    · exact .inl (head error first)
    · exact absurd found (quiet worker id stage)

omit [LinearOrder Id] in
theorem set_ne_nil (found : traversal.workerAt worker = some (.working id stage))
    (value : Worker Id Err) : traversal.pool.workers.set worker value ≠ [] := by
  intro empty
  have within := (List.getElem?_eq_some_iff.mp found).1
  have length := congrArg List.length empty
  rw [List.length_set, List.length_nil] at length
  omega

omit [LinearOrder Id] in
theorem getElem?_set_worker (found : traversal.workerAt worker = some (.working id stage))
    (value : Worker Id Err) (other : Nat) : (traversal.pool.workers.set worker value)[other]? =
      Function.update traversal.workerAt worker (some value) other := by
  have within := (List.getElem?_eq_some_iff.mp found).1
  by_cases same : other = worker
  · rw [same, Function.update_self, List.getElem?_set_self within]
  · rw [Function.update_of_ne same, List.getElem?_set_ne fun eq => same eq.symm]
    rfl

omit [LinearOrder Id] in
theorem workerAt_set (found : traversal.workerAt worker = some (.working id stage))
    (value : Worker Id Err) : (fun other => (traversal.pool.workers.set worker value)[other]?) =
      Function.update traversal.workerAt worker (some value) :=
  funext (getElem?_set_worker found value)

/-- A worker whose deletion has ended runs on. -/
theorem finish_inv (inv : Inv context traversal)
    (found : traversal.workerAt worker = some (.working id stage))
    (removes : id ∈ traversal.journal.steady → id ∈ traversal.journal.removed) :
    Inv context (finish traversal worker id) := by
  let ended : Traversal Id Row Err :=
    { traversal with
      journal := { traversal.journal with finished := traversal.journal.finished ++ [id] } }
  have calls : CallsOk ended.journal.started ended.journal.calls ended.journal.removed
      ended.journal.finished ended.journal.steady := by
    refine { inv.calls with finished := fun other listed steady => ?_ }
    rcases List.mem_append.mp listed with old | same
    · exact inv.calls.finished other old steady
    · rw [List.mem_singleton.mp same] at steady ⊢
      exact removes steady
  have here : ended.workerAt worker = some (.working id stage) := found
  obtain ⟨later, value, started, same, pool⟩ := dispatch_ok
    (fun workers next => workers.set worker next) (getElem?_set_worker here) inv.queue calls
    (inv.crew.vacate found)
  rw [finish]
  rw [same] at pool ⊢
  exact { inv with
    queue := pool.queue, crew := pool.crew, calls := pool.calls
    limit := List.length_set.trans_le inv.limit
    phase := inv.phase.keep found rfl rfl rfl (fun _ first => first) (set_ne_nil found value) }

/-- A worker goes on within its deletion. -/
theorem stage_inv {stage' : Stage} {calls removed : List Id} (inv : Inv context traversal)
    (found : traversal.workerAt worker = some (.working id stage))
    (placed : Working traversal.journal.started calls removed traversal.journal.steady id stage')
    (kept : ∀ other ≠ id, ∀ stage, Working traversal.journal.started traversal.journal.calls
      traversal.journal.removed traversal.journal.steady other stage →
        Working traversal.journal.started calls removed traversal.journal.steady other stage)
    (callsOk : CallsOk traversal.journal.started calls removed traversal.journal.finished
      traversal.journal.steady)
    (steady : SteadyOk context collection removed traversal.journal.steady) :
    Inv context
      { setStage traversal worker id stage' with
        collection, journal := { traversal.journal with calls, removed } } := by
  have crew := inv.crew.restage found placed kept
  rw [← workerAt_set found] at crew
  exact { inv with
    crew, calls := callsOk, steady
    limit := List.length_set.trans_le inv.limit
    phase := inv.phase.keep found rfl rfl rfl (fun _ first => first) (set_ne_nil found _) }

theorem restage_inv {stage stage' : Stage} (inv : Inv context traversal)
    (found : traversal.workerAt worker = some (.working id stage))
    (called : id ∈ traversal.journal.calls ↔ stage' = .deleting ∨ stage' = .removed)
    (removes : stage' = .removed → id ∈ traversal.journal.steady →
      id ∈ traversal.journal.removed) : Inv context (setStage traversal worker id stage') :=
  stage_inv inv found ⟨(inv.crew.working worker id stage found).started, called, removes⟩
    (fun _ _ _ ok => ok) inv.calls inv.steady

/-- The delete call of a document is its first. -/
theorem callDelete_inv (inv : Inv context traversal)
    (found : traversal.workerAt worker = some (.working id stage))
    (before : stage = .loading ∨ stage = .binding) :
    Inv context (callDelete traversal worker id) := by
  have ok := inv.crew.working worker id stage found
  have uncalled : id ∉ traversal.journal.calls := by
    rw [ok.called]
    rcases before with rfl | rfl <;> simp
  refine stage_inv inv found ⟨ok.started, by simp, nofun⟩ ?_ ?_ inv.steady
  · intro other differs stage others
    exact { others with called := by simpa [setStage, differs] using others.called }
  · refine { inv.calls with once := ?_, started := ?_, removed := ?_ }
    · refine List.nodup_append.mpr ⟨inv.calls.once, List.nodup_singleton _, ?_⟩
      intro first listed second same
      rw [List.mem_singleton.mp same]
      rintro rfl
      exact uncalled listed
    · intro other listed
      rcases List.mem_append.mp listed with old | same
      · exact inv.calls.started other old
      · rw [List.mem_singleton.mp same]
        exact ok.started
    · exact fun other listed => List.mem_append_left _ (inv.calls.removed other listed)

omit [LinearOrder Id] in
theorem holds_of_mem [DecidableEq Id] {row : Row} (member : (id, row) ∈ collection.rows) :
    collection.holds id = true :=
  List.any_eq_true.mpr ⟨(id, row), member, decide_eq_true rfl⟩

omit [LinearOrder Id] in
theorem mem_erase [DecidableEq Id] {id other : Id} {row : Row}
    (member : (other, row) ∈ collection.rows) (differs : other ≠ id) :
    (other, row) ∈ (collection.erase id).rows :=
  List.mem_filter.mpr ⟨member, decide_eq_true differs⟩

/-- A row that is gone was removed, or is not steady. -/
theorem removed_of_absent (inv : Inv context traversal)
    (absent : traversal.collection.holds id ≠ true) (steady : id ∈ traversal.journal.steady) :
    id ∈ traversal.journal.removed := by
  by_contra kept
  obtain ⟨row, member, _⟩ := inv.steady id steady kept
  exact absent (holds_of_mem member)

/-- The delete call removes the row where it is still there. -/
theorem removes_inv (inv : Inv context traversal)
    (found : traversal.workerAt worker = some (.working id .deleting)) :
    Inv context
      { setStage traversal worker id .removed with
        collection := traversal.collection.erase id
        journal := { traversal.journal with removed := traversal.journal.removed ++ [id] } } := by
  have ok := inv.crew.working worker id .deleting found
  have called : id ∈ traversal.journal.calls := ok.called.mpr (.inl rfl)
  refine stage_inv inv found ⟨ok.started, iff_of_true called (.inr rfl), fun _ _ =>
    List.mem_append_right _ List.mem_cons_self⟩ ?_ ?_ ?_
  · exact fun other _ stage others => { others with
      removes := fun gone steady => List.mem_append_left _ (others.removes gone steady) }
  · refine { inv.calls with removed := ?_, finished := ?_ }
    · intro other listed
      rcases List.mem_append.mp listed with old | same
      · exact inv.calls.removed other old
      · rw [List.mem_singleton.mp same]
        exact called
    · exact fun other listed steady =>
        List.mem_append_left _ (inv.calls.finished other listed steady)
  · intro other steady kept
    rw [List.mem_append, not_or, List.mem_singleton] at kept
    obtain ⟨row, member, matching⟩ := inv.steady other steady kept.1
    exact ⟨row, mem_erase member kept.2, matching⟩

/-- The first failure is the one that is kept. -/
theorem fail_inv (inv : Inv context traversal)
    (found : traversal.workerAt worker = some (.working id stage)) (error : Err) :
    Inv context (fail traversal worker error) := by
  have crew := inv.crew.reject worker error
  rw [← workerAt_set found] at crew
  have failed := inv.failures.failed
  have first := inv.failures.first
  refine { inv with
    crew, failures := ?_, limit := List.length_set.trans_le inv.limit
    phase := inv.phase.keep found rfl rfl rfl ?_ (set_ne_nil found _) }
  · refine ⟨iff_of_true rfl (by simp [fail]), ?_⟩
    dsimp only [fail]
    split
    · next fails => rw [first, List.head?_append_of_ne_nil _ (failed.mp fails)]
    · next silent =>
      rw [not_iff_not.mpr failed, not_not] at silent
      rw [silent]
      rfl
  · intro other first
    rw [fail, List.head?_append, first]
    rfl

/-- Another client can only make fewer rows steady. -/
theorem shrink_inv {steady : List Id} (inv : Inv context traversal)
    (fewer : ∀ id ∈ steady, id ∈ traversal.journal.steady)
    (kept : SteadyOk context collection traversal.journal.removed steady) :
    Inv context
      { traversal with
        collection := collection
        journal := { traversal.journal with steady := steady } } where
  __ := inv
  crew := inv.crew.fewer fewer
  calls := { inv.calls with
    finished := fun id listed here => inv.calls.finished id listed (fewer id here) }
  steady := kept
  phase := by
    have phase := inv.phase
    rw [PhaseOk] at phase ⊢
    dsimp only
    cases stands : traversal.phase with
    | reading lastId =>
      rw [stands] at phase
      exact ⟨phase.1, phase.2.1, phase.2.2.1, phase.2.2.2.1,
        fun id listed => phase.2.2.2.2 id (fewer id listed)⟩
    | deleting ids =>
      rw [stands] at phase
      obtain ⟨⟨last, ends, most, rest⟩, staffed⟩ := phase
      exact ⟨⟨last, ends, most, fun id listed => rest id (fewer id listed)⟩, staffed⟩
    | returned =>
      rw [stands] at phase
      exact ⟨phase.1, phase.2.1, phase.2.2.1, fun id listed => phase.2.2.2 id (fewer id listed)⟩
    | thrown error =>
      rw [stands] at phase
      exact phase

theorem disturb_eq (journal : Journal Id Row Err) (id : Id) :
    ∃ steady : List Id, journal.disturb id = { journal with steady := steady } ∧
      (∀ other ∈ steady, other ∈ journal.steady) ∧
      ∀ other ∈ steady, other ∉ journal.removed → other ≠ id := by
  rw [Journal.disturb]
  split
  · next removed =>
    refine ⟨journal.steady, rfl, fun _ listed => listed, ?_⟩
    rintro other _ kept rfl
    exact kept removed
  · refine ⟨_, rfl, fun other listed => (List.mem_filter.mp listed).1, ?_⟩
    intro other listed _
    exact of_decide_eq_true (List.mem_filter.mp listed).2

theorem erased_inv (inv : Inv context traversal) (id : Id) :
    Inv context
      { traversal with
        collection := traversal.collection.erase id
        journal := traversal.journal.disturb id } := by
  obtain ⟨steady, same, fewer, differs⟩ := disturb_eq traversal.journal id
  rw [same]
  refine shrink_inv inv fewer ?_
  intro other listed kept
  obtain ⟨row, member, matching⟩ := inv.steady other (fewer other listed) kept
  exact ⟨row, mem_erase member (differs other listed kept), matching⟩

theorem written_inv (inv : Inv context traversal) (id : Id) (row : Row) :
    Inv context
      { traversal with
        collection := traversal.collection.put id row
        journal :=
          if context.filter id row then traversal.journal else traversal.journal.disturb id } := by
  split
  · next matching =>
    have all : ∀ id ∈ traversal.journal.steady, id ∈ traversal.journal.steady :=
      fun _ listed => listed
    refine shrink_inv inv all ?_
    intro other listed kept
    by_cases same : other = id
    · rw [same]
      exact ⟨row, List.mem_cons_self, matching⟩
    · obtain ⟨old, member, matching⟩ := inv.steady other listed kept
      exact ⟨old, List.mem_cons_of_mem _ (mem_erase member same), matching⟩
  · obtain ⟨steady, same, fewer, differs⟩ := disturb_eq traversal.journal id
    rw [same]
    refine shrink_inv inv fewer ?_
    intro other listed kept
    obtain ⟨old, member, matching⟩ := inv.steady other (fewer other listed) kept
    exact ⟨old, List.mem_cons_of_mem _ (mem_erase member (differs other listed kept)), matching⟩

/-- The pool is done when each of its workers has returned. -/
theorem join_inv {ids : List Id} (inv : Inv context traversal)
    (phase : traversal.phase = .deleting ids)
    (accepted : traversal.pool.workers.any isRejected = false)
    (done : traversal.pool.workers.all isReturned = true) :
    Inv context (afterPage context ids traversal) := by
  have at_ := inv.phase
  rw [PhaseOk, phase] at at_
  obtain ⟨⟨last, ends, most, rest⟩, staffed⟩ := at_
  have quiet : Quiet traversal := by
    intro worker id stage here
    have listed := List.mem_of_getElem? here
    have returned := List.all_eq_true.mp done _ listed
    cases returned
  have unfailed : traversal.pool.failed = false := by
    cases fails : traversal.pool.failed with
    | false => rfl
    | true =>
      obtain ⟨worker, error, here⟩ := inv.crew.rejected fails
      have any := List.any_eq_false.mp accepted _ (List.mem_of_getElem? here)
      exact absurd rfl any
  have pending : traversal.pool.pending = [] := by
    cases workers : traversal.pool.workers with
    | nil => exact staffed workers
    | cons first others =>
      have listed : first ∈ traversal.pool.workers := by
        rw [workers]
        exact List.mem_cons_self
      have returned := List.all_eq_true.mp done first listed
      cases first with
      | returned =>
        have here : traversal.workerAt 0 = some .returned := by
          rw [Traversal.workerAt, workers]
          rfl
        rcases inv.crew.returned 0 here with fails | exhausted
        · rw [unfailed] at fails
          cases fails
        · exact List.drop_eq_nil_of_le exhausted
      | _ => cases returned
  rw [afterPage]
  split
  · next short =>
    refine { inv with phase := ⟨quiet, unfailed, pending, fun id listed => ?_⟩ }
    rcases rest id listed with read | ⟨full, _⟩
    · exact read
    · omega
  · next full =>
    refine { inv with phase := ?_ }
    rw [PhaseOk, ends]
    refine ⟨quiet, unfailed, pending, fun id listed => ?_, fun id listed => ?_⟩
    · exact decide_eq_false (not_lt.mpr (most id listed))
    · exact (rest id listed).imp_right fun more => decide_eq_true more.2

end WebTsToolkit.Moo.CascadeDelete
