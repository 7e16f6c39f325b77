import WebTsToolkit.Moo.CascadeDelete

set_option autoImplicit false

namespace WebTsToolkit.Moo.CascadeDelete

open Library

variable {Id Row Err : Type}

/-- A worker is within the deletion of an id. -/
structure Working (started calls removed steady : List Id) (id : Id) (stage : Stage) : Prop where
  started : id ∈ started
  called : id ∈ calls ↔ stage = .deleting ∨ stage = .removed
  removes : stage = .removed → id ∈ steady → id ∈ removed

/-- The deletions that workers are at; `exhausted` says that no item is left to take. -/
structure CrewOk (started calls removed finished steady : List Id)
    (workers : Nat → Option (Worker Id Err)) (failed : Bool) (exhausted : Prop) : Prop where
  apart : ∀ worker other id stage stage', workers worker = some (.working id stage) →
    workers other = some (.working id stage') → worker = other
  working : ∀ worker id stage, workers worker = some (.working id stage) →
    Working started calls removed steady id stage
  covered : ∀ id ∈ started, id ∈ finished ∨
    (∃ worker stage, workers worker = some (.working id stage)) ∨ failed = true
  returned : ∀ worker, workers worker = some .returned → failed = true ∨ exhausted
  rejected : failed = true → ∃ worker error, workers worker = some (.rejected error)

section Crew

variable {started calls removed finished steady : List Id}
  {workers : Nat → Option (Worker Id Err)} {failed : Bool} {exhausted : Prop} {slot : Nat} {id : Id}
  {stage : Stage}

/-- Fewer rows may be steady. -/
theorem CrewOk.fewer {fewer : List Id} (less : ∀ id ∈ fewer, id ∈ steady)
    (crew : CrewOk started calls removed finished steady workers failed exhausted) :
    CrewOk started calls removed finished fewer workers failed exhausted where
  __ := crew
  working worker id stage here :=
    have ok := crew.working worker id stage here
    { ok with removes := fun gone listed => ok.removes gone (less id listed) }

/-- What is left to cover, but for the deletion at one place. -/
theorem CrewOk.elsewhere
    (crew : CrewOk started calls removed finished steady workers failed exhausted) (slot : Nat)
    (listed : id ∈ started) : id ∈ finished ∨ (∃ stage, workers slot = some (.working id stage)) ∨
      failed = true ∨ ∃ worker ≠ slot, ∃ stage, workers worker = some (.working id stage) := by
  rcases crew.covered id listed with done | ⟨worker, stage, here⟩ | fails
  · exact .inl done
  · by_cases same : worker = slot
    · rw [same] at here
      exact .inr (.inl ⟨stage, here⟩)
    · exact .inr (.inr (.inr ⟨worker, same, stage, here⟩))
  · exact .inr (.inr (.inl fails))

/-- A place changes, and the other workers go on. -/
theorem CrewOk.assign {started' calls' removed' finished' steady' : List Id} {failed' : Bool}
    {exhausted' : Prop} {value : Option (Worker Id Err)}
    (crew : CrewOk started calls removed finished steady workers failed exhausted)
    (placed : ∀ id stage, value = some (.working id stage) →
      Working started' calls' removed' steady' id stage ∧
        ∀ worker ≠ slot, ∀ stage', workers worker ≠ some (.working id stage'))
    (kept : ∀ worker ≠ slot, ∀ id stage, workers worker = some (.working id stage) →
      Working started' calls' removed' steady' id stage)
    (covered : ∀ id ∈ started', id ∈ finished' ∨ (∃ stage, value = some (.working id stage)) ∨
      failed' = true ∨ ∃ worker ≠ slot, ∃ stage, workers worker = some (.working id stage))
    (returned : value = some .returned ∨ failed = true ∨ exhausted → failed' = true ∨ exhausted')
    (rejected : failed' = true → (∃ error, value = some (.rejected error)) ∨
      failed = true ∧ ∀ error, workers slot ≠ some (.rejected error)) :
    CrewOk started' calls' removed' finished' steady' (Function.update workers slot value) failed'
      exhausted' := by
  have at_ {worker : Nat} {here : Worker Id Err}
      (found : Function.update workers slot value worker = some here) :
      worker = slot ∧ value = some here ∨ worker ≠ slot ∧ workers worker = some here := by
    by_cases same : worker = slot
    · rw [same, Function.update_self] at found
      exact .inl ⟨same, found⟩
    · rw [Function.update_of_ne same] at found
      exact .inr ⟨same, found⟩
  refine ⟨?_, ?_, ?_, ?_, ?_⟩
  · intro worker other id stage stage' here there
    rcases at_ here with ⟨first, same⟩ | ⟨away, here⟩
    · rcases at_ there with ⟨second, _⟩ | ⟨away, there⟩
      · exact first.trans second.symm
      · exact absurd there ((placed id stage same).2 other away stage')
    · rcases at_ there with ⟨_, same⟩ | ⟨_, there⟩
      · exact absurd here ((placed id stage' same).2 worker away stage)
      · exact crew.apart worker other id stage stage' here there
  · intro worker id stage here
    rcases at_ here with ⟨_, same⟩ | ⟨away, here⟩
    · exact (placed id stage same).1
    · exact kept worker away id stage here
  · intro id listed
    rcases covered id listed with done | ⟨stage, same⟩ | fails | ⟨worker, away, stage, here⟩
    · exact .inl done
    · exact .inr (.inl ⟨slot, stage, by rw [Function.update_self, same]⟩)
    · exact .inr (.inr fails)
    · exact .inr (.inl ⟨worker, stage, by rw [Function.update_of_ne away, here]⟩)
  · intro worker here
    rcases at_ here with ⟨_, same⟩ | ⟨_, here⟩
    · exact returned (.inl same)
    · exact returned (.inr (crew.returned worker here))
  · intro fails
    rcases rejected fails with ⟨error, same⟩ | ⟨before, elsewhere⟩
    · exact ⟨slot, error, by rw [Function.update_self, same]⟩
    · obtain ⟨worker, error, here⟩ := crew.rejected before
      refine ⟨worker, error, ?_⟩
      rw [Function.update_of_ne, here]
      rintro rfl
      exact elsewhere error here

/-- The worker of a deletion that has ended leaves its place. -/
theorem CrewOk.vacate
    (crew : CrewOk started calls removed finished steady workers failed exhausted)
    (found : workers slot = some (.working id stage)) :
    CrewOk started calls removed (finished ++ [id]) steady (Function.update workers slot none)
      failed exhausted := by
  refine crew.assign nofun (fun worker _ => crew.working worker) ?_
    (fun ends => ends.resolve_left nofun) fun fails => .inr ⟨fails, by rw [found]; nofun⟩
  intro other listed
  rcases crew.elsewhere slot listed with done | ⟨stage', here⟩ | rest
  · exact .inl (List.mem_append_left _ done)
  · rw [found] at here
    cases here
    exact .inl (List.mem_append_right _ List.mem_cons_self)
  · exact .inr (.inr rest)

/-- A worker takes an item. -/
theorem CrewOk.occupy
    (crew : CrewOk started calls removed finished steady workers failed exhausted)
    (free : workers slot = none) (new : id ∉ started) (uncalled : id ∉ calls) (later : Prop)
    (exhausts : exhausted → later) :
    CrewOk (started ++ [id]) calls removed finished steady
      (Function.update workers slot (some (.working id .loading))) failed later := by
  refine crew.assign ?_ ?_ ?_ (fun ends => (ends.resolve_left nofun).imp_right exhausts)
    fun fails => .inr ⟨fails, by rw [free]; nofun⟩
  · rintro _ _ ⟨⟩
    refine ⟨⟨List.mem_append_right _ List.mem_cons_self, iff_of_false uncalled nofun, nofun⟩, ?_⟩
    exact fun worker _ stage here => new (crew.working worker id stage here).started
  · intro worker _ other stage here
    have ok := crew.working worker other stage here
    exact { ok with started := List.mem_append_left _ ok.started }
  · intro other listed
    rcases List.mem_append.mp listed with old | same
    · rcases crew.elsewhere slot old with done | ⟨stage, here⟩ | rest
      · exact .inl done
      · rw [free] at here
        cases here
      · exact .inr (.inr rest)
    · rw [List.mem_singleton.mp same]
      exact .inr (.inl ⟨.loading, rfl⟩)

/-- A worker that finds no item, or a failure, returns. -/
theorem CrewOk.retire
    (crew : CrewOk started calls removed finished steady workers failed exhausted)
    (free : workers slot = none) (later : Prop) (ended : failed = true ∨ later) :
    CrewOk started calls removed finished steady (Function.update workers slot (some .returned))
      failed later := by
  refine crew.assign nofun (fun worker _ => crew.working worker) ?_ (fun _ => ended)
    fun fails => .inr ⟨fails, by rw [free]; nofun⟩
  intro other listed
  rcases crew.elsewhere slot listed with done | ⟨stage, here⟩ | rest
  · exact .inl done
  · rw [free] at here
    cases here
  · exact .inr (.inr rest)

/-- A worker goes on within its deletion. -/
theorem CrewOk.restage {calls' removed' : List Id} {stage' : Stage}
    (crew : CrewOk started calls removed finished steady workers failed exhausted)
    (found : workers slot = some (.working id stage))
    (placed : Working started calls' removed' steady id stage')
    (kept : ∀ other ≠ id, ∀ stage, Working started calls removed steady other stage →
      Working started calls' removed' steady other stage) :
    CrewOk started calls' removed' finished steady
      (Function.update workers slot (some (.working id stage'))) failed exhausted := by
  refine crew.assign ?_ ?_ ?_ (fun ends => ends.resolve_left nofun)
    fun fails => .inr ⟨fails, by rw [found]; nofun⟩
  · rintro _ _ ⟨⟩
    exact ⟨placed, fun worker away stage here => away (crew.apart _ _ _ _ _ here found)⟩
  · intro worker away other stage here
    refine kept other ?_ stage (crew.working worker other stage here)
    rintro rfl
    exact away (crew.apart _ _ _ _ _ here found)
  · intro other listed
    rcases crew.elsewhere slot listed with done | ⟨stage, here⟩ | rest
    · exact .inl done
    · rw [found] at here
      cases here
      exact .inr (.inl ⟨stage', rfl⟩)
    · exact .inr (.inr rest)

/-- A worker whose deletion fails rejects. -/
theorem CrewOk.reject
    (crew : CrewOk started calls removed finished steady workers failed exhausted)
    (slot : Nat) (error : Err) :
    CrewOk started calls removed finished steady
      (Function.update workers slot (some (.rejected error))) true exhausted :=
  crew.assign nofun (fun worker _ => crew.working worker) (fun _ _ => .inr (.inr (.inl rfl)))
    (fun _ => .inl rfl) fun _ => .inl ⟨error, rfl⟩

end Crew

variable [LinearOrder Id] {context : Context Id Row} {traversal next : Traversal Id Row Err}

/-- An id that was read, and before which none was read that prints like it. -/
def Fresh (key : Id → String) (read : List Id) (id : Id) : Prop :=
  id ∈ read ∧ ∀ other ∈ read, other < id → key other ≠ key id

/-- The items that no worker has taken. -/
def Pool.pending (pool : Pool Id Err) : List Id :=
  pool.items.drop pool.next

/-- What was read. -/
structure ReadOk (context : Context Id Row) (seen : List String) (pages : List (PageRead Id Row)) :
    Prop where
  seen : ∀ key, key ∈ seen ↔ ∃ id ∈ pages.flatMap PageRead.ids, context.printed.key id = key
  increasing : (pages.flatMap PageRead.ids).Pairwise (· < ·)
  matched : ∀ page ∈ pages, ∀ id ∈ page.ids,
    ∃ row, (id, row) ∈ page.rows ∧ context.filter id row = true

/-- What was started and what is still to start are the fresh ids. -/
structure QueueOk (context : Context Id Row) (started pending read : List Id) : Prop where
  distinct : (started ++ pending).Nodup
  fresh : ∀ id, id ∈ started ++ pending ↔ Fresh context.printed.key read id

def Traversal.workerAt (traversal : Traversal Id Row Err) (worker : Nat) :
    Option (Worker Id Err) :=
  traversal.pool.workers[worker]?

/-- No item is left to take. -/
def Pool.Exhausted (pool : Pool Id Err) : Prop :=
  pool.items.length ≤ pool.next

/-- The delete calls. -/
structure CallsOk (begun calls gone ended steady : List Id) : Prop where
  once : calls.Nodup
  started : ∀ id ∈ calls, id ∈ begun
  removed : ∀ id ∈ gone, id ∈ calls
  finished : ∀ id ∈ ended, id ∈ steady → id ∈ gone

/-- The rows that no other client touched are there until they are removed. -/
def SteadyOk (context : Context Id Row) (collection : Collection Id Row)
    (removed steady : List Id) : Prop :=
  ∀ id ∈ steady, id ∉ removed →
    ∃ row, (id, row) ∈ collection.rows ∧ context.filter id row = true

/-- The failures of the pool. -/
structure FailuresOk (failed : Bool) (firstError : Option Err) (failures : List Err) : Prop where
  failed : failed = true ↔ failures ≠ []
  first : firstError = failures.head?

/-- No deletion is in flight. -/
def Quiet (traversal : Traversal Id Row Err) : Prop :=
  ∀ worker id stage, traversal.workerAt worker ≠ some (.working id stage)

/-- Where the traversal is. -/
def PhaseOk (context : Context Id Row) (traversal : Traversal Id Row Err) : Prop :=
  match traversal.phase with
  | .reading lastId =>
    Quiet traversal ∧ traversal.pool.failed = false ∧ traversal.pool.pending = [] ∧
      (∀ id ∈ traversal.journal.read, KeysetPaging.isAfter lastId id = false) ∧
      ∀ id ∈ traversal.journal.steady,
        id ∈ traversal.journal.read ∨ KeysetPaging.isAfter lastId id = true
  | .deleting ids =>
    (∃ last, ids.getLast? = some last ∧ (∀ id ∈ traversal.journal.read, id ≤ last) ∧
      ∀ id ∈ traversal.journal.steady, id ∈ traversal.journal.read ∨
        context.batchSize ≤ ids.length ∧ last < id) ∧
    (traversal.pool.workers = [] → traversal.pool.pending = [])
  | .returned =>
    Quiet traversal ∧ traversal.pool.failed = false ∧ traversal.pool.pending = [] ∧
      ∀ id ∈ traversal.journal.steady, id ∈ traversal.journal.read
  | .thrown error =>
    traversal.journal.failures.head? = some error ∨
      traversal.journal.failures = [] ∧ Quiet traversal

structure Inv (context : Context Id Row) (traversal : Traversal Id Row Err) : Prop where
  read : ReadOk context traversal.seen traversal.journal.pages
  queue : QueueOk context traversal.journal.started traversal.pool.pending traversal.journal.read
  crew : CrewOk traversal.journal.started traversal.journal.calls traversal.journal.removed
    traversal.journal.finished traversal.journal.steady traversal.workerAt traversal.pool.failed
    traversal.pool.Exhausted
  calls : CallsOk traversal.journal.started traversal.journal.calls traversal.journal.removed
    traversal.journal.finished traversal.journal.steady
  steady : SteadyOk context traversal.collection traversal.journal.removed traversal.journal.steady
  failures : FailuresOk traversal.pool.failed traversal.pool.firstError traversal.journal.failures
  limit : traversal.pool.workers.length ≤ context.effectiveConcurrency
  phase : PhaseOk context traversal

omit [LinearOrder Id] in
/-- A worker that runs on takes the next item, or returns. -/
theorem dispatch_cases (place : List (Worker Id Err) → Worker Id Err → List (Worker Id Err))
    (traversal : Traversal Id Row Err) :
    (∃ id, traversal.pool.failed = false ∧
      traversal.pool.pending = id :: traversal.pool.items.drop (traversal.pool.next + 1) ∧
      dispatch place traversal =
        { traversal with
          pool :=
            { traversal.pool with
              next := traversal.pool.next + 1
              workers := place traversal.pool.workers (.working id .loading) }
          journal := { traversal.journal with started := traversal.journal.started ++ [id] } }) ∨
    ∃ later, (traversal.pool.failed = true ∨ traversal.pool.items.length ≤ later) ∧
      traversal.pool.items.drop later = traversal.pool.pending ∧
      dispatch place traversal =
        { traversal with
          pool :=
            { traversal.pool with
              next := later
              workers := place traversal.pool.workers .returned } } := by
  cases failed : traversal.pool.failed with
  | true =>
    refine .inr ⟨traversal.pool.next, .inl rfl, rfl, ?_⟩
    rw [dispatch, Pool.run, if_pos failed]
  | false =>
    have goes : ¬traversal.pool.failed = true := by simp [failed]
    cases item : traversal.pool.items[traversal.pool.next]? with
    | none =>
      have ended := List.getElem?_eq_none_iff.mp item
      refine .inr ⟨traversal.pool.next + 1, .inr (by omega), ?_, ?_⟩
      · rw [Pool.pending, List.drop_eq_nil_of_le ended, List.drop_eq_nil_of_le (by omega)]
      · rw [dispatch, Pool.run, if_neg goes, item]
    | some id =>
      obtain ⟨within, same⟩ := List.getElem?_eq_some_iff.mp item
      refine .inl ⟨id, rfl, ?_, ?_⟩
      · rw [Pool.pending, List.drop_eq_getElem_cons within, same]
      · rw [dispatch, Pool.run, if_neg goes, item]

/-- What the workers of a pool keep. -/
structure PoolOk (context : Context Id Row) (traversal : Traversal Id Row Err) : Prop where
  queue : QueueOk context traversal.journal.started traversal.pool.pending traversal.journal.read
  calls : CallsOk traversal.journal.started traversal.journal.calls traversal.journal.removed
    traversal.journal.finished traversal.journal.steady
  crew : CrewOk traversal.journal.started traversal.journal.calls traversal.journal.removed
    traversal.journal.finished traversal.journal.steady traversal.workerAt traversal.pool.failed
    traversal.pool.Exhausted

/-- A worker runs on at a place that it has left. -/
theorem dispatch_ok (place : List (Worker Id Err) → Worker Id Err → List (Worker Id Err))
    {slot : Nat}
    (placed : ∀ worker other, (place traversal.pool.workers worker)[other]? =
      Function.update traversal.workerAt slot (some worker) other)
    (queue : QueueOk context traversal.journal.started traversal.pool.pending
      traversal.journal.read)
    (calls : CallsOk traversal.journal.started traversal.journal.calls traversal.journal.removed
      traversal.journal.finished traversal.journal.steady)
    (crew : CrewOk traversal.journal.started traversal.journal.calls traversal.journal.removed
      traversal.journal.finished traversal.journal.steady
      (Function.update traversal.workerAt slot none) traversal.pool.failed
      traversal.pool.Exhausted) :
    ∃ next worker started, dispatch place traversal =
        { traversal with
          pool := { traversal.pool with next, workers := place traversal.pool.workers worker }
          journal := { traversal.journal with started } } ∧
      PoolOk context (dispatch place traversal) := by
  have at_ (worker : Worker Id Err) :
      (fun other => (place traversal.pool.workers worker)[other]?) = Function.update
        (Function.update traversal.workerAt slot none) slot (some worker) := by
    funext other
    rw [placed, Function.update_idem]
  have free : Function.update traversal.workerAt slot none slot = none := Function.update_self ..
  have distinct := queue.distinct
  have fresh := queue.fresh
  rcases dispatch_cases place traversal with ⟨id, goes, item, same⟩ |
    ⟨later, ended, pending, same⟩
  · rw [item, List.append_cons] at distinct fresh
    have new : id ∉ traversal.journal.started := by
      intro listed
      have apart := (List.nodup_append.mp distinct).1
      exact (List.nodup_append.mp apart).2.2 id listed id List.mem_cons_self rfl
    have occupied := crew.occupy free new (fun listed => new (calls.started id listed))
      (traversal.pool.items.length ≤ traversal.pool.next + 1) Nat.le_succ_of_le
    rw [← at_] at occupied
    rw [same]
    refine ⟨_, _, _, rfl, ⟨distinct, fresh⟩, ?_, occupied⟩
    exact { calls with started := fun other listed =>
      List.mem_append_left _ (calls.started other listed) }
  · have retired := crew.retire free (traversal.pool.items.length ≤ later) ended
    rw [← at_] at retired
    rw [← pending] at queue
    rw [same]
    exact ⟨_, _, _, rfl, queue, calls, retired⟩

end WebTsToolkit.Moo.CascadeDelete
