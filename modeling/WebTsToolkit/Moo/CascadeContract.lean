import WebTsToolkit.Js.Text
import WebTsToolkit.Moo.CascadePages

set_option autoImplicit false

namespace WebTsToolkit.Moo.CascadeDelete

open Library KeysetPaging

variable {Id Row Err : Type} [LinearOrder Id] {context : Context Id Row}
  {traversal next : Traversal Id Row Err}

theorem initial_inv (context : Context Id Row) (collection : Collection Id Row) :
    Inv context (initial context collection : Traversal Id Row Err) where
  read := ⟨by simp [initial], List.Pairwise.nil, by simp [initial]⟩
  queue := ⟨by simp [initial, Pool.pending], by simp [initial, Pool.pending, Fresh, Journal.read]⟩
  crew := by
    constructor <;> simp [initial, Traversal.workerAt]
  calls := ⟨List.nodup_nil, by simp [initial], by simp [initial], by simp [initial]⟩
  steady := by
    intro id listed _
    exact mem_matching.mp listed
  failures := ⟨by simp [initial], rfl⟩
  limit := Nat.zero_le _
  phase := by
    refine ⟨?_, rfl, rfl, by simp [initial, Journal.read], fun _ _ => Or.inr rfl⟩
    intro worker id stage here
    cases here

variable {event : Event Id Row Err}

/-- Whatever happens next keeps the invariant. -/
theorem step_inv (inv : Inv context traversal) (taken : step context traversal event = some next) :
    Inv context next := by
  cases event with
  | page =>
    simp only [step] at taken
    split at taken
    · next lastId phase =>
      rw [← Option.some.inj taken]
      exact receive_inv inv phase
    · cases taken
  | pageFailed error =>
    simp only [step] at taken
    split at taken
    · next lastId phase =>
      have quiet := inv.phase
      rw [PhaseOk, phase] at quiet
      have silent : traversal.journal.failures = [] := by
        by_contra some
        have failed := inv.failures.failed.mpr some
        rw [quiet.2.1] at failed
        cases failed
      rw [← Option.some.inj taken]
      exact { inv with phase := Or.inr ⟨silent, quiet.1⟩ }
    · cases taken
  | loaded worker =>
    simp only [step] at taken
    split at taken
    · next id here =>
      have found : traversal.workerAt worker = some (.working id .loading) := here
      split_ifs at taken with present session
      · rw [← Option.some.inj taken]
        have uncalled := (inv.crew.working worker id .loading found).called
        exact restage_inv inv found (by simpa using uncalled) (by simp)
      · rw [← Option.some.inj taken]
        exact callDelete_inv inv found (Or.inl rfl)
      · rw [← Option.some.inj taken]
        exact finish_inv inv found (removed_of_absent inv present)
    · cases taken
  | bound worker =>
    simp only [step] at taken
    split at taken
    · next id here =>
      rw [← Option.some.inj taken]
      exact callDelete_inv inv here (Or.inr rfl)
    · cases taken
  | removes worker =>
    simp only [step] at taken
    split at taken
    · next id here =>
      have found : traversal.workerAt worker = some (.working id .deleting) := here
      split_ifs at taken with present
      · rw [← Option.some.inj taken]
        exact removes_inv inv found
      · rw [← Option.some.inj taken]
        have called := (inv.crew.working worker id .deleting found).called
        exact restage_inv inv found (by simpa using called)
          (fun _ => removed_of_absent inv present)
    · cases taken
  | settled worker =>
    simp only [step] at taken
    split at taken
    · next id here =>
      rw [← Option.some.inj taken]
      exact finish_inv inv here ((inv.crew.working worker id .removed here).removes rfl)
    · cases taken
  | failed worker error =>
    simp only [step] at taken
    split at taken
    · cases taken
    · next id stage _ here =>
      rw [← Option.some.inj taken]
      exact fail_inv inv here error
    · cases taken
  | join =>
    simp only [step] at taken
    split at taken
    · next ids phase =>
      split_ifs at taken with rejected done
      · obtain ⟨error, first, rfl⟩ := Option.map_eq_some_iff.mp taken
        rw [inv.failures.first] at first
        exact { inv with phase := Or.inl first }
      · rw [← Option.some.inj taken]
        exact join_inv inv phase (by simpa using rejected) done
    · cases taken
  | written id row =>
    rw [← Option.some.inj taken]
    exact written_inv inv id row
  | erased id =>
    rw [← Option.some.inj taken]
    exact erased_inv inv id

/-- The ids that a page brings print apart from one another and from the ids that were read. -/
def PrintsApart (context : Context Id Row) (traversal : Traversal Id Row Err)
    (event : Event Id Row Err) : Prop :=
  ∀ lastId, event = .page → traversal.phase = .reading lastId →
    ∀ id ∈ fetchDependentIdPage context traversal.collection.rows lastId,
      ∀ other ∈ traversal.journal.read ++
          fetchDependentIdPage context traversal.collection.rows lastId,
        context.printed.key other = context.printed.key id → other = id

/-- The ids that were read print apart. -/
def ReadApart (context : Context Id Row) (traversal : Traversal Id Row Err) : Prop :=
  ∀ id ∈ traversal.journal.read, ∀ other ∈ traversal.journal.read,
    context.printed.key other = context.printed.key id → other = id

omit [LinearOrder Id] in
theorem dispatch_pages (place : List (Worker Id Err) → Worker Id Err → List (Worker Id Err))
    (traversal : Traversal Id Row Err) :
    (dispatch place traversal).journal.pages = traversal.journal.pages := by
  rcases dispatch_cases place traversal with ⟨id, -, -, same⟩ | ⟨later, -, -, same⟩ <;> rw [same]

omit [LinearOrder Id] in
theorem spawn_pages (count : Nat) (traversal : Traversal Id Row Err) :
    (spawn count traversal).journal.pages = traversal.journal.pages := by
  induction count generalizing traversal with
  | zero => rfl
  | succ count ih => rw [spawn, ih, dispatch_pages]

theorem receive_pages (lastId : Option Id) (traversal : Traversal Id Row Err) :
    (receive context lastId traversal).journal.pages =
      traversal.journal.pages ++ [⟨traversal.collection.rows,
        fetchDependentIdPage context traversal.collection.rows lastId⟩] := by
  simp only [receive]
  split
  · rfl
  · rw [runWithConcurrencyLimit]
    dsimp only
    split
    · rfl
    · exact spawn_pages _ _

/-- A step reads a page, lets a worker run on, or neither brings ids nor starts a deletion. -/
theorem step_cases (taken : step context traversal event = some next) :
    (∃ lastId, event = .page ∧ traversal.phase = .reading lastId ∧
        next = receive context lastId traversal) ∨
      (∃ worker id, next = finish traversal worker id) ∨
        (next.journal.pages = traversal.journal.pages ∧
          next.journal.started = traversal.journal.started) := by
  have disturbed (id : Id) : (traversal.journal.disturb id).pages = traversal.journal.pages ∧
      (traversal.journal.disturb id).started = traversal.journal.started := by
    rw [Journal.disturb]
    split <;> exact ⟨rfl, rfl⟩
  cases event with
  | page =>
    simp only [step] at taken
    split at taken
    · next lastId phase => exact Or.inl ⟨lastId, rfl, phase, (Option.some.inj taken).symm⟩
    · cases taken
  | pageFailed error | bound worker =>
    simp only [step] at taken
    split at taken
    · rw [← Option.some.inj taken]
      exact Or.inr (Or.inr ⟨rfl, rfl⟩)
    · cases taken
  | loaded worker =>
    simp only [step] at taken
    split at taken
    · next id _ =>
      split_ifs at taken
      · rw [← Option.some.inj taken]
        exact Or.inr (Or.inr ⟨rfl, rfl⟩)
      · rw [← Option.some.inj taken]
        exact Or.inr (Or.inr ⟨rfl, rfl⟩)
      · exact Or.inr (Or.inl ⟨worker, id, (Option.some.inj taken).symm⟩)
    · cases taken
  | removes worker =>
    simp only [step] at taken
    split at taken
    · split_ifs at taken <;>
      · rw [← Option.some.inj taken]
        exact Or.inr (Or.inr ⟨rfl, rfl⟩)
    · cases taken
  | settled worker =>
    simp only [step] at taken
    split at taken
    · next id _ => exact Or.inr (Or.inl ⟨worker, id, (Option.some.inj taken).symm⟩)
    · cases taken
  | failed worker error =>
    simp only [step] at taken
    split at taken
    · cases taken
    · rw [← Option.some.inj taken]
      exact Or.inr (Or.inr ⟨rfl, rfl⟩)
    · cases taken
  | join =>
    simp only [step] at taken
    split at taken
    · split_ifs at taken
      · obtain ⟨error, -, rfl⟩ := Option.map_eq_some_iff.mp taken
        exact Or.inr (Or.inr ⟨rfl, rfl⟩)
      · rw [← Option.some.inj taken, afterPage]
        split <;> exact Or.inr (Or.inr ⟨rfl, rfl⟩)
    · cases taken
  | written id row =>
    rw [← Option.some.inj taken]
    apply Or.inr
    apply Or.inr
    dsimp only
    split
    · exact ⟨rfl, rfl⟩
    · exact disturbed id
  | erased id =>
    rw [← Option.some.inj taken]
    exact Or.inr (Or.inr (disturbed id))

/-- Only a page brings ids. -/
theorem step_read (taken : step context traversal event = some next) :
    next.journal.read = traversal.journal.read ∨
      ∃ lastId, event = .page ∧ traversal.phase = .reading lastId ∧
        next.journal.read = traversal.journal.read ++
          fetchDependentIdPage context traversal.collection.rows lastId := by
  rcases step_cases taken with ⟨lastId, paged, phase, rfl⟩ | ⟨worker, id, rfl⟩ | ⟨pages, -⟩
  · refine Or.inr ⟨lastId, paged, phase, ?_⟩
    rw [Journal.read, receive_pages, List.flatMap_append, List.flatMap_singleton]
    rfl
  · apply Or.inl
    rw [Journal.read, finish, dispatch_pages]
    rfl
  · apply Or.inl
    rw [Journal.read, pages]
    rfl

theorem readApart_step (apart : ReadApart context traversal)
    (met : PrintsApart context traversal event) (taken : step context traversal event = some next) :
    ReadApart context next := by
  rcases step_read taken with same | ⟨lastId, paged, phase, same⟩
  · rw [ReadApart, same]
    exact apart
  · have prints := met lastId paged phase
    rw [ReadApart, same]
    intro id listed other listed' key
    rcases List.mem_append.mp listed with old | new
    · rcases List.mem_append.mp listed' with old' | new'
      · exact apart id old other old' key
      · exact (prints other new' id listed key.symm).symm
    · exact prints id new other listed' key

omit [LinearOrder Id] in
/-- After a failure no worker takes an item. -/
theorem dispatch_started (place : List (Worker Id Err) → Worker Id Err → List (Worker Id Err))
    (failed : traversal.pool.failed = true) :
    (dispatch place traversal).journal.started = traversal.journal.started := by
  rcases dispatch_cases place traversal with ⟨id, goes, -⟩ | ⟨later, -, -, same⟩
  · rw [failed] at goes
    cases goes
  · rw [same]

theorem step_started (inv : Inv context traversal) (failed : traversal.journal.failures ≠ [])
    (taken : step context traversal event = some next) :
    next.journal.started = traversal.journal.started := by
  have fails := inv.failures.failed.mpr failed
  rcases step_cases taken with ⟨lastId, -, phase, -⟩ | ⟨worker, id, rfl⟩ | ⟨-, started⟩
  · have calm := inv.phase
    rw [PhaseOk, phase] at calm
    rw [calm.2.1] at fails
    cases fails
  · exact dispatch_started _ fails
  · exact started

def isWorking : Worker Id Err → Bool
  | .working _ _ => true
  | _ => false

/-- What holds at any moment of one call. -/
structure Contract (context : Context Id Row) (traversal : Traversal Id Row Err) : Prop where
  complete : traversal.phase = .returned → ∀ id ∈ traversal.journal.steady,
    id ∈ traversal.journal.removed ∧ traversal.journal.calls.count id = 1
  once : traversal.journal.calls.Nodup
  own : ∀ id ∈ traversal.journal.removed, id ∈ traversal.journal.calls
  matched : ∀ id ∈ traversal.journal.calls, ∃ page ∈ traversal.journal.pages, id ∈ page.ids ∧
    ∃ row, (id, row) ∈ page.rows ∧ context.filter id row = true
  limited : (traversal.pool.workers.filter isWorking).length ≤ context.effectiveConcurrency
  stopped : traversal.journal.failures ≠ [] → ∀ (event : Event Id Row Err)
    (next : Traversal Id Row Err), step context traversal event = some next →
      next.journal.started = traversal.journal.started
  returned : traversal.phase = .returned → traversal.journal.failures = []
  first : ∀ error, traversal.phase = .thrown error → traversal.journal.failures ≠ [] →
    traversal.journal.failures.head? = some error

theorem removed_of_returned (inv : Inv context traversal) (apart : ReadApart context traversal)
    (phase : traversal.phase = .returned) {id : Id} (steady : id ∈ traversal.journal.steady) :
    id ∈ traversal.journal.removed := by
  have ended := inv.phase
  rw [PhaseOk, phase] at ended
  obtain ⟨quiet, unfailed, pending, read⟩ := ended
  have fresh : Fresh context.printed.key traversal.journal.read id := by
    refine ⟨read id steady, ?_⟩
    intro other listed less key
    exact absurd (apart id (read id steady) other listed key) (ne_of_lt less)
  have started := (inv.queue.fresh id).mpr fresh
  rw [pending, List.append_nil] at started
  rcases inv.crew.covered id started with done | ⟨worker, stage, here⟩ | fails
  · exact inv.calls.finished id done steady
  · exact absurd here (quiet worker id stage)
  · rw [unfailed] at fails
    cases fails

/-- Where the ids that are read print apart, in any order of events, all of the contract holds. -/
theorem deleteDependents_contract {collection : Collection Id Row}
    (reached : TransitionSystem.ReachableWhen (system context collection) (PrintsApart context)
      traversal) : Contract context traversal := by
  have kept : Inv context traversal ∧ ReadApart context traversal := by
    apply reached.invariant
    · exact ⟨initial_inv context collection, by simp [system, initial, ReadApart, Journal.read]⟩
    · intro state event after held met taken
      exact ⟨step_inv held.1 taken, readApart_step held.2 met taken⟩
  obtain ⟨inv, apart⟩ := kept
  constructor
  · intro phase id steady
    have removed := removed_of_returned inv apart phase steady
    refine ⟨removed, ?_⟩
    exact List.count_eq_one_of_mem inv.calls.once (inv.calls.removed id removed)
  · exact inv.calls.once
  · exact inv.calls.removed
  · intro id called
    have started := List.mem_append_left traversal.pool.pending (inv.calls.started id called)
    have read := ((inv.queue.fresh id).mp started).1
    obtain ⟨page, listed, member⟩ := List.mem_flatMap.mp read
    exact ⟨page, listed, member, inv.read.matched page listed id member⟩
  · exact (List.length_filter_le _ _).trans inv.limit
  · intro failed event after taken
    exact step_started inv failed taken
  · intro phase
    have ended := inv.phase
    rw [PhaseOk, phase] at ended
    by_contra some
    have failed := inv.failures.failed.mpr some
    rw [ended.2.1] at failed
    cases failed
  · intro error phase failed
    have ended := inv.phase
    rw [PhaseOk, phase] at ended
    exact ended.resolve_right fun silent => failed silent.1

/-- Numbers as ids. -/
def numberIds (batchSize : Nat) (positive : 0 < batchSize) : Context Nat Unit where
  printed := ⟨fun _ => false, fun _ => "number", Nat.repr⟩
  filter _ _ := true
  session := false
  inTransaction := false
  maxConcurrency := 2
  maxConcurrency_pos := by decide
  batchSize := batchSize
  batchSize_pos := positive

/-- Numbers print apart. -/
theorem numberIds_printsApart {batchSize : Nat} {positive : 0 < batchSize}
    {traversal : Traversal Nat Unit Err} (event : Event Nat Unit Err) :
    PrintsApart (numberIds batchSize positive) traversal event := by
  intro lastId _ _ id _ other _ key
  have text := congrArg String.toList key
  simp only [Printed.key, numberIds, Bool.false_eq_true, ↓reduceIte, String.toList_append,
    List.append_cancel_left_eq] at text
  exact Js.repr_injective (String.toList_inj.mp text)

def threeRows : Collection Nat Unit where
  rows := [(7, ()), (3, ()), (5, ())]
  distinct := by decide

/-- The rows 3 and 5 are read first, 7 on a second page; another client removes 5. -/
def pagedRun : List (Event Nat Unit String) :=
  [.page, .erased 5, .loaded 1, .loaded 0, .removes 0, .settled 0, .join, .page, .loaded 0,
    .removes 0, .settled 0, .join]

theorem deleteDependents_contract_pagedRun :
    ∃ traversal : Traversal Nat Unit String,
      (system (numberIds 2 (by decide)) threeRows).run pagedRun = some traversal ∧
        Contract (numberIds 2 (by decide)) traversal := by
  have runs : ((system (numberIds 2 (by decide)) threeRows).run pagedRun).isSome = true := by
    decide +kernel
  obtain ⟨traversal, ran⟩ := Option.isSome_iff_exists.mp runs
  have reached : TransitionSystem.ReachableWhen (system (numberIds 2 (by decide)) threeRows)
      (PrintsApart (numberIds 2 (by decide))) traversal :=
    TransitionSystem.ReachableWhen.start.steps (fun event _ _ => numberIds_printsApart event) ran
  exact ⟨traversal, ran, deleteDependents_contract reached⟩

/-- Embedded documents as ids, in the order of their one field: each prints alike. -/
def documentIds : Context Nat Unit where
  printed := ⟨fun _ => true, fun _ => "object", fun _ => "[object Object]"⟩
  filter _ _ := true
  session := false
  inTransaction := false
  maxConcurrency := 2
  maxConcurrency_pos := by decide
  batchSize := 2
  batchSize_pos := by decide

def twoRows : Collection Nat Unit where
  rows := [(1, ()), (2, ())]
  distinct := by decide

/-- One page brings both rows, the worker deletes the first, and the next page is empty. -/
def skippingRun : List (Event Nat Unit String) :=
  [.page, .loaded 0, .removes 0, .settled 0, .join, .page]

/-- The call returns, and the second row, which nobody touched, is still there. -/
theorem deleteDependents_skips :
    ∃ traversal : Traversal Nat Unit String,
      (system documentIds twoRows).Reachable traversal ∧
        traversal.phase = .returned ∧ ¬Contract documentIds traversal := by
  have skips : ∃ traversal : Traversal Nat Unit String,
      (system documentIds twoRows).run skippingRun = some traversal ∧
        traversal.phase = .returned ∧ 2 ∈ traversal.journal.steady ∧
          2 ∉ traversal.journal.removed :=
    ⟨_, rfl, rfl, by decide, by decide⟩
  obtain ⟨traversal, ran, phase, steady, kept⟩ := skips
  refine ⟨traversal, TransitionSystem.Reachable.of_run ran, phase, ?_⟩
  intro contract
  exact kept (contract.complete phase 2 steady).1

end WebTsToolkit.Moo.CascadeDelete
