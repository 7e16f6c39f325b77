import WebTsToolkit.Library.KeysetPaging
import WebTsToolkit.Library.TransitionSystem

set_option autoImplicit false

namespace WebTsToolkit.Moo.CascadeDelete

open Library

/-- The rows of a dependent collection, at most one for each `_id`. -/
structure Collection (Id Row : Type) where
  rows : List (Id × Row)
  distinct : (rows.map Prod.fst).Nodup

namespace Collection

variable {Id Row : Type} [DecidableEq Id]

def erase (collection : Collection Id Row) (id : Id) : Collection Id Row where
  rows := collection.rows.filter fun row => row.1 ≠ id
  distinct := collection.distinct.sublist (List.filter_sublist.map Prod.fst)

def put (collection : Collection Id Row) (id : Id) (row : Row) : Collection Id Row where
  rows := (id, row) :: (collection.erase id).rows
  distinct := by
    rw [List.map_cons, List.nodup_cons]
    refine ⟨?_, (collection.erase id).distinct⟩
    intro listed
    obtain ⟨entry, member, same⟩ := List.mem_map.mp listed
    exact of_decide_eq_true (List.mem_filter.mp member).2 same

/-- Whether there is a row with the `_id`. -/
def holds (collection : Collection Id Row) (id : Id) : Bool :=
  collection.rows.any fun row => row.1 = id

end Collection

/-- How JavaScript sees the ids of one kind. -/
structure Printed (Id : Type) where
  isObject : Id → Bool
  typeName : Id → String
  text : Id → String

/-- The key of `seen`: ``typeof id === 'object' ? String(id) : `${typeof id}:${String(id)}` ``. -/
def Printed.key {Id : Type} (printed : Printed Id) (id : Id) : String :=
  if printed.isObject id then printed.text id else printed.typeName id ++ ":" ++ printed.text id

/-- What one call of `deleteDependents` is resolved to. -/
structure Context (Id Row : Type) where
  printed : Printed Id
  filter : Id → Row → Bool
  session : Bool
  inTransaction : Bool
  maxConcurrency : Nat
  maxConcurrency_pos : 0 < maxConcurrency
  batchSize : Nat
  batchSize_pos : 0 < batchSize

def Context.effectiveConcurrency {Id Row : Type} (context : Context Id Row) : Nat :=
  if context.session && context.inTransaction then 1 else context.maxConcurrency

/-- The awaits of `deleteById`: `findById`, `$session`, and `deleteOne` before and after the row is
removed. -/
inductive Stage where
  | loading
  | binding
  | deleting
  | removed
  deriving DecidableEq

inductive Worker (Id Err : Type) where
  | working (id : Id) (stage : Stage)
  | returned
  | rejected (error : Err)
  deriving DecidableEq

/-- The variables of `runWithConcurrencyLimit`. -/
structure Pool (Id Err : Type) where
  items : List Id
  next : Nat
  failed : Bool
  firstError : Option Err
  workers : List (Worker Id Err)

inductive Phase (Id Err : Type) where
  | reading (lastId : Option Id)
  | deleting (ids : List Id)
  | returned
  | thrown (error : Err)

/-- A page with the collection that it was read from. -/
structure PageRead (Id Row : Type) where
  rows : List (Id × Row)
  ids : List Id

/-- What has happened: the pages, the deletions that were started, the delete calls of documents,
the rows that they removed, the deletions that ended, and the errors; and the rows that have
matched so far without another client deleting them. -/
structure Journal (Id Row Err : Type) where
  pages : List (PageRead Id Row)
  started : List Id
  calls : List Id
  removed : List Id
  finished : List Id
  failures : List Err
  steady : List Id

structure Traversal (Id Row Err : Type) where
  collection : Collection Id Row
  seen : List String
  phase : Phase Id Err
  pool : Pool Id Err
  journal : Journal Id Row Err

/-- The ids that were read. -/
def Journal.read {Id Row Err : Type} (journal : Journal Id Row Err) : List Id :=
  journal.pages.flatMap PageRead.ids

section Steps

variable {Id Row Err : Type} [LinearOrder Id] (context : Context Id Row)

/-- `{ $and: [filter, { _id: { $gt: lastId } }] }`, sorted by `_id` and limited. -/
def fetchDependentIdPage (rows : List (Id × Row)) (lastId : Option Id) : List Id :=
  KeysetPaging.page ((rows.filter fun row => context.filter row.1 row.2).map Prod.fst) lastId
    context.batchSize

/-- The loop of a worker up to its next await. -/
def Pool.run (pool : Pool Id Err) : Worker Id Err × Pool Id Err :=
  if pool.failed then (.returned, pool)
  else
    match pool.items[pool.next]? with
    | none => (.returned, { pool with next := pool.next + 1 })
    | some id => (.working id .loading, { pool with next := pool.next + 1 })

/-- A worker runs on, and takes its place in the pool. -/
def dispatch (place : List (Worker Id Err) → Worker Id Err → List (Worker Id Err))
    (traversal : Traversal Id Row Err) : Traversal Id Row Err :=
  let ran := traversal.pool.run
  { traversal with
    pool := { ran.2 with workers := place traversal.pool.workers ran.1 }
    journal :=
      match ran.1 with
      | .working id _ => { traversal.journal with started := traversal.journal.started ++ [id] }
      | _ => traversal.journal }

/-- `Array.from({ length: workerCount }, ...)`. -/
def spawn : Nat → Traversal Id Row Err → Traversal Id Row Err
  | 0, traversal => traversal
  | count + 1, traversal =>
    spawn count (dispatch (fun workers worker => workers ++ [worker]) traversal)

def runWithConcurrencyLimit (items : List Id) (traversal : Traversal Id Row Err) :
    Traversal Id Row Err :=
  let pool : Pool Id Err := ⟨items, 0, false, none, []⟩
  if items.isEmpty then { traversal with pool := pool }
  else spawn (max 1 (min context.effectiveConcurrency items.length)) { traversal with pool := pool }

/-- A page arrives. -/
def receive (lastId : Option Id) (traversal : Traversal Id Row Err) : Traversal Id Row Err :=
  let rows := traversal.collection.rows
  let ids := fetchDependentIdPage context rows lastId
  let fresh := KeysetPaging.freshBy context.printed.key ids traversal.seen
  let read : Traversal Id Row Err :=
    { traversal with
      journal := { traversal.journal with pages := traversal.journal.pages ++ [⟨rows, ids⟩] } }
  if ids.isEmpty then { read with phase := .returned }
  else
    runWithConcurrencyLimit context fresh.1
      { read with
        phase := .deleting ids
        seen := fresh.2 }

/-- The workers are done: `lastId` is set and the loop goes on, or ends. -/
def afterPage (ids : List Id) (traversal : Traversal Id Row Err) : Traversal Id Row Err :=
  if ids.length < context.batchSize then { traversal with phase := .returned }
  else { traversal with phase := .reading ids.getLast? }

def setStage (traversal : Traversal Id Row Err) (worker : Nat) (id : Id) (stage : Stage) :
    Traversal Id Row Err :=
  { traversal with
    pool :=
      { traversal.pool with
        workers := traversal.pool.workers.set worker (.working id stage) } }

/-- The delete call of a loaded document. -/
def callDelete (traversal : Traversal Id Row Err) (worker : Nat) (id : Id) :
    Traversal Id Row Err :=
  let next := setStage traversal worker id .deleting
  { next with journal := { next.journal with calls := next.journal.calls ++ [id] } }

/-- `deleteById` returns, and its worker runs on. -/
def finish (traversal : Traversal Id Row Err) (worker : Nat) (id : Id) : Traversal Id Row Err :=
  dispatch (fun workers next => workers.set worker next)
    { traversal with
      journal := { traversal.journal with finished := traversal.journal.finished ++ [id] } }

/-- `deleteById` rejects, and its worker with it. -/
def fail (traversal : Traversal Id Row Err) (worker : Nat) (error : Err) : Traversal Id Row Err :=
  { traversal with
    pool :=
      { traversal.pool with
        failed := true
        firstError := if traversal.pool.failed then traversal.pool.firstError else some error
        workers := traversal.pool.workers.set worker (.rejected error) }
    journal := { traversal.journal with failures := traversal.journal.failures ++ [error] } }

/-- The rows that another client touched are no longer steady, unless they were removed before. -/
def Journal.disturb (journal : Journal Id Row Err) (id : Id) : Journal Id Row Err :=
  if id ∈ journal.removed then journal
  else { journal with steady := journal.steady.filter fun other => other ≠ id }

inductive Event (Id Row Err : Type) where
  | page
  | pageFailed (error : Err)
  | loaded (worker : Nat)
  | bound (worker : Nat)
  | removes (worker : Nat)
  | settled (worker : Nat)
  | failed (worker : Nat) (error : Err)
  | join
  | written (id : Id) (row : Row)
  | erased (id : Id)

def isRejected : Worker Id Err → Bool
  | .rejected _ => true
  | _ => false

def isReturned : Worker Id Err → Bool
  | .returned => true
  | _ => false

def step (traversal : Traversal Id Row Err) : Event Id Row Err → Option (Traversal Id Row Err)
  | .page =>
    match traversal.phase with
    | .reading lastId => some (receive context lastId traversal)
    | _ => none
  | .pageFailed error =>
    match traversal.phase with
    | .reading _ => some { traversal with phase := .thrown error }
    | _ => none
  | .loaded worker =>
    match traversal.pool.workers[worker]? with
    | some (.working id .loading) =>
      if traversal.collection.holds id then
        if context.session then some (setStage traversal worker id .binding)
        else some (callDelete traversal worker id)
      else some (finish traversal worker id)
    | _ => none
  | .bound worker =>
    -- an error of `$session` is ignored
    match traversal.pool.workers[worker]? with
    | some (.working id .binding) => some (callDelete traversal worker id)
    | _ => none
  | .removes worker =>
    match traversal.pool.workers[worker]? with
    | some (.working id .deleting) =>
      let next := setStage traversal worker id .removed
      if traversal.collection.holds id then
        some { next with
          collection := next.collection.erase id
          journal := { next.journal with removed := next.journal.removed ++ [id] } }
      else some next
    | _ => none
  | .settled worker =>
    match traversal.pool.workers[worker]? with
    | some (.working id .removed) => some (finish traversal worker id)
    | _ => none
  | .failed worker error =>
    match traversal.pool.workers[worker]? with
    | some (.working _ .binding) => none
    | some (.working _ _) => some (fail traversal worker error)
    | _ => none
  | .join =>
    match traversal.phase with
    | .deleting ids =>
      if traversal.pool.workers.any isRejected then
        traversal.pool.firstError.map fun error => { traversal with phase := .thrown error }
      else if traversal.pool.workers.all isReturned then some (afterPage context ids traversal)
      else none
    | _ => none
  | .written id row =>
    some
      { traversal with
        collection := traversal.collection.put id row
        journal :=
          if context.filter id row then traversal.journal else traversal.journal.disturb id }
  | .erased id =>
    some
      { traversal with
        collection := traversal.collection.erase id
        journal := traversal.journal.disturb id }

def initial (collection : Collection Id Row) : Traversal Id Row Err where
  collection := collection
  seen := []
  phase := .reading none
  pool := ⟨[], 0, false, none, []⟩
  journal :=
    { pages := []
      started := []
      calls := []
      removed := []
      finished := []
      failures := []
      steady := (collection.rows.filter fun row => context.filter row.1 row.2).map Prod.fst }

/-- One call of `deleteDependents` while other clients write to the collection. -/
def system (collection : Collection Id Row) :
    TransitionSystem (Traversal Id Row Err) (Event Id Row Err) where
  start := initial context collection
  step := step context

end Steps

end WebTsToolkit.Moo.CascadeDelete
