import WebTsToolkit.Js.Double
import WebTsToolkit.Library.TransitionSystem

set_option autoImplicit false

namespace WebTsToolkit.AccessRouter.ConcurrencyMap

open Js Library

/-- A worker awaits the call for one index, or has ended. -/
inductive Worker where
  | calling (index : Nat)
  | returned
  | rejected
  deriving DecidableEq

/-- What the iteratee and `onError` see, and what comes of the calls. -/
inductive Action (α β ε : Type) where
  | called (index : Nat) (item : α)
  | fulfilled (index : Nat) (value : β)
  | failed (index : Nat) (error : ε)
  | onError (error : ε)

/-- The variables of one `mapWithConcurrencyLimit` call, with what has happened so far. A slot
of `results` is empty until a value is defined there. -/
structure State (α β ε : Type) where
  results : List (Option β)
  cursor : Nat
  failed : Bool
  failure : Option ε
  workers : List Worker
  actions : List (Action α β ε)

/-- A worker begins, or the call that one awaits settles. The worker then runs up to its next
await; `thrown` is what the iteratee throws if it is called on the way and does not return. -/
inductive Event (β ε : Type) where
  | begin (thrown : Option ε)
  | settle (worker : Nat) (outcome : Except ε β) (thrown : Option ε)

variable {α β ε : Type}

/-- `items.length || 1`. -/
def taskCount (length : Nat) : Nat :=
  if length = 0 then 1 else length

/-- The `length` of the array of workers. -/
def workerCount (limit : Number) (length : Nat) : Number :=
  Number.min (Number.max limit (.finite 1)) (.finite (taskCount length))

/-- The handler of an error. An error of `onError` itself changes nothing here: the worker is
rejected either way. -/
def State.catches (state : State α β ε) (index : Nat) (error : ε) : State α β ε :=
  let logged := state.actions ++ [.failed index error]
  if state.failed then { state with actions := logged }
  else
    { state with
      failed := true
      failure := some error
      actions := logged ++ [.onError error] }

/-- The loop of a worker up to its next await or its end. -/
def State.run (items : List α) (state : State α β ε) (thrown : Option ε) :
    Worker × State α β ε :=
  if state.failed then (.returned, state)
  else
    match items[state.cursor]? with
    | none => (.returned, state)
    | some item =>
      let current := state.cursor
      let called :=
        { state with
          cursor := state.cursor + 1
          actions := state.actions ++ [.called current item] }
      match thrown with
      | some error => (.rejected, called.catches current error)
      | none => (.calling current, called)

/-- `Object.defineProperty(results, current, { value, ... })`. -/
def State.define (state : State α β ε) (index : Nat) (value : β) : State α β ε :=
  { state with
    results := state.results.set index (some value)
    actions := state.actions ++ [.fulfilled index value] }

/-- All workers have begun. `Array.from` begins them one after the other. -/
def State.begun (items : List α) (limit : Number) (state : State α β ε) : Bool :=
  (workerCount limit items.length).toLength = some state.workers.length

def step (items : List α) (limit : Number) (state : State α β ε) :
    Event β ε → Option (State α β ε)
  | .begin thrown =>
    if state.begun items limit then none
    else
      let ran := state.run items thrown
      some { ran.2 with workers := state.workers ++ [ran.1] }
  | .settle worker outcome thrown =>
    if state.begun items limit then
      match state.workers[worker]?, outcome with
      | some (.calling index), .ok value =>
        let ran := (state.define index value).run items thrown
        some { ran.2 with workers := state.workers.set worker ran.1 }
      | some (.calling index), .error error =>
        some { state.catches index error with workers := state.workers.set worker .rejected }
      | _, _ => none
    else none

/-- One call of `mapWithConcurrencyLimit`. -/
def system (items : List α) (limit : Number) :
    TransitionSystem (State α β ε) (Event β ε) where
  start :=
    { results := List.replicate items.length none
      cursor := 0
      failed := false
      failure := none
      workers := []
      actions := [] }
  step := step items limit

/-- The index whose call the worker awaits. -/
def Worker.index : Worker → Option Nat
  | .calling index => some index
  | _ => none

def Worker.ended (worker : Worker) : Bool :=
  worker.index.isNone

/-- What the promise is settled with, once `Promise.allSettled` is. -/
def State.outcome (items : List α) (limit : Number) (state : State α β ε) :
    Option (Except (Option ε) (List (Option β))) :=
  if state.begun items limit && state.workers.all Worker.ended then
    some (if state.failed then .error state.failure else .ok state.results)
  else none

namespace Action

@[simp] def calledIndex : Action α β ε → Option Nat
  | .called index _ => some index
  | _ => none

@[simp] def settledIndex : Action α β ε → Option Nat
  | .fulfilled index _ | .failed index _ => some index
  | _ => none

@[simp] def recordedError : Action α β ε → Option ε
  | .failed _ error => some error
  | _ => none

@[simp] def reportedError : Action α β ε → Option ε
  | .onError error => some error
  | _ => none

end Action

/-- The indices that the iteratee was called with, in order. -/
abbrev calls (actions : List (Action α β ε)) : List Nat :=
  actions.filterMap Action.calledIndex

/-- The indices whose calls have settled, in order. -/
abbrev settled (actions : List (Action α β ε)) : List Nat :=
  actions.filterMap Action.settledIndex

abbrev failures (actions : List (Action α β ε)) : List ε :=
  actions.filterMap Action.recordedError

/-- The errors that `onError` was called with, in order. -/
abbrev reports (actions : List (Action α β ε)) : List ε :=
  actions.filterMap Action.reportedError

def outstanding (actions : List (Action α β ε)) : List Nat :=
  (calls actions).filter (!(settled actions).contains ·)

/-- How a completed call may have ended. -/
inductive Completed (items : List α) (actions : List (Action α β ε)) :
    Except (Option ε) (List (Option β)) → Prop where
  | values (results : List (Option β)) (length : results.length = items.length)
      (none_failed : failures actions = [])
      (own : ∀ index, index < items.length → ∃ value, results[index]? = some (some value) ∧
        .fulfilled index value ∈ actions) : Completed items actions (.ok results)
  | failure (first : ε) (later : List ε) (recorded : failures actions = first :: later)
      (waited : outstanding actions = []) (reported : reports actions = [first]) :
      Completed items actions (.error (some first))

/-- What the callers of the map rely on, at any moment of a call. -/
structure Contract (items : List α) (limit : Number) (state : State α β ε) : Prop where
  once : (calls state.actions).Nodup
  own : ∀ index item, .called index item ∈ state.actions → items[index]? = some item
  bounded : (Number.finite (outstanding state.actions).length).le
    (Number.max limit (.finite 1)) = true
  quiet : ∀ before index error after, state.actions = before ++ .failed index error :: after →
    calls after = []
  waits : state.outcome items limit = none →
    state.begun items limit = false ∨ outstanding state.actions ≠ []
  completed : ∀ outcome, state.outcome items limit = some outcome →
    Completed items state.actions outcome

end WebTsToolkit.AccessRouter.ConcurrencyMap
