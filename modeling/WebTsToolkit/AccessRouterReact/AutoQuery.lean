import Mathlib.Tactic.Common
import WebTsToolkit.Library.TransitionSystem

set_option autoImplicit false

namespace WebTsToolkit.AccessRouterReact

open Library

/-- A signal that aborts a request: of the controller of an invocation, or of a caller. -/
inductive Source where
  | controller (invocation : Nat)
  | caller (id : Nat)
  deriving DecidableEq

/-- What `composeAbortSignals` returns: the one source that it reuses, or a signal of its own with
the sources that it still listens to. -/
structure ComposedSignal where
  reused : Option Source
  listening : List Source := []
  aborted : Bool := false

/-- The loop over the signals: the first aborted one, or all of them once. -/
def collectSignals (aborted : List Source) : List Source → List Source → Except Source (List Source)
  | uniqueSignals, [] => .ok uniqueSignals
  | uniqueSignals, signal :: rest =>
    if uniqueSignals.contains signal then collectSignals aborted uniqueSignals rest
    else if aborted.contains signal then .error signal
    else collectSignals aborted (uniqueSignals ++ [signal]) rest

def composeAbortSignals (aborted : List Source) (internalSignal : Source)
    (otherSignals : List (Option Source)) : ComposedSignal :=
  match collectSignals aborted [] (internalSignal :: otherSignals.filterMap id) with
  | .error signal => { reused := some signal }
  | .ok [signal] => { reused := some signal }
  | .ok uniqueSignals => { reused := none, listening := uniqueSignals }

namespace ComposedSignal

/-- `signal.aborted`. -/
def isAborted (aborted : List Source) (signal : ComposedSignal) : Bool :=
  match signal.reused with
  | some source => aborted.contains source
  | none => signal.aborted

/-- The listener of a source that aborts: the composed signal aborts and stops listening. -/
def onAbort (source : Source) (signal : ComposedSignal) : ComposedSignal :=
  if signal.listening.contains source then { signal with aborted := true, listening := [] }
  else signal

def release (signal : ComposedSignal) : ComposedSignal :=
  { signal with listening := [] }

end ComposedSignal

/-- A call of `runWithCallbacks`, with the signals that compose its effective one. -/
structure Invocation where
  myId : Nat
  sources : List Source
  signal : ComposedSignal
  settled : Bool

/-- The observers of a settlement: `onSuccess` or `onError`, then `onSettled`. -/
inductive Observer where
  | outcome
  | settled
  deriving DecidableEq

/-- What happens to a hook, as seen from outside. -/
inductive Event (D E : Type) where
  | started (invocation : Nat) (sources : List Source)
  | aborted (source : Source)
  | settled (invocation : Nat)
  | applied (invocation : Nat) (data : D)
  | failed (invocation : Nat) (error : E)
  | observed (invocation : Nat) (observer : Observer)
  | disabled
  | reset (initial : D)
  | unmounted
  deriving DecidableEq

/-- What the hook reads of a list response. -/
structure ListResult (D : Type) where
  data : D
  totalCount : Nat

/-- `useAutoQuery` with the state that `useList` keeps beside it. `managed` is the invocation whose
controller the abort manager holds, and `abortScope` the one whose controller the cleanup of the auto
effect aborts; `observing` waits for its second observer. -/
structure AutoQuery (D E : Type) where
  mounted : Bool := true
  ownerId : Nat := 0
  hasData : Bool := false
  isLoading : Bool := false
  isFetching : Bool := false
  error : Option E := none
  data : D
  latestData : D
  totalCount : Nat := 0
  previousData : Option D := none
  hasSettled : Bool := false
  aborted : List Source := []
  invocations : List Invocation := []
  managed : Option Nat := none
  abortScope : Option Nat := none
  observing : Option Nat := none
  events : List (Event D E) := []

namespace AutoQuery

variable {D E : Type}

def log (state : AutoQuery D E) (event : Event D E) : AutoQuery D E :=
  { state with events := event :: state.events }

/-- A source aborts, and its listeners run. -/
def abortSource (state : AutoQuery D E) (source : Source) : AutoQuery D E :=
  if state.aborted.contains source then state
  else
    { state with
      aborted := source :: state.aborted
      invocations := state.invocations.map fun invocation =>
        { invocation with signal := invocation.signal.onAbort source }
      events := .aborted source :: state.events }

/-- `controller?.abort()`. -/
def abortController (state : AutoQuery D E) : Option Nat → AutoQuery D E
  | none => state
  | some invocation => state.abortSource (.controller invocation)

/-- `createAbortScope`, then `runWithCallbacks` up to its `await`: it calls `baseFetch`, which
captures the settled page where `keepPreviousData` is set. -/
def runWithCallbacks (keepPreviousData : Bool) (otherSignals : List (Option Source))
    (state : AutoQuery D E) : AutoQuery D E :=
  let invocation := state.invocations.length
  let state := state.abortController state.managed
  let sources := Source.controller invocation :: otherSignals.filterMap id
  { state with
    managed := some invocation
    ownerId := state.ownerId + 1
    isFetching := true
    error := none
    isLoading := if state.hasData then state.isLoading else true
    previousData :=
      if keepPreviousData && state.hasSettled then some state.latestData else state.previousData
    invocations := state.invocations ++ [{
      myId := state.ownerId + 1
      sources
      signal := composeAbortSignals state.aborted (.controller invocation) otherSignals
      settled := false }]
    events := .started invocation sources :: state.events }

/-- The auto effect: the cleanup of the effect before it, then its body. -/
def effect (shouldFetch keepPreviousData : Bool) (requestSignal : Option Source)
    (state : AutoQuery D E) : AutoQuery D E :=
  let state := state.abortController state.abortScope
  if shouldFetch then
    { { state with isLoading := !state.hasData }.runWithCallbacks keepPreviousData [requestSignal] with
      abortScope := some state.invocations.length }
  else
    let state := { state with ownerId := state.ownerId + 1 }.abortController state.managed
    { state with
      abortScope := none
      isLoading := false
      isFetching := false
      previousData := none
      events := .disabled :: state.events }

/-- `reset` of `useList`, with `resetError` and `resetLoading`. -/
def reset (initialData : D) (state : AutoQuery D E) : AutoQuery D E :=
  { state with
    latestData := initialData
    data := initialData
    previousData := none
    totalCount := 0
    hasSettled := false
    error := none
    ownerId := state.ownerId + 1
    isLoading := false
    isFetching := false
    hasData := false
    events := .reset initialData :: state.events }

/-- The cleanups of all effects. -/
def unmount (state : AutoQuery D E) : AutoQuery D E :=
  let state := (state.abortController state.abortScope).abortController state.managed
  { state with
    mounted := false
    managed := none
    abortScope := none
    events := .unmounted :: state.events }

/-- A terminal branch that an abort takes. -/
def cancelled (state : AutoQuery D E) : AutoQuery D E :=
  if state.mounted then
    { state with
      isLoading := if state.hasData then state.isLoading else false
      isFetching := false
      previousData := none }
  else state

/-- The branch of a result, up to its first observer. -/
def succeeded (invocation : Nat) (result : ListResult D) (state : AutoQuery D E) : AutoQuery D E :=
  { state with
    latestData := result.data
    data := result.data
    totalCount := result.totalCount
    previousData := none
    hasSettled := true
    hasData := true
    isLoading := false
    isFetching := false
    observing := some invocation
    events := .observed invocation .outcome :: .applied invocation result.data :: state.events }

/-- The branch of a failure, up to its first observer. -/
def failed (invocation : Nat) (error : E) (state : AutoQuery D E) : AutoQuery D E :=
  { state with
    error := some error
    isLoading := if state.hasData then state.isLoading else false
    isFetching := false
    previousData := none
    observing := some invocation
    events := .observed invocation .outcome :: .failed invocation error :: state.events }

/-- What follows the `await` of an invocation. -/
def settle (index : Nat) (invocation : Invocation) (outcome : Except E (ListResult D))
    (state : AutoQuery D E) : AutoQuery D E :=
  let settled := { invocation with settled := true, signal := invocation.signal.release }
  let state := { state with
    invocations := state.invocations.set index settled
    events := .settled index :: state.events }
  if invocation.myId ≠ state.ownerId then state
  else if invocation.signal.isAborted state.aborted then state.cancelled
  else if !state.mounted then state
  else
    match outcome with
    | .ok result => state.succeeded index result
    | .error error => state.failed index error

/-- The second observer, which runs while the hook is mounted. -/
def observe (invocation : Nat) (state : AutoQuery D E) : AutoQuery D E :=
  let state := { state with observing := none }
  if state.mounted then state.log (.observed invocation .settled) else state

inductive Action (D E : Type) where
  | effect (shouldFetch keepPreviousData : Bool) (requestSignal : Option Source)
  | query (keepPreviousData : Bool) (requestSignal callerSignal : Option Source)
  | refetch (keepPreviousData : Bool) (requestSignal : Option Source)
  | abort (id : Nat)
  | reset (initialData : D)
  | unmount
  | settle (invocation : Nat) (outcome : Except E (ListResult D))
  | observe

/-- Observers run to their end before anything else settles. All calls are possible at any time, also
from an observer. -/
def step (state : AutoQuery D E) : Action D E → Option (AutoQuery D E)
  | .effect shouldFetch keepPreviousData requestSignal =>
    if state.mounted then some (state.effect shouldFetch keepPreviousData requestSignal) else none
  | .query keepPreviousData requestSignal callerSignal =>
    some (state.runWithCallbacks keepPreviousData [requestSignal, callerSignal])
  | .refetch keepPreviousData requestSignal =>
    some (state.runWithCallbacks keepPreviousData [requestSignal])
  | .abort id => some (state.abortSource (.caller id))
  | .reset initialData => some (state.reset initialData)
  | .unmount => if state.mounted then some state.unmount else none
  | .settle index outcome =>
    match state.observing, state.invocations[index]? with
    | none, some invocation =>
      if invocation.settled then none else some (state.settle index invocation outcome)
    | _, _ => none
  | .observe => state.observing.map fun invocation => state.observe invocation

/-- The hook from its mount on. -/
def system (initialData : D) : TransitionSystem (AutoQuery D E) (Action D E) where
  start := { data := initialData, latestData := initialData }
  step := step

end AutoQuery

section Events

variable {D E : Type}

/-- The invocation that is the latest since the last disable or reset. Events are newest first. -/
def latest : List (Event D E) → Option Nat
  | [] => none
  | .started invocation _ :: _ => some invocation
  | .disabled :: _ | .reset _ :: _ => none
  | _ :: before => latest before

/-- The data of the last result applied, or the initial data of the last reset after it. -/
def shown (initial : D) : List (Event D E) → D
  | [] => initial
  | .applied _ data :: _ => data
  | .reset initialData :: _ => initialData
  | _ :: before => shown initial before

/-- Whether a result has been applied since the last reset. -/
def hasApplied : List (Event D E) → Bool
  | [] => false
  | .applied _ _ :: _ => true
  | .reset _ :: _ => false
  | _ :: before => hasApplied before

/-- The error of the last invocation, if it failed and no reset came after it. -/
def lastError : List (Event D E) → Option E
  | [] => none
  | .failed _ error :: _ => some error
  | .started _ _ :: _ | .reset _ :: _ => none
  | _ :: before => lastError before

/-- One of the signals that an invocation was started with has aborted. -/
def WasAborted (events : List (Event D E)) (invocation : Nat) : Prop :=
  ∃ sources, .started invocation sources ∈ events ∧ ∃ source ∈ sources, .aborted source ∈ events

/-- The invocation that may write what the hook exposes. -/
structure Entitled (before : List (Event D E)) (invocation : Nat) : Prop where
  newest : latest before = some invocation
  live : ¬WasAborted before invocation
  mounted : .unmounted ∉ before

/-- What an event requires of the events before it. -/
def Allowed (before : List (Event D E)) : Event D E → Prop
  | .applied invocation _ | .failed invocation _ =>
    Entitled before invocation ∧ (∀ data, .applied invocation data ∉ before) ∧
      ∀ error, .failed invocation error ∉ before
  | .observed invocation .outcome =>
    Entitled before invocation ∧ .observed invocation .outcome ∉ before
  | .observed invocation .settled =>
    .observed invocation .outcome ∈ before ∧ .observed invocation .settled ∉ before ∧
      .unmounted ∉ before
  | .settled invocation => .settled invocation ∉ before
  | _ => True

def Traced : List (Event D E) → Prop
  | [] => True
  | event :: before => Allowed before event ∧ Traced before

theorem Traced.allowed {events after before : List (Event D E)} {event : Event D E}
    (traced : Traced events) (split : events = after ++ event :: before) :
    Allowed before event := by
  induction after generalizing events with
  | nil =>
    rw [split] at traced
    exact traced.1
  | cons first rest ih =>
    rw [split] at traced
    exact ih traced.2 rfl

end Events

/-- The signal of an unsettled invocation has aborted exactly where one of its sources has. -/
structure SignalOk (aborted sources : List Source) (signal : ComposedSignal) : Prop where
  reused : ∀ source, signal.reused = some source →
    source ∈ sources ∧ (source ∈ aborted ∨ ∀ other ∈ sources, other = source)
  own : signal.reused = none →
    (signal.aborted = true ∧ ∃ source ∈ sources, source ∈ aborted) ∨
      (signal.aborted = false ∧ ∀ source ∈ sources, source ∈ signal.listening ∧ source ∉ aborted)
  listening : ∀ source ∈ signal.listening, source ∈ sources

theorem SignalOk.isAborted {aborted sources : List Source} {signal : ComposedSignal}
    (ok : SignalOk aborted sources signal) :
    signal.isAborted aborted = true ↔ ∃ source ∈ sources, source ∈ aborted := by
  rw [ComposedSignal.isAborted]
  cases reused : signal.reused with
  | some source =>
    obtain ⟨member, aborts | only⟩ := ok.reused source reused
    · simpa [aborts] using ⟨source, member, aborts⟩
    · constructor
      · intro aborts
        exact ⟨source, member, List.contains_iff_mem.mp aborts⟩
      · rintro ⟨other, listed, aborts⟩
        rw [← only other listed]
        exact List.contains_iff_mem.mpr aborts
  | none =>
    rcases ok.own reused with ⟨yes, source, member, aborts⟩ | ⟨no, none⟩
    · simpa [yes] using ⟨source, member, aborts⟩
    · simp only [no, Bool.false_eq_true, false_iff, not_exists, not_and]
      exact fun source member => (none source member).2

theorem SignalOk.onAbort {aborted sources : List Source} {signal : ComposedSignal}
    (ok : SignalOk aborted sources signal) (source : Source) :
    SignalOk (source :: aborted) sources (signal.onAbort source) := by
  rw [ComposedSignal.onAbort]
  split
  · next listens =>
    have listed := ok.listening source (List.contains_iff_mem.mp listens)
    refine ⟨?_, fun _ => Or.inl ⟨rfl, source, listed, List.mem_cons_self⟩, nofun⟩
    intro reused same
    obtain ⟨member, aborts | only⟩ := ok.reused reused same
    · exact ⟨member, Or.inl (List.mem_cons_of_mem _ aborts)⟩
    · exact ⟨member, Or.inr only⟩
  · next deaf =>
    refine ⟨?_, ?_, ok.listening⟩
    · intro reused same
      obtain ⟨member, aborts | only⟩ := ok.reused reused same
      · exact ⟨member, Or.inl (List.mem_cons_of_mem _ aborts)⟩
      · exact ⟨member, Or.inr only⟩
    · intro own
      rcases ok.own own with ⟨yes, first, member, aborts⟩ | ⟨no, none⟩
      · exact Or.inl ⟨yes, first, member, List.mem_cons_of_mem _ aborts⟩
      · refine Or.inr ⟨no, fun other member => ⟨(none other member).1, ?_⟩⟩
        intro aborts
        rcases List.mem_cons.mp aborts with rfl | aborts
        · exact deaf (List.contains_iff_mem.mpr (none other member).1)
        · exact (none other member).2 aborts

/-- The loop over the signals keeps the ones that have not aborted. -/
theorem collectSignals_spec (aborted signals uniqueSignals : List Source)
    (calm : ∀ source ∈ uniqueSignals, source ∉ aborted) :
    (∀ source, collectSignals aborted uniqueSignals signals = .error source →
      source ∈ signals ∧ source ∈ aborted) ∧
    (∀ all, collectSignals aborted uniqueSignals signals = .ok all →
      (∀ source ∈ all, source ∉ aborted) ∧
        ∀ source, source ∈ all ↔ source ∈ uniqueSignals ∨ source ∈ signals) := by
  induction signals generalizing uniqueSignals with
  | nil =>
    refine ⟨nofun, fun all same => ?_⟩
    rw [← Except.ok.inj same]
    exact ⟨calm, by simp⟩
  | cons signal rest ih =>
    rw [collectSignals]
    split
    · next known =>
      obtain ⟨fails, passes⟩ := ih uniqueSignals calm
      refine ⟨fun source same => ?_, fun all same => ?_⟩
      · exact ⟨List.mem_cons_of_mem _ (fails source same).1, (fails source same).2⟩
      · obtain ⟨none, each⟩ := passes all same
        refine ⟨none, fun source => ?_⟩
        have member := List.contains_iff_mem.mp known
        rw [each, List.mem_cons]
        constructor
        · tauto
        · rintro (listed | rfl | listed)
          · exact Or.inl listed
          · exact Or.inl member
          · exact Or.inr listed
    · split
      · next aborts =>
        refine ⟨fun source same => ?_, nofun⟩
        rw [← Except.error.inj same]
        exact ⟨List.mem_cons_self, List.contains_iff_mem.mp aborts⟩
      · next fresh live =>
        have calm' : ∀ source ∈ uniqueSignals ++ [signal], source ∉ aborted := by
          intro source member
          rcases List.mem_append.mp member with listed | last
          · exact calm source listed
          · rw [List.mem_singleton.mp last]
            exact fun aborts => live (List.contains_iff_mem.mpr aborts)
        obtain ⟨fails, passes⟩ := ih (uniqueSignals ++ [signal]) calm'
        refine ⟨fun source same => ?_, fun all same => ?_⟩
        · exact ⟨List.mem_cons_of_mem _ (fails source same).1, (fails source same).2⟩
        · obtain ⟨none, each⟩ := passes all same
          refine ⟨none, fun source => ?_⟩
          rw [each, List.mem_append, List.mem_singleton, List.mem_cons, or_assoc]

/-- A composed signal starts with what its sources are. -/
theorem signalOk_composeAbortSignals (aborted : List Source) (internalSignal : Source)
    (otherSignals : List (Option Source)) :
    SignalOk aborted (internalSignal :: otherSignals.filterMap id)
      (composeAbortSignals aborted internalSignal otherSignals) := by
  obtain ⟨fails, passes⟩ := collectSignals_spec aborted
    (internalSignal :: otherSignals.filterMap id) [] nofun
  rw [composeAbortSignals]
  split
  · next signal same =>
    obtain ⟨listed, aborts⟩ := fails signal same
    refine ⟨?_, nofun, nofun⟩
    intro source reused
    rw [← Option.some.inj reused]
    exact ⟨listed, Or.inl aborts⟩
  · next signal same =>
    obtain ⟨none, each⟩ := passes [signal] same
    refine ⟨?_, nofun, nofun⟩
    intro source reused
    rw [← Option.some.inj reused]
    refine ⟨by simpa using (each signal).mp (by simp), Or.inr fun other listed => ?_⟩
    simpa using (each other).mpr (Or.inr listed)
  · next all _ same =>
    obtain ⟨none, each⟩ := passes all same
    refine ⟨nofun, fun _ => Or.inr ⟨rfl, fun source listed => ?_⟩, fun source listed => ?_⟩
    · have member := (each source).mpr (Or.inr listed)
      exact ⟨member, none source member⟩
    · exact ((each source).mp listed).resolve_left nofun

end WebTsToolkit.AccessRouterReact
