import WebTsToolkit.AccessRouterReact.AutoQuery

set_option autoImplicit false

namespace WebTsToolkit.AccessRouterReact.AutoQuery

open Library

variable {D E : Type} {initial : D} {state : AutoQuery D E}

/-- What an invocation is for the events. -/
structure InvocationOk (aborted : List Source) (ownerId : Nat) (events : List (Event D E))
    (index : Nat) (invocation : Invocation) : Prop where
  started : .started index invocation.sources ∈ events
  owned : invocation.myId ≤ ownerId
  newest : invocation.myId = ownerId ↔ latest events = some index
  settled : invocation.settled = true ↔ .settled index ∈ events
  signal : invocation.settled = false → SignalOk aborted invocation.sources invocation.signal

/-- An invocation of some sources. -/
def Listed (state : AutoQuery D E) (index : Nat) (sources : List Source) : Prop :=
  ∃ invocation, state.invocations[index]? = some invocation ∧ invocation.sources = sources

/-- What else a state knows of an event. -/
def Known (state : AutoQuery D E) : Event D E → Prop
  | .started index sources => Listed state index sources
  | .settled index => index < state.invocations.length
  | .applied index _ | .failed index _ | .observed index _ => .settled index ∈ state.events
  | _ => True

/-- The second observer of an invocation is to run. -/
def Waits (observing : Option Nat) (events : List (Event D E)) : Prop :=
  ∀ index, observing = some index →
    .observed index .outcome ∈ events ∧ .observed index .settled ∉ events

/-- The events tell what the hook and its invocations went through. -/
structure RecordsOk (state : AutoQuery D E) : Prop where
  invocations : ∀ index invocation, state.invocations[index]? = some invocation →
    InvocationOk state.aborted state.ownerId state.events index invocation
  known : ∀ event ∈ state.events, Known state event
  observing : Waits state.observing state.events
  aborted : ∀ source, source ∈ state.aborted ↔ .aborted source ∈ state.events
  mounted : state.mounted = true ↔ .unmounted ∉ state.events
  traced : Traced state.events

/-- What the hook exposes is what the events say. -/
structure ShownOk (initial : D) (state : AutoQuery D E) : Prop where
  fetching : state.mounted = true → (state.isFetching = true ↔
    ∃ index, latest state.events = some index ∧ .settled index ∉ state.events)
  loaded : state.hasData = true → state.isLoading = false
  hasData : state.hasData = hasApplied state.events
  hasSettled : state.hasSettled = state.hasData
  data : state.data = shown initial state.events
  latestData : state.latestData = state.data
  error : state.error = lastError state.events
  previous : state.mounted = true → ∀ page, state.previousData = some page →
    state.isFetching = true ∧ page = state.data

structure Core (initial : D) (state : AutoQuery D E) : Prop where
  records : RecordsOk state
  shown : ShownOk initial state

structure Inv (initial : D) (state : AutoQuery D E) : Prop extends Core initial state where
  loading : state.mounted = true → state.isLoading = true → state.isFetching = true

variable {next : AutoQuery D E} {index : Nat} {invocation : Invocation}

theorem InvocationOk.cons {aborted : List Source} {ownerId : Nat} {events : List (Event D E)}
    (ok : InvocationOk aborted ownerId events index invocation) (event : Event D E)
    (newest : latest (event :: events) = latest events) (apart : event ≠ .settled index) :
    InvocationOk aborted ownerId (event :: events) index invocation where
  started := List.mem_cons_of_mem _ ok.started
  owned := ok.owned
  newest := newest ▸ ok.newest
  settled := by rw [ok.settled, List.mem_cons, or_iff_right apart.symm]
  signal := ok.signal

theorem Known.grows {event : Event D E} (known : Known state event)
    (listed : ∀ index sources, Listed state index sources → Listed next index sources)
    (events : ∀ event ∈ state.events, event ∈ next.events) : Known next event := by
  cases event with
  | started index sources => exact listed index sources known
  | settled index =>
    obtain ⟨_, found, _⟩ := listed index _ ⟨_, List.getElem?_eq_getElem known, rfl⟩
    exact (List.getElem?_eq_some_iff.mp found).1
  | applied index _ | failed index _ | observed index _ => exact events _ known
  | _ => trivial

theorem Waits.cons {observing : Option Nat} {events : List (Event D E)} {event : Event D E}
    (waits : Waits observing events) (quiet : ∀ index, event ≠ .observed index .settled) :
    Waits observing (event :: events) := by
  intro index same
  obtain ⟨first, second⟩ := waits index same
  refine ⟨List.mem_cons_of_mem _ first, fun listed => ?_⟩
  rcases List.mem_cons.mp listed with here | before
  · exact quiet index here.symm
  · exact second before

/-- One more event. -/
theorem RecordsOk.cons (records : RecordsOk state) (event : Event D E)
    (events : next.events = event :: state.events)
    (invocations : ∀ index invocation, next.invocations[index]? = some invocation →
      InvocationOk next.aborted next.ownerId next.events index invocation)
    (listed : ∀ index sources, Listed state index sources → Listed next index sources)
    (known : Known next event) (observing : Waits next.observing next.events)
    (aborted : ∀ source, source ∈ next.aborted ↔ .aborted source = event ∨ source ∈ state.aborted)
    (mounted : next.mounted = true ↔ .unmounted ≠ event ∧ state.mounted = true)
    (allowed : Allowed state.events event) : RecordsOk next where
  invocations := invocations
  known other there := by
    rw [events] at there
    rcases List.mem_cons.mp there with rfl | there
    · exact known
    · apply (records.known other there).grows listed
      rw [events]
      exact fun _ => List.mem_cons_of_mem _
  observing := observing
  aborted source := by rw [aborted, events, List.mem_cons, records.aborted]
  mounted := by rw [mounted, events, List.mem_cons, not_or, records.mounted]
  traced := events ▸ ⟨allowed, records.traced⟩

theorem records_abortSource (records : RecordsOk state) (source : Source) :
    RecordsOk (state.abortSource source) := by
  rw [abortSource]
  split
  · exact records
  · refine records.cons (.aborted source) rfl ?_ ?_ trivial (records.observing.cons nofun) ?_
      (by simp) trivial
    · intro index invocation found
      rw [List.getElem?_map, Option.map_eq_some_iff] at found
      obtain ⟨before, found, rfl⟩ := found
      have ok := records.invocations index before found
      exact
        { ok.cons (.aborted source) rfl nofun with
          signal := fun open_ => (ok.signal open_).onAbort source }
    · rintro index sources ⟨before, found, same⟩
      refine ⟨{ before with signal := before.signal.onAbort source }, ?_, same⟩
      rw [List.getElem?_map, found]
      rfl
    · intro other
      rw [List.mem_cons, Event.aborted.injEq]

theorem shown_abortSource (ok : ShownOk initial state) (source : Source) :
    ShownOk initial (state.abortSource source) := by
  rw [abortSource]
  split
  · exact ok
  · exact { ok with fetching := by simpa [latest] using ok.fetching }

theorem core_abortSource (core : Core initial state) (source : Source) :
    Core initial (state.abortSource source) :=
  ⟨records_abortSource core.records source, shown_abortSource core.shown source⟩

theorem core_abortController (core : Core initial state) (controller : Option Nat) :
    Core initial (state.abortController controller) := by
  cases controller with
  | none => exact core
  | some invocation => exact core_abortSource core (.controller invocation)

theorem length_abortController (state : AutoQuery D E) (controller : Option Nat) :
    (state.abortController controller).invocations.length = state.invocations.length := by
  cases controller with
  | none => rfl
  | some invocation =>
    rw [abortController, abortSource]
    split
    · rfl
    · exact List.length_map ..

/-- An invocation that starts is the newest one. -/
theorem invocations_started (records : RecordsOk state) (sources : List Source)
    {signal : ComposedSignal} (ok : SignalOk state.aborted sources signal) :
    ∀ index invocation,
      (state.invocations ++ [{
        myId := state.ownerId + 1
        sources
        signal
        settled := false }])[index]? = some invocation →
      InvocationOk state.aborted (state.ownerId + 1)
        (.started state.invocations.length sources :: state.events) index invocation := by
  intro index invocation found
  rw [List.getElem?_append] at found
  split at found
  · next old =>
    have ok := records.invocations index invocation found
    have before := ok.owned
    exact {
      started := List.mem_cons_of_mem _ ok.started
      owned := by omega
      newest := by
        constructor
        · intro same
          omega
        · intro same
          have new := Option.some.inj same
          omega
      settled := by simpa using ok.settled
      signal := ok.signal }
  · next new =>
    rw [List.getElem?_singleton] at found
    split at found
    case isFalse => contradiction
    obtain rfl := Option.some.inj found
    obtain rfl : index = state.invocations.length := by omega
    have open_ : .settled state.invocations.length ∉ state.events := by
      intro event
      exact Nat.lt_irrefl _ (records.known _ event)
    exact {
      started := List.mem_cons_self
      owned := Nat.le_refl _
      newest := ⟨fun _ => rfl, fun _ => rfl⟩
      settled := by simpa using open_
      signal := fun _ => ok }

theorem records_runWithCallbacks (records : RecordsOk state) (keepPreviousData : Bool)
    (otherSignals : List (Option Source)) :
    RecordsOk (state.runWithCallbacks keepPreviousData otherSignals) := by
  have same := length_abortController state state.managed
  have records : RecordsOk (state.abortController state.managed) := by
    cases state.managed with
    | none => exact records
    | some invocation => exact records_abortSource records (.controller invocation)
  rw [runWithCallbacks, ← same]
  generalize state.abortController state.managed = state at records
  have ok := invocations_started records
    (.controller state.invocations.length :: otherSignals.filterMap id)
    (signalOk_composeAbortSignals state.aborted (.controller state.invocations.length) otherSignals)
  refine records.cons (.started _ _) rfl ok ?_ ⟨_, List.getElem?_concat_length, rfl⟩
    (records.observing.cons nofun) (by simp) (by simp) trivial
  rintro index sources ⟨invocation, found, same⟩
  obtain ⟨inside, _⟩ := List.getElem?_eq_some_iff.mp found
  exact ⟨invocation, by rw [List.getElem?_append_left inside]; exact found, same⟩

theorem inv_runWithCallbacks (core : Core initial state) (keepPreviousData : Bool)
    (otherSignals : List (Option Source)) :
    Inv initial (state.runWithCallbacks keepPreviousData otherSignals) := by
  have records := records_runWithCallbacks core.records keepPreviousData otherSignals
  have same := length_abortController state state.managed
  have calm := core_abortController core state.managed
  rw [runWithCallbacks, ← same] at records ⊢
  generalize state.abortController state.managed = state at records calm ⊢
  obtain ⟨before, ok⟩ := calm
  have open_ : .settled state.invocations.length ∉ state.events := by
    intro event
    exact Nat.lt_irrefl _ (before.known _ event)
  refine ⟨⟨records, { ok with fetching := ?_, loaded := ?_, error := rfl, previous := ?_ }⟩,
    fun _ _ => rfl⟩
  · intro _
    simpa [latest] using open_
  · intro data
    show (if state.hasData then _ else _) = _
    rw [if_pos data]
    exact ok.loaded data
  · intro mounted page captured
    refine ⟨rfl, ?_⟩
    dsimp only at captured
    split at captured
    · rw [← Option.some.inj captured]
      exact ok.latestData
    · exact (ok.previous mounted page captured).2

/-- The record of an invocation that settles. -/
theorem records_settled (records : RecordsOk state)
    (found : state.invocations[index]? = some invocation) (open_ : invocation.settled = false) :
    RecordsOk { state with
      invocations := state.invocations.set index
        { invocation with
          settled := true
          signal := invocation.signal.release }
      events := .settled index :: state.events } := by
  obtain ⟨inside, _⟩ := List.getElem?_eq_some_iff.mp found
  have here := records.invocations index invocation found
  have fresh : .settled index ∉ state.events := by
    rw [← here.settled, open_]
    decide
  refine records.cons (.settled index) rfl ?_ ?_ ?_ (records.observing.cons nofun) (by simp)
    (by simp) fresh
  · intro other changed listed
    rw [List.getElem?_set] at listed
    split at listed
    · next same =>
      subst same
      obtain rfl := Option.some.inj listed
      exact {
        started := List.mem_cons_of_mem _ here.started
        owned := here.owned
        newest := here.newest
        settled := by simp
        signal := nofun }
    · next apart =>
      apply (records.invocations other changed listed).cons _ rfl
      exact fun same => apart (Event.settled.inj same)
  · rintro other sources ⟨before, listed, same⟩
    by_cases here : index = other
    · subst here
      rw [found] at listed
      obtain rfl := Option.some.inj listed
      exact ⟨_, List.getElem?_set_self inside, same⟩
    · exact ⟨before, by rw [List.getElem?_set_ne here]; exact listed, same⟩
  · rw [Known, List.length_set]
    exact inside

/-- What an invocation publishes. -/
def publication (index : Nat) : Except E D → Event D E
  | .ok data => .applied index data
  | .error error => .failed index error

theorem observed_ne_publication (at_ index : Nat) (observer : Observer) (outcome : Except E D) :
    .observed at_ observer ≠ publication index outcome := by
  cases outcome <;> exact nofun

/-- The record of an invocation that publishes its outcome. -/
theorem records_publication (records : RecordsOk state) (outcome : Except E D)
    (settled : .settled index ∈ state.events) (entitled : Entitled state.events index)
    (once : (∀ data, .applied index data ∉ state.events) ∧
      ∀ error, .failed index error ∉ state.events) :
    RecordsOk { state with events := publication index outcome :: state.events } := by
  apply records.cons (publication index outcome) rfl
  · intro other invocation found
    apply (records.invocations other invocation found).cons
    · cases outcome <;> rfl
    · cases outcome <;> exact nofun
  · exact fun _ _ => id
  · cases outcome <;> exact List.mem_cons_of_mem _ settled
  · exact records.observing.cons fun other => (observed_ne_publication other index _ outcome).symm
  · intro source
    cases outcome <;> simp [publication]
  · cases outcome <;> simp [publication]
  · cases outcome <;> exact ⟨entitled, once⟩

/-- The record of an invocation that publishes its outcome and runs its first observer. -/
theorem records_published (records : RecordsOk state) (outcome : Except E D)
    (settled : .settled index ∈ state.events) (entitled : Entitled state.events index)
    (once : (∀ data, .applied index data ∉ state.events) ∧
      (∀ error, .failed index error ∉ state.events) ∧
      ∀ observer, .observed index observer ∉ state.events) :
    RecordsOk { state with
      observing := some index
      events := .observed index .outcome :: publication index outcome :: state.events } := by
  have published := records_publication records outcome settled entitled ⟨once.1, once.2.1⟩
  have unobserved (observer : Observer) :
      .observed index observer ∉ publication index outcome :: state.events := by
    intro listed
    rcases List.mem_cons.mp listed with same | before
    · exact observed_ne_publication index index observer outcome same
    · exact once.2.2 observer before
  have quiet (old : Event D E) (apart : ∀ data, old ≠ .applied index data)
      (apart' : ∀ error, old ≠ .failed index error)
      (listed : old ∈ publication index outcome :: state.events) : old ∈ state.events := by
    apply (List.mem_cons.mp listed).resolve_left
    cases outcome with
    | ok data => exact apart data
    | error error => exact apart' error
  apply published.cons (.observed index .outcome) rfl
  · intro other invocation found
    exact (published.invocations other invocation found).cons _ rfl nofun
  · exact fun _ _ => id
  · exact List.mem_cons_of_mem _ (List.mem_cons_of_mem _ settled)
  · intro other waits
    obtain rfl := Option.some.inj waits
    refine ⟨List.mem_cons_self, fun listed => ?_⟩
    exact unobserved .settled ((List.mem_cons.mp listed).resolve_left (by simp))
  · simp
  · simp
  · refine ⟨⟨?_, ?_, fun gone => ?_⟩, unobserved .outcome⟩
    · cases outcome <;> exact entitled.newest
    · rintro ⟨sources, started, source, listed, aborts⟩
      exact entitled.live
        ⟨sources, quiet _ nofun nofun started, source, listed, quiet _ nofun nofun aborts⟩
    · exact entitled.mounted (quiet _ nofun nofun gone)

/-- Nothing is in flight once the invocation in charge has settled. -/
theorem no_fetch_after_settled {events : List (Event D E)} (newest : latest events = some index)
    (settled : .settled index ∈ events) :
    false = true ↔ ∃ index, latest events = some index ∧ .settled index ∉ events := by
  constructor
  · exact nofun
  · rintro ⟨other, same, open_⟩
    rw [newest] at same
    obtain rfl := Option.some.inj same
    exact absurd settled open_

/-- The three checks of a settlement tell whether the invocation is in charge. -/
theorem entitled_iff (records : RecordsOk state)
    (found : state.invocations[index]? = some invocation) (open_ : invocation.settled = false) :
    Entitled state.events index ↔ invocation.myId = state.ownerId ∧
      invocation.signal.isAborted state.aborted = false ∧ state.mounted = true := by
  have ok := records.invocations index invocation found
  have aborts : invocation.signal.isAborted state.aborted = true ↔
      WasAborted state.events index := by
    rw [(ok.signal open_).isAborted]
    constructor
    · rintro ⟨source, listed, aborted⟩
      exact ⟨_, ok.started, source, listed, (records.aborted source).mp aborted⟩
    · rintro ⟨sources, started, source, listed, aborted⟩
      obtain ⟨same, known, rfl⟩ := records.known _ started
      rw [found] at known
      obtain rfl := Option.some.inj known
      exact ⟨source, listed, (records.aborted source).mpr aborted⟩
  rw [ok.newest, records.mounted, Bool.eq_false_iff, ne_eq, aborts]
  exact ⟨fun entitled => ⟨entitled.newest, entitled.live, entitled.mounted⟩,
    fun ⟨newest, live, mounted⟩ => ⟨newest, live, mounted⟩⟩

theorem entitled_settled {events : List (Event D E)} (entitled : Entitled events index) :
    Entitled (.settled index :: events) index :=
  ⟨entitled.newest, by simpa [WasAborted] using entitled.live, by simpa using entitled.mounted⟩

/-- An invocation that has not settled has not published. -/
theorem unpublished (records : RecordsOk state) (open_ : .settled index ∉ state.events) :
    (∀ data, .applied index data ∉ .settled index :: state.events) ∧
      (∀ error, .failed index error ∉ .settled index :: state.events) ∧
      ∀ observer, .observed index observer ∉ .settled index :: state.events := by
  refine ⟨fun data listed => ?_, fun error listed => ?_, fun observer listed => ?_⟩
  · exact open_ (records.known (.applied index data) (by simpa using listed))
  · exact open_ (records.known (.failed index error) (by simpa using listed))
  · exact open_ (records.known (.observed index observer) (by simpa using listed))

theorem inv_settle (inv : Inv initial state) (found : state.invocations[index]? = some invocation)
    (open_ : invocation.settled = false) (outcome : Except E (ListResult D)) :
    Inv initial (state.settle index invocation outcome) := by
  have records := records_settled inv.records found open_
  have here := inv.records.invocations index invocation found
  have ok := inv.shown
  have fresh : .settled index ∉ state.events := by
    rw [← here.settled, open_]
    decide
  have once := unpublished inv.records fresh
  have cleared : (if state.hasData then state.isLoading else false) = false := by
    cases data : state.hasData with
    | false => rfl
    | true => exact ok.loaded data
  have settledHere : (.settled index : Event D E) ∈ .settled index :: state.events :=
    List.mem_cons_self
  unfold settle
  by_cases stale : invocation.myId ≠ state.ownerId
  · rw [if_pos stale]
    refine ⟨⟨records, { ok with fetching := fun mounted => ?_ }⟩, inv.loading⟩
    rw [ok.fetching mounted]
    constructor
    · rintro ⟨other, newest, flies⟩
      have apart : other ≠ index := by
        rintro rfl
        exact stale (here.newest.mpr newest)
      exact ⟨other, newest, by simpa [apart] using flies⟩
    · rintro ⟨other, newest, flies⟩
      exact ⟨other, newest, fun listed => flies (List.mem_cons_of_mem _ listed)⟩
  · have owner := not_ne_iff.mp stale
    have newest := here.newest.mp owner
    -- nobody looks at an unmounted hook any more
    have gone (mounted : ¬state.mounted = true) : Inv initial { state with
        invocations := state.invocations.set index
          { invocation with
            settled := true
            signal := invocation.signal.release }
        events := .settled index :: state.events } := by
      refine ⟨⟨records, ?_⟩, fun alive => absurd alive mounted⟩
      exact
        { ok with
          fetching := fun alive => absurd alive mounted
          previous := fun alive => absurd alive mounted }
    rw [if_neg stale]
    by_cases aborted : invocation.signal.isAborted state.aborted = true
    · rw [if_pos aborted, cancelled]
      by_cases mounted : state.mounted = true
      · rw [if_pos mounted]
        refine ⟨⟨{ records with }, ?_⟩, fun _ loads => ?_⟩
        · exact
            { ok with
              fetching := fun _ => no_fetch_after_settled newest settledHere
              loaded := fun _ => cleared
              previous := nofun }
        · exact absurd (loads.symm.trans cleared) (by decide)
      · rw [if_neg mounted]
        exact gone mounted
    · rw [if_neg aborted]
      by_cases mounted : state.mounted = true
      · have entitled := entitled_settled <|
          (entitled_iff inv.records found open_).mpr
            ⟨owner, Bool.eq_false_iff.mpr aborted, mounted⟩
        rw [if_neg (by simp [mounted])]
        cases outcome with
        | ok result =>
          have published := records_published records (.ok result.data) settledHere entitled once
          refine ⟨⟨{ published with }, ?_⟩, nofun⟩
          exact
            { ok with
              fetching := fun _ => no_fetch_after_settled newest
                (List.mem_cons_of_mem _ (List.mem_cons_of_mem _ settledHere))
              loaded := fun _ => rfl
              hasData := rfl
              hasSettled := rfl
              data := rfl
              latestData := rfl
              previous := nofun }
        | error error =>
          have published := records_published records (.error error) settledHere entitled once
          refine ⟨⟨{ published with }, ?_⟩, fun _ loads => ?_⟩
          · exact
              { ok with
                fetching := fun _ => no_fetch_after_settled newest
                  (List.mem_cons_of_mem _ (List.mem_cons_of_mem _ settledHere))
                loaded := fun _ => cleared
                error := rfl
                previous := nofun }
          · exact absurd (loads.symm.trans cleared) (by decide)
      · rw [if_pos (by simp [mounted])]
        exact gone mounted

theorem inv_observe (inv : Inv initial state) (waits : state.observing = some index) :
    Inv initial (state.observe index) := by
  have idle : RecordsOk { state with observing := none } := { inv.records with observing := nofun }
  have ok := inv.shown
  rw [observe]
  by_cases mounted : state.mounted = true
  · obtain ⟨first, second⟩ := inv.records.observing index waits
    rw [if_pos mounted, log]
    refine ⟨⟨?_, { ok with fetching := by simpa [latest] using ok.fetching }⟩, inv.loading⟩
    refine idle.cons (.observed index .settled) rfl ?_ (fun _ _ => id) ?_ nofun (by simp) (by simp)
      ⟨first, second, idle.mounted.mp mounted⟩
    · intro other invocation found
      exact (idle.invocations other invocation found).cons _ rfl nofun
    · exact List.mem_cons_of_mem _ (inv.records.known _ first)
  · rw [if_neg mounted]
    exact ⟨⟨idle, { ok with }⟩, inv.loading⟩

end WebTsToolkit.AccessRouterReact.AutoQuery
