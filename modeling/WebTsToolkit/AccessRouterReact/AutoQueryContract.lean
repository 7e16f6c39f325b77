import WebTsToolkit.AccessRouterReact.AutoQuerySteps

set_option autoImplicit false

namespace WebTsToolkit.AccessRouterReact.AutoQuery

open Library

variable {D E : Type} {initial : D} {state next : AutoQuery D E}

/-- An event that leaves no invocation in charge. -/
def Ends : Event D E → Prop
  | .disabled | .reset _ => True
  | _ => False

/-- Without an invocation in charge, each one has an older id. -/
theorem records_ended (records : RecordsOk state) (event : Event D E) (ends : Ends event) :
    RecordsOk { state with ownerId := state.ownerId + 1, events := event :: state.events } := by
  have none : latest (event :: state.events) = none := by
    cases event <;> first | rfl | exact ends.elim
  refine records.cons event rfl ?_ (fun _ _ => id) ?_ (records.observing.cons fun _ => ?_) ?_ ?_ ?_
  · intro index invocation found
    have ok := records.invocations index invocation found
    have before := ok.owned
    have apart : event ≠ .settled index := by
      rintro rfl
      exact ends
    exact {
      started := List.mem_cons_of_mem _ ok.started
      owned := Nat.le_succ_of_le before
      newest := by
        rw [none]
        exact ⟨fun same => absurd before (same ▸ Nat.not_succ_le_self _), nofun⟩
      settled := by rw [ok.settled, List.mem_cons, or_iff_right apart.symm]
      signal := ok.signal }
  · cases event <;> trivial
  · rintro rfl
    exact ends
  · intro source
    cases event <;> first | exact ends.elim | simp
  · cases event <;> first | exact ends.elim | simp
  · cases event <;> trivial

theorem inv_disabled (core : Core initial state) :
    Inv initial
      { state with
        ownerId := state.ownerId + 1
        abortScope := none
        isLoading := false
        isFetching := false
        previousData := none
        events := .disabled :: state.events } where
  records := { records_ended core.records .disabled trivial with }
  shown :=
    { core.shown with
      fetching := by simp [latest]
      loaded := fun _ => rfl
      previous := nofun }
  loading := nofun

theorem inv_reset (core : Core initial state) (initialData : D) :
    Inv initial (state.reset initialData) where
  records := { records_ended core.records (.reset initialData) trivial with }
  shown := {
    fetching := by simp [reset, latest]
    loaded := fun _ => rfl
    hasData := rfl
    hasSettled := rfl
    data := rfl
    latestData := rfl
    error := rfl
    previous := nofun }
  loading := nofun

theorem abortController_ownerId (state : AutoQuery D E) (ownerId : Nat) (controller : Option Nat) :
    { state with ownerId }.abortController controller =
      { state.abortController controller with ownerId } := by
  cases controller with
  | none => rfl
  | some invocation =>
    rw [abortController, abortController, abortSource, abortSource]
    split <;> rfl

theorem abortController_keeps (state : AutoQuery D E) (controller : Option Nat) :
    (state.abortController controller).ownerId = state.ownerId ∧
      (state.abortController controller).mounted = state.mounted := by
  cases controller with
  | none => exact ⟨rfl, rfl⟩
  | some invocation =>
    rw [abortController, abortSource]
    split <;> exact ⟨rfl, rfl⟩

/-- The flag for a first load may be set before a call that sets it as well. -/
theorem core_isLoading (core : Core initial state) {isLoading : Bool}
    (loaded : state.hasData = true → isLoading = false) :
    Core initial { state with isLoading } where
  records := { core.records with }
  shown := { core.shown with loaded }

/-- What nothing of the invariant reads. -/
theorem inv_abortScope (inv : Inv initial state) (abortScope : Option Nat) :
    Inv initial { state with abortScope } where
  records := { inv.records with }
  shown := { inv.shown with }
  loading := inv.loading

theorem inv_effect (core : Core initial state) (shouldFetch keepPreviousData : Bool)
    (requestSignal : Option Source) :
    Inv initial (state.effect shouldFetch keepPreviousData requestSignal) := by
  have calm := core_abortController core state.abortScope
  rw [effect]
  generalize state.abortController state.abortScope = state at calm
  dsimp only
  split
  · have loading : Core initial { state with isLoading := !state.hasData } :=
      core_isLoading calm fun data => by rw [data]; rfl
    exact inv_abortScope (inv_runWithCallbacks loading keepPreviousData [requestSignal]) _
  · have calmer := core_abortController calm state.managed
    have keeps := abortController_keeps state state.managed
    rw [abortController_ownerId, ← keeps.1]
    exact inv_disabled calmer

theorem inv_unmount (core : Core initial state) : Inv initial state.unmount := by
  have calm := core_abortController (core_abortController core state.abortScope) state.managed
  rw [unmount]
  generalize (state.abortController state.abortScope).abortController state.managed = state at calm
  obtain ⟨records, ok⟩ := calm
  have ended : RecordsOk { state with mounted := false, events := .unmounted :: state.events } := by
    refine records.cons .unmounted rfl ?_ (fun _ _ => id) trivial (records.observing.cons nofun)
      (by simp) (by simp) trivial
    intro index invocation found
    exact (records.invocations index invocation found).cons _ rfl nofun
  refine ⟨⟨{ ended with }, { ok with fetching := nofun, previous := nofun }⟩, nofun⟩

/-- Each step keeps the invariant. -/
theorem inv_step (inv : Inv initial state) (action : Action D E)
    (taken : state.step action = some next) : Inv initial next := by
  cases action with
  | effect shouldFetch keepPreviousData requestSignal =>
    rw [step] at taken
    split at taken
    case isFalse => contradiction
    rw [← Option.some.inj taken]
    exact inv_effect inv.toCore shouldFetch keepPreviousData requestSignal
  | query keepPreviousData requestSignal callerSignal =>
    rw [← Option.some.inj taken]
    exact inv_runWithCallbacks inv.toCore keepPreviousData [requestSignal, callerSignal]
  | refetch keepPreviousData requestSignal =>
    rw [← Option.some.inj taken]
    exact inv_runWithCallbacks inv.toCore keepPreviousData [requestSignal]
  | abort id =>
    rw [← Option.some.inj taken]
    refine ⟨core_abortSource inv.toCore (.caller id), ?_⟩
    rw [abortSource]
    split <;> exact inv.loading
  | reset initialData =>
    rw [← Option.some.inj taken]
    exact inv_reset inv.toCore initialData
  | unmount =>
    rw [step] at taken
    split at taken
    case isFalse => contradiction
    rw [← Option.some.inj taken]
    exact inv_unmount inv.toCore
  | settle index outcome =>
    rw [step] at taken
    split at taken
    case h_2 => contradiction
    next invocation _ found =>
      split at taken
      · contradiction
      · next open_ =>
        rw [← Option.some.inj taken]
        exact inv_settle inv found (Bool.eq_false_iff.mpr open_) outcome
  | observe =>
    obtain ⟨index, waits, same⟩ := Option.map_eq_some_iff.mp taken
    rw [← same]
    exact inv_observe inv waits

theorem inv_start (initial : D) : Inv initial (system (E := E) initial).start where
  records := {
    invocations := nofun
    known := nofun
    observing := nofun
    aborted := by simp [system]
    mounted := by simp [system]
    traced := trivial }
  shown := {
    fetching := by simp [system, latest]
    loaded := fun _ => rfl
    hasData := rfl
    hasSettled := rfl
    data := rfl
    latestData := rfl
    error := rfl
    previous := nofun }
  loading := nofun

/-- A step that runs no first observer, and leaves the second one to run if there is one. -/
def Passes (state next : AutoQuery D E) : Prop :=
  next.observing = state.observing ∧ ∃ added, next.events = added ++ state.events ∧
    ∀ index, .observed index .outcome ∉ added

theorem Passes.refl (state : AutoQuery D E) : Passes state state :=
  ⟨rfl, [], rfl, fun _ => List.not_mem_nil⟩

theorem Passes.cons {final : AutoQuery D E} {event : Event D E} (passes : Passes state next)
    (observing : final.observing = next.observing) (events : final.events = event :: next.events)
    (apart : ∀ index, event ≠ .observed index .outcome) : Passes state final := by
  obtain ⟨same, added, grown, none⟩ := passes
  refine ⟨observing.trans same, event :: added, ?_, fun index listed => ?_⟩
  · rw [events, grown, List.cons_append]
  · rcases List.mem_cons.mp listed with first | later
    · exact apart index first.symm
    · exact none index later

theorem Passes.abortController {middle : AutoQuery D E} (passes : Passes state middle)
    (controller : Option Nat) : Passes state (middle.abortController controller) := by
  cases controller with
  | none => exact passes
  | some invocation =>
    rw [AutoQuery.abortController, abortSource]
    split
    · exact passes
    · exact passes.cons rfl rfl fun _ same => by contradiction

theorem Passes.runWithCallbacks {middle : AutoQuery D E} (passes : Passes state middle)
    (keepPreviousData : Bool) (otherSignals : List (Option Source)) :
    Passes state (middle.runWithCallbacks keepPreviousData otherSignals) :=
  (passes.abortController middle.managed).cons rfl rfl nofun

theorem Passes.effect (shouldFetch keepPreviousData : Bool) (requestSignal : Option Source) :
    Passes state (state.effect shouldFetch keepPreviousData requestSignal) := by
  have calm := (Passes.refl state).abortController state.abortScope
  rw [AutoQuery.effect]
  dsimp only
  split
  · have loading : Passes state { state.abortController state.abortScope with
        isLoading := !(state.abortController state.abortScope).hasData } := calm
    exact loading.runWithCallbacks keepPreviousData [requestSignal]
  · have disowned : Passes state { state.abortController state.abortScope with
        ownerId := (state.abortController state.abortScope).ownerId + 1 } := calm
    exact (disowned.abortController (state.abortController state.abortScope).managed).cons
      rfl rfl nofun

/-- Every invocation that ran its first observer ran the second, or is to run it, unless the hook
was unmounted. -/
def Observed (state : AutoQuery D E) : Prop :=
  ∀ index, .observed index .outcome ∈ state.events → .observed index .settled ∈ state.events ∨
    state.observing = some index ∨ .unmounted ∈ state.events

theorem Passes.observed (passes : Passes state next) (observed : Observed state) :
    Observed next := by
  obtain ⟨same, added, grown, none⟩ := passes
  intro index ran
  rw [grown, List.mem_append, or_iff_right (none index)] at ran
  rw [same, grown, List.mem_append, List.mem_append]
  rcases observed index ran with second | waits | gone
  · exact Or.inl (Or.inr second)
  · exact Or.inr (Or.inl waits)
  · exact Or.inr (Or.inr (Or.inr gone))

/-- What a settlement does to the history: the invocation in charge publishes its outcome and runs
its first observer, and any other leaves it at that. -/
def Settles (state next : AutoQuery D E) (index : Nat) (outcome : Except E (ListResult D)) : Prop :=
  (Entitled state.events index → next.observing = some index ∧
    next.events = .observed index .outcome :: publication index (outcome.map ListResult.data) ::
      .settled index :: state.events) ∧
  (¬Entitled state.events index → next.observing = none ∧
    next.events = .settled index :: state.events)

theorem settles (inv : Inv initial state) {index : Nat} {outcome : Except E (ListResult D)}
    (taken : state.step (.settle index outcome) = some next) :
    state.observing = none ∧ Settles state next index outcome := by
  rw [step] at taken
  split at taken
  case h_2 => contradiction
  next invocation idle found =>
    split at taken
    · contradiction
    · next open_ =>
      have charge := entitled_iff inv.records found (Bool.eq_false_iff.mpr open_)
      rw [← Option.some.inj taken]
      refine ⟨idle, fun entitled => ?_, fun other => ?_⟩
      · obtain ⟨owner, live, mounted⟩ := charge.mp entitled
        unfold settle
        rw [if_neg (not_not.mpr owner), if_neg (by simp [live]), if_neg (by simp [mounted])]
        cases outcome <;> exact ⟨rfl, rfl⟩
      · rw [charge, not_and_or, not_and_or] at other
        unfold settle
        dsimp only
        split
        · exact ⟨idle, rfl⟩
        · next owner =>
          split
          · rw [cancelled]
            split <;> exact ⟨idle, rfl⟩
          · next live =>
            split
            · exact ⟨idle, rfl⟩
            · next mounted =>
              rcases other with newer | aborts | unmounted
              · exact absurd newer owner
              · exact absurd (Bool.eq_false_iff.mpr live) aborts
              · exact absurd (by simpa using unmounted) mounted

theorem observed_step (inv : Inv initial state) (observed : Observed state)
    {action : Action D E} (taken : state.step action = some next) : Observed next := by
  cases action with
  | effect shouldFetch keepPreviousData requestSignal =>
    rw [step] at taken
    split at taken
    case isFalse => contradiction
    rw [← Option.some.inj taken]
    exact (Passes.effect shouldFetch keepPreviousData requestSignal).observed observed
  | query keepPreviousData requestSignal callerSignal | refetch keepPreviousData requestSignal =>
    rw [← Option.some.inj taken]
    exact ((Passes.refl state).runWithCallbacks _ _).observed observed
  | abort id =>
    have passes : Passes state (state.abortSource (.caller id)) := by
      rw [abortSource]
      split
      · exact .refl state
      · exact (Passes.refl state).cons rfl rfl fun _ same => by contradiction
    rw [← Option.some.inj taken]
    exact passes.observed observed
  | reset initialData =>
    have passes : Passes state (state.reset initialData) :=
      (Passes.refl state).cons rfl rfl fun _ same => by contradiction
    rw [← Option.some.inj taken]
    exact passes.observed observed
  | unmount =>
    rw [step] at taken
    split at taken
    case isFalse => contradiction
    rw [← Option.some.inj taken]
    exact fun _ _ => Or.inr (Or.inr List.mem_cons_self)
  | settle index outcome =>
    obtain ⟨idle, published, silent⟩ := settles inv taken
    intro other ran
    by_cases entitled : Entitled state.events index
    · obtain ⟨waits, events⟩ := published entitled
      rw [waits]
      rw [events] at ran ⊢
      rcases List.mem_cons.mp ran with first | before
      · exact Or.inr (Or.inl (congrArg some (Event.observed.inj first).1.symm))
      · have before := (List.mem_cons.mp before).resolve_left (observed_ne_publication _ _ _ _)
        rcases observed other (by simpa using before) with second | waits | gone
        · exact Or.inl (by simp [second])
        · rw [idle] at waits
          contradiction
        · exact Or.inr (Or.inr (by simp [gone]))
    · obtain ⟨_, events⟩ := silent entitled
      rw [events] at ran ⊢
      rcases observed other (by simpa using ran) with second | waits | gone
      · exact Or.inl (List.mem_cons_of_mem _ second)
      · rw [idle] at waits
        contradiction
      · exact Or.inr (Or.inr (List.mem_cons_of_mem _ gone))
  | observe =>
    obtain ⟨index, waits, same⟩ := Option.map_eq_some_iff.mp taken
    rw [← same, observe]
    intro other ran
    split at ran
    · next mounted =>
      rw [if_pos mounted]
      rcases observed other (by simpa [log] using ran) with second | here | gone
      · exact Or.inl (List.mem_cons_of_mem _ second)
      · rw [waits] at here
        rw [Option.some.inj here]
        exact Or.inl List.mem_cons_self
      · exact Or.inr (Or.inr (List.mem_cons_of_mem _ gone))
    · next gone =>
      rw [if_neg gone]
      exact Or.inr (Or.inr (not_not.mp (gone ∘ inv.records.mounted.mpr)))

/-- What a hook exposes at any time, in terms of what has happened to it so far. -/
structure Contract (initial : D) (state : AutoQuery D E) : Prop where
  /-- who applies a result or an error and starts observers, and that they run in turn -/
  published : ∀ after event before, state.events = after ++ event :: before →
    Allowed before event
  /-- the invocation in charge publishes as it settles, and no other -/
  settles : ∀ index outcome next, state.step (.settle index outcome) = some next →
    Settles state next index outcome
  /-- whatever has started may settle once no observer is running -/
  settleable : ∀ index sources outcome, .started index sources ∈ state.events →
    .settled index ∉ state.events → state.observing = none →
      (state.step (.settle index outcome)).isSome
  /-- the second observer runs next, while the hook is mounted -/
  observes : ∀ index, state.observing = some index → ∃ next, state.step .observe = some next ∧
    next.observing = none ∧ next.events =
      if state.mounted then .observed index .settled :: state.events else state.events
  observed : Observed state
  fetching : state.mounted = true → (state.isFetching = true ↔
    ∃ index, latest state.events = some index ∧ .settled index ∉ state.events)
  loading : state.mounted = true → state.isLoading = true → state.isFetching = true
  loaded : hasApplied state.events = true → state.isLoading = false
  settled : state.mounted = true →
    (∀ index, latest state.events = some index → .settled index ∈ state.events) →
    state.isFetching = false ∧ state.isLoading = false
  data : state.data = shown initial state.events
  error : state.error = lastError state.events
  previous : state.mounted = true → ∀ page, state.previousData = some page →
    state.isFetching = true ∧ page = state.data

/-- After every order of calls, aborts, settlements and effects, the hook exposes the newest
request only. -/
theorem exposes_newest (initial : D) (reached : (system initial).Reachable state) :
    Contract initial state := by
  obtain ⟨inv, observed⟩ : Inv initial state ∧ Observed state := by
    induction reached with
    | start => exact ⟨inv_start initial, nofun⟩
    | step action _ taken ih => exact ⟨inv_step ih.1 action taken, observed_step ih.1 ih.2 taken⟩
  have ok := inv.shown
  have idle (mounted : state.mounted = true)
      (all : ∀ index, latest state.events = some index → .settled index ∈ state.events) :
      state.isFetching = false := by
    rw [Bool.eq_false_iff]
    intro fetches
    obtain ⟨index, newest, open_⟩ := (ok.fetching mounted).mp fetches
    exact open_ (all index newest)
  exact {
    published := fun _ _ _ split => inv.records.traced.allowed split
    settles := fun _ _ _ taken => (settles inv taken).2
    settleable := by
      intro index sources outcome started open_ idle
      obtain ⟨invocation, found, _⟩ := inv.records.known _ started
      have unsettled : ¬invocation.settled = true := by
        rwa [(inv.records.invocations index invocation found).settled]
      rw [step, idle, found]
      dsimp only
      rw [if_neg unsettled]
      rfl
    observes := by
      intro index waits
      refine ⟨state.observe index, by rw [step, waits]; rfl, ?_⟩
      rw [observe]
      dsimp only
      split <;> exact ⟨rfl, rfl⟩
    observed
    fetching := ok.fetching
    loading := inv.loading
    loaded := fun applied => ok.loaded (ok.hasData.trans applied)
    settled := by
      intro mounted all
      refine ⟨idle mounted all, ?_⟩
      rw [Bool.eq_false_iff]
      intro loads
      have fetches := inv.loading mounted loads
      rw [idle mounted all] at fetches
      contradiction
    data := ok.data
    error := ok.error
    previous := ok.previous }

theorem exposes_newest_overlapping :
    ∃ state : AutoQuery Nat String,
      (system 0).run [.effect true true none, .query true none (some (.caller 3)), .abort 3,
        .settle 0 (.ok ⟨5, 1⟩), .settle 1 (.error "late")] = some state ∧ Contract 0 state := by
  have ran : ∃ state : AutoQuery Nat String, (system 0).run [.effect true true none,
      .query true none (some (.caller 3)), .abort 3, .settle 0 (.ok ⟨5, 1⟩),
      .settle 1 (.error "late")] = some state := ⟨_, rfl⟩
  obtain ⟨state, ran⟩ := ran
  exact ⟨state, ran, exposes_newest 0 (TransitionSystem.Reachable.of_run ran)⟩

/-- The second observer of a request runs although its first one has started a newer request. -/
theorem observes_after_newer :
    ¬∀ state : AutoQuery Nat String, (system 0).Reachable state →
      ∀ after before invocation observer,
        state.events = after ++ .observed invocation observer :: before →
        latest before = some invocation := by
  intro claimed
  have ran : ∃ state : AutoQuery Nat String, (system 0).run
        [.effect true false none, .settle 0 (.ok ⟨5, 1⟩), .query false none none, .observe] =
          some state ∧
      state.events.head? = some (.observed 0 .settled) ∧ latest state.events.tail = some 1 :=
    ⟨_, rfl, rfl, rfl⟩
  obtain ⟨state, ran, last, newest⟩ := ran
  have whole := (List.cons_head?_tail last).symm
  have here := claimed state (TransitionSystem.Reachable.of_run ran) [] _ 0 .settled whole
  rw [newest] at here
  exact absurd here (by decide)

end WebTsToolkit.AccessRouterReact.AutoQuery
