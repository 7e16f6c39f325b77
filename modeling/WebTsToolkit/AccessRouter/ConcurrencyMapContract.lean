import Mathlib.Data.List.Nodup
import Mathlib.Data.List.Perm.Subperm
import Mathlib.Logic.Function.Basic
import Mathlib.Tactic.Linarith
import WebTsToolkit.AccessRouter.ConcurrencyMap

set_option autoImplicit false

namespace WebTsToolkit.AccessRouter.ConcurrencyMap

open Js Library

variable {α β ε : Type} {items : List α} {limit : Number} {state : State α β ε}

/-- What the variables say about the log, whatever the workers do. -/
structure LogOk (items : List α) (state : State α β ε) : Prop where
  calls : calls state.actions = List.range state.cursor
  cursor : state.cursor ≤ items.length
  past : ∀ index ∈ settled state.actions, index < state.cursor
  own : ∀ index item, .called index item ∈ state.actions → items[index]? = some item
  results : state.results.length = items.length
  defined : ∀ index value, .fulfilled index value ∈ state.actions →
    state.results[index]? = some (some value)
  failed : state.failed = true ↔ failures state.actions ≠ []
  failure : state.failure = (failures state.actions).head?
  reports : reports state.actions = (failures state.actions).head?.toList
  quiet : ∀ before index error after, state.actions = before ++ .failed index error :: after →
    ConcurrencyMap.calls after = []

/-- What the workers say about the log. -/
structure CrewOk (items : List α) (crew : Nat → Option Worker) (state : State α β ε) : Prop where
  awaited : ∀ index, index < state.cursor → index ∉ settled state.actions →
    ∃ worker, crew worker = some (.calling index)
  calling : ∀ worker index, crew worker = some (.calling index) →
    index < state.cursor ∧ index ∉ settled state.actions
  apart : ∀ worker other index, crew worker = some (.calling index) →
    crew other = some (.calling index) → worker = other
  returned : ∀ worker, crew worker = some .returned →
    state.failed = true ∨ state.cursor = items.length
  rejected : ∀ worker, crew worker = some .rejected → state.failed = true

theorem LogOk.of_workers (log : LogOk items state) (workers : List Worker) :
    LogOk items { state with workers } :=
  { log with }

theorem CrewOk.of_workers {crew : Nat → Option Worker} (ok : CrewOk items crew state)
    (workers : List Worker) : CrewOk items crew { state with workers } :=
  { ok with }

/-- After the first failure nothing is called, so a call is only logged before it. -/
theorem quiet_append {actions : List (Action α β ε)} {action : Action α β ε}
    (quiet : ∀ before index error after, actions = before ++ .failed index error :: after →
      calls after = [])
    (silent : calls [action] = [] ∨ failures actions = []) :
    ∀ before index error after, actions ++ [action] = before ++ .failed index error :: after →
      calls after = [] := by
  intro before index error after same
  rcases List.eq_nil_or_concat after with rfl | ⟨rest, last, rfl⟩
  · rfl
  · have split : actions ++ [action] = (before ++ .failed index error :: rest) ++ [last] := by
      simpa using same
    obtain ⟨here, alike⟩ := List.append_inj' split rfl
    have earlier := quiet before index error rest here
    rcases silent with silent | unfailed
    · rw [List.singleton_inj.mp alike] at silent
      simp only [List.concat_eq_append]
      exact List.append_eq_nil_iff.mpr ⟨earlier, silent⟩ ▸ List.filterMap_append
    · rw [here] at unfailed
      simp at unfailed

theorem LogOk.define (log : LogOk items state) {index : Nat} (value : β)
    (fresh : index ∉ settled state.actions) (before : index < state.cursor) :
    LogOk items (state.define index value) where
  calls := by simpa [State.define, List.filterMap_cons] using log.calls
  cursor := log.cursor
  past := by
    intro other member
    simp only [State.define, List.filterMap_append, List.mem_append] at member
    rcases member with member | member
    · exact log.past other member
    · simp at member
      rwa [member]
  own := by
    intro other item member
    simp [State.define] at member
    exact log.own other item member
  results := by simpa [State.define, List.filterMap_cons] using log.results
  defined := by
    intro other earlier member
    simp only [State.define, List.mem_append, List.mem_singleton, Action.fulfilled.injEq] at member ⊢
    rcases member with member | ⟨rfl, rfl⟩
    · have apart : index ≠ other := by
        rintro rfl
        apply fresh
        exact List.mem_filterMap.mpr ⟨_, member, rfl⟩
      rw [List.getElem?_set_ne apart]
      exact log.defined other earlier member
    · have bound : other < state.results.length := by
        have := log.cursor
        have := log.results
        omega
      exact List.getElem?_set_self bound
  failed := by simpa [State.define, List.filterMap_cons] using log.failed
  failure := by simpa [State.define, List.filterMap_cons] using log.failure
  reports := by simpa [State.define, List.filterMap_cons] using log.reports
  quiet := quiet_append log.quiet (Or.inl rfl)

theorem LogOk.catches (log : LogOk items state) {index : Nat} (before : index < state.cursor)
    (error : ε) : LogOk items (state.catches index error) := by
  have first := log.failed
  have past : ∀ other ∈ settled state.actions ++ [index], other < state.cursor := by
    intro other member
    rcases List.mem_append.mp member with member | member
    · exact log.past other member
    · rwa [List.mem_singleton.mp member]
  by_cases failed : state.failed = true
  · have some := first.mp failed
    refine ⟨?_, ?_, ?_, ?_, ?_, ?_, ?_, ?_, ?_, ?_⟩
    all_goals simp only [State.catches, failed, if_true]
    · simpa [List.filterMap_cons] using log.calls
    · exact log.cursor
    · simpa [List.filterMap_cons] using past
    · intro other item member
      simp at member
      exact log.own other item member
    · exact log.results
    · intro other value member
      simp at member
      exact log.defined other value member
    · simp
    · rw [failures, List.filterMap_append, List.head?_append_of_ne_nil _ some]
      exact log.failure
    · rw [failures, List.filterMap_append, List.head?_append_of_ne_nil _ some]
      simpa [List.filterMap_cons] using log.reports
    · exact quiet_append log.quiet (Or.inl rfl)
  · have none : failures state.actions = [] := by
      by_contra some
      exact failed (first.mpr some)
    have unreported : ConcurrencyMap.reports state.actions = [] := by
      rw [log.reports, none]
      rfl
    refine ⟨?_, ?_, ?_, ?_, ?_, ?_, ?_, ?_, ?_, ?_⟩
    all_goals simp only [State.catches, failed, Bool.false_eq_true, if_false]
    · simpa [List.filterMap_cons] using log.calls
    · exact log.cursor
    · simpa [List.filterMap_cons] using past
    · intro other item member
      simp at member
      exact log.own other item member
    · exact log.results
    · intro other value member
      simp at member
      exact log.defined other value member
    · simp
    · simp [none]
    · simpa [List.filterMap_cons, none] using unreported
    · exact quiet_append (quiet_append log.quiet (Or.inl rfl)) (Or.inl rfl)

theorem LogOk.called (log : LogOk items state) {item : α}
    (next : items[state.cursor]? = some item) (unfailed : state.failed = false) :
    LogOk items
      { state with
        cursor := state.cursor + 1
        actions := state.actions ++ [.called state.cursor item] } where
  calls := by
    have earlier := log.calls
    simp [List.range_succ, earlier]
  cursor := by
    have inside := (List.getElem?_eq_some_iff.mp next).1
    exact inside
  past := by
    intro other member
    have before := log.past other (by simpa [List.filterMap_cons] using member)
    show other < state.cursor + 1
    omega
  own := by
    intro other item' member
    simp only [List.mem_append, List.mem_singleton, Action.called.injEq] at member
    rcases member with member | ⟨rfl, rfl⟩
    · exact log.own other item' member
    · exact next
  results := log.results
  defined := by
    intro other value member
    simp at member
    exact log.defined other value member
  failed := by simpa [List.filterMap_cons] using log.failed
  failure := by simpa [List.filterMap_cons] using log.failure
  reports := by simpa [List.filterMap_cons] using log.reports
  quiet := by
    apply quiet_append log.quiet
    right
    by_contra some
    rw [log.failed.mpr some] at unfailed
    contradiction

variable {crew : Nat → Option Worker} {worker index : Nat}

theorem update_eq_some {value : Option Worker} {other : Nat} {here : Worker} :
    Function.update crew worker value other = some here ↔
      other = worker ∧ value = some here ∨ other ≠ worker ∧ crew other = some here := by
  by_cases same : other = worker
  · simp [same]
  · simp [same]

/-- A worker gets another place, and the calls of the others go on. -/
theorem CrewOk.assign (ok : CrewOk items crew state) {next : State α β ε} {value : Option Worker}
    (awaited : ∀ other, other < next.cursor → other ∉ settled next.actions →
      value = some (.calling other) ∨ other < state.cursor ∧ other ∉ settled state.actions ∧
        crew worker ≠ some (.calling other))
    (calling : ∀ other, value = some (.calling other) →
      other < next.cursor ∧ other ∉ settled next.actions ∧ ¬other < state.cursor)
    (kept : ∀ mate other, mate ≠ worker → crew mate = some (.calling other) →
      other < next.cursor ∧ other ∉ settled next.actions)
    (returned : value = some .returned ∨ state.failed = true ∨ state.cursor = items.length →
      next.failed = true ∨ next.cursor = items.length)
    (rejected : value = some .rejected ∨ state.failed = true → next.failed = true) :
    CrewOk items (Function.update crew worker value) next where
  awaited other before unsettled := by
    rcases awaited other before unsettled with rfl | ⟨known, pending, elsewhere⟩
    · exact ⟨worker, Function.update_self _ _ _⟩
    · obtain ⟨awaiting, found⟩ := ok.awaited other known pending
      refine ⟨awaiting, update_eq_some.mpr (Or.inr ⟨?_, found⟩)⟩
      rintro rfl
      exact elsewhere found
  calling other index found := by
    rcases update_eq_some.mp found with ⟨_, same⟩ | ⟨apart, found⟩
    · exact ⟨(calling index same).1, (calling index same).2.1⟩
    · exact kept other index apart found
  apart first second index found found' := by
    rcases update_eq_some.mp found with ⟨here, same⟩ | ⟨_, found⟩
    · rcases update_eq_some.mp found' with ⟨there, _⟩ | ⟨_, found'⟩
      · exact here.trans there.symm
      · exact absurd (ok.calling second index found').1 (calling index same).2.2
    · rcases update_eq_some.mp found' with ⟨_, same⟩ | ⟨_, found'⟩
      · exact absurd (ok.calling first index found).1 (calling index same).2.2
      · exact ok.apart first second index found found'
  returned other found := by
    rcases update_eq_some.mp found with ⟨_, same⟩ | ⟨_, found⟩
    · exact returned (Or.inl same)
    · exact returned (Or.inr (ok.returned other found))
  rejected other found := by
    rcases update_eq_some.mp found with ⟨_, same⟩ | ⟨_, found⟩
    · exact rejected (Or.inl same)
    · exact rejected (Or.inr (ok.rejected other found))

/-- The call of one worker has settled; what the worker does next is not in the crew yet. -/
theorem CrewOk.vacate (ok : CrewOk items crew state) (next : State α β ε)
    (calling : crew worker = some (.calling index)) (cursor : next.cursor = state.cursor)
    (settles : settled next.actions = settled state.actions ++ [index])
    (failed : state.failed = true → next.failed = true) :
    CrewOk items (Function.update crew worker none) next := by
  have unsettled_iff (other : Nat) :
      other ∉ settled next.actions ↔ other ∉ settled state.actions ∧ other ≠ index := by
    rw [settles, List.mem_append, List.mem_singleton, not_or]
  refine ok.assign ?_ nofun ?_ ?_ ?_
  · intro other before unsettled
    obtain ⟨pending, apart⟩ := (unsettled_iff other).mp unsettled
    rw [calling, ← cursor]
    refine Or.inr ⟨before, pending, ?_⟩
    rintro ⟨⟩
    exact apart rfl
  · intro mate other apart found
    obtain ⟨before, pending⟩ := ok.calling mate other found
    rw [cursor, unsettled_iff]
    refine ⟨before, pending, ?_⟩
    rintro rfl
    exact apart (ok.apart mate worker _ found calling)
  · rw [cursor]
    exact fun ends => (ends.resolve_left nofun).imp_left failed
  · exact fun ends => failed (ends.resolve_left nofun)

/-- A worker that ended takes its place. -/
theorem CrewOk.ends (ok : CrewOk items crew state) (vacant : crew worker = none)
    (value : Worker) (ended : value.ended = true)
    (returned : value = .returned → state.failed = true ∨ state.cursor = items.length)
    (rejected : value = .rejected → state.failed = true) :
    CrewOk items (Function.update crew worker (some value)) state := by
  refine ok.assign ?_ ?_ (fun mate other _ => ok.calling mate other) ?_ ?_
  · intro other before pending
    rw [vacant]
    exact Or.inr ⟨before, pending, nofun⟩
  · rintro other ⟨⟩
    contradiction
  · exact fun ends => ends.elim (fun same => returned (Option.some.inj same)) id
  · exact fun ends => ends.elim (fun same => rejected (Option.some.inj same)) id

/-- A worker takes the next index. -/
theorem CrewOk.called (ok : CrewOk items crew state) (vacant : crew worker = none)
    (unfailed : state.failed = false) (next : State α β ε)
    (cursor : next.cursor = state.cursor + 1)
    (settles : settled next.actions = settled state.actions)
    (failed : next.failed = state.failed) (inside : state.cursor < items.length)
    (fresh : state.cursor ∉ settled state.actions) :
    CrewOk items (Function.update crew worker (some (.calling state.cursor))) next := by
  refine ok.assign ?_ ?_ ?_ ?_ ?_
  · intro other before pending
    rw [cursor] at before
    rw [settles] at pending
    rw [vacant]
    rcases Nat.lt_succ_iff_lt_or_eq.mp before with earlier | rfl
    · exact Or.inr ⟨earlier, pending, nofun⟩
    · exact Or.inl rfl
  · rintro other ⟨⟩
    rw [cursor, settles]
    exact ⟨Nat.lt_succ_self _, fresh, Nat.lt_irrefl _⟩
  · intro mate other _ found
    obtain ⟨before, pending⟩ := ok.calling mate other found
    rw [cursor, settles]
    exact ⟨Nat.lt_succ_of_lt before, pending⟩
  · rw [unfailed]
    rintro (⟨⟨⟩⟩ | ⟨⟨⟩⟩ | exhausted)
    omega
  · rw [failed]
    exact fun ends => ends.resolve_left nofun

theorem catches_cursor (state : State α β ε) (index : Nat) (error : ε) :
    (state.catches index error).cursor = state.cursor := by
  rw [State.catches]
  split <;> rfl

theorem catches_failed (state : State α β ε) (index : Nat) (error : ε) :
    (state.catches index error).failed = true := by
  rw [State.catches]
  split
  · assumption
  · rfl

theorem settled_catches (state : State α β ε) (index : Nat) (error : ε) :
    settled (state.catches index error).actions = settled state.actions ++ [index] := by
  rw [State.catches]
  split
  · simp
  · simp [List.filterMap_cons]

theorem catches_workers (state : State α β ε) (index : Nat) (error : ε) :
    (state.catches index error).workers = state.workers := by
  rw [State.catches]
  split <;> rfl

/-- A worker that fails. -/
theorem catches_keeps (log : LogOk items state) (ok : CrewOk items crew state)
    (calling : crew worker = some (.calling index)) (error : ε) :
    LogOk items (state.catches index error) ∧
      CrewOk items (Function.update crew worker (some .rejected)) (state.catches index error) := by
  have before := (ok.calling worker index calling).1
  have vacated := ok.vacate _ calling (catches_cursor state index error)
    (settled_catches state index error) fun _ => catches_failed state index error
  have ended := vacated.ends (Function.update_self _ _ _) .rejected rfl (by simp)
    fun _ => catches_failed state index error
  rw [Function.update_idem] at ended
  exact ⟨log.catches before error, ended⟩

/-- A worker that goes on from its place in the crew. -/
theorem run_keeps (log : LogOk items state) (ok : CrewOk items crew state)
    (vacant : crew worker = none) (thrown : Option ε) :
    LogOk items (state.run items thrown).2 ∧
      CrewOk items (Function.update crew worker (some (state.run items thrown).1))
        (state.run items thrown).2 ∧
      (state.run items thrown).2.workers = state.workers := by
  rw [State.run]
  split
  · next failed =>
    exact ⟨log, ok.ends vacant .returned rfl (fun _ => Or.inl failed) (by simp), rfl⟩
  · next unfailed =>
    rw [Bool.not_eq_true] at unfailed
    split
    · next exhausted =>
      have end_ : state.cursor = items.length := by
        have := log.cursor
        have := List.getElem?_eq_none_iff.mp exhausted
        omega
      exact ⟨log, ok.ends vacant .returned rfl (fun _ => Or.inr end_) (by simp), rfl⟩
    · next item found =>
      have inside := (List.getElem?_eq_some_iff.mp found).1
      have fresh : state.cursor ∉ settled state.actions := by
        intro member
        have := log.past _ member
        omega
      have log' := log.called found unfailed
      have ok' := ok.called vacant unfailed
        { state with
          cursor := state.cursor + 1
          actions := state.actions ++ [.called state.cursor item] }
        rfl (by simp) rfl inside fresh
      cases thrown with
      | none => exact ⟨log', ok', rfl⟩
      | some error =>
        have failed := catches_keeps log' ok' (Function.update_self _ _ _) error
        rw [Function.update_idem] at failed
        exact ⟨failed.1, failed.2, catches_workers _ _ _⟩

/-- What holds at any moment of a call. -/
structure Inv (items : List α) (limit : Number) (state : State α β ε) : Prop where
  log : LogOk items state
  crew : CrewOk items (state.workers[·]?) state
  staff : ∀ count, (workerCount limit items.length).toLength = some count →
    state.workers.length ≤ count

theorem getElem?_append_self (workers : List Worker) (value : Worker) :
    ((workers ++ [value])[·]?) =
      Function.update (workers[·]?) workers.length (some value) := by
  funext other
  by_cases here : other = workers.length
  · simp [here]
  · rw [Function.update_of_ne here]
    by_cases inside : other < workers.length
    · exact List.getElem?_append_left inside
    · rw [List.getElem?_eq_none (by simp; omega), List.getElem?_eq_none (by omega)]

theorem getElem?_set_update {workers : List Worker} {worker : Nat} (value : Worker)
    (inside : worker < workers.length) :
    ((workers.set worker value)[·]?) = Function.update (workers[·]?) worker (some value) := by
  funext other
  by_cases here : other = worker
  · subst here
    simp [inside]
  · rw [Function.update_of_ne here, List.getElem?_set_ne (Ne.symm here)]

theorem begun_iff (state : State α β ε) :
    state.begun items limit = true ↔
      (workerCount limit items.length).toLength = some state.workers.length := by
  rw [State.begun, decide_eq_true_iff]

theorem inv_begin (inv : Inv items limit state) (thrown : Option ε)
    (more : state.begun items limit = false) :
    Inv items limit
      { (state.run items thrown).2 with
        workers := state.workers ++ [(state.run items thrown).1] } := by
  have vacant : state.workers[state.workers.length]? = none := by simp
  obtain ⟨log, crew, _⟩ := run_keeps inv.log inv.crew vacant thrown
  refine ⟨log.of_workers _, ?_, fun count counted => ?_⟩
  · show CrewOk items ((state.workers ++ [(state.run items thrown).1])[·]?) _
    rw [getElem?_append_self]
    exact crew.of_workers _
  · have within := inv.staff count counted
    have short : state.workers.length ≠ count := by
      rintro rfl
      rw [(begun_iff state).mpr counted] at more
      contradiction
    simp only [List.length_append, List.length_singleton]
    omega

theorem inv_fulfilled (inv : Inv items limit state) {worker index : Nat}
    (calling : state.workers[worker]? = some (.calling index)) (value : β) (thrown : Option ε) :
    Inv items limit
      { ((state.define index value).run items thrown).2 with
        workers := state.workers.set worker ((state.define index value).run items thrown).1 } := by
  have inside := (List.getElem?_eq_some_iff.mp calling).1
  obtain ⟨before, fresh⟩ := inv.crew.calling worker index calling
  have log := inv.log.define value fresh before
  have vacated := inv.crew.vacate (state.define index value) calling rfl
    (by simp [State.define]) id
  obtain ⟨log, crew, _⟩ := run_keeps log vacated (Function.update_self _ _ _) thrown
  rw [Function.update_idem] at crew
  refine ⟨log.of_workers _, ?_, fun count counted => ?_⟩
  · show CrewOk items ((state.workers.set worker _)[·]?) _
    rw [getElem?_set_update _ inside]
    exact crew.of_workers _
  · simpa using inv.staff count counted

theorem inv_failed (inv : Inv items limit state) {worker index : Nat}
    (calling : state.workers[worker]? = some (.calling index)) (error : ε) :
    Inv items limit
      { state.catches index error with workers := state.workers.set worker .rejected } := by
  have inside := (List.getElem?_eq_some_iff.mp calling).1
  obtain ⟨log, crew⟩ := catches_keeps inv.log inv.crew calling error
  refine ⟨log.of_workers _, ?_, fun count counted => ?_⟩
  · show CrewOk items ((state.workers.set worker _)[·]?) _
    rw [getElem?_set_update _ inside]
    exact crew.of_workers _
  · simpa using inv.staff count counted

theorem inv_step {event : Event β ε} {next : State α β ε} (inv : Inv items limit state)
    (taken : step items limit state event = some next) : Inv items limit next := by
  cases event with
  | begin thrown =>
    simp only [step] at taken
    split at taken
    · contradiction
    · next more =>
      rw [← Option.some.inj taken]
      exact inv_begin inv thrown (by simpa using more)
  | settle worker outcome thrown =>
    simp only [step] at taken
    split at taken
    · split at taken
      · next index value calling =>
        rw [← Option.some.inj taken]
        exact inv_fulfilled inv calling value thrown
      · next index error calling =>
        rw [← Option.some.inj taken]
        exact inv_failed inv calling error
      · contradiction
    · contradiction

theorem inv_start (items : List α) (limit : Number) :
    Inv items limit (system items limit : TransitionSystem (State α β ε) (Event β ε)).start := by
  refine ⟨⟨rfl, Nat.zero_le _, ?_, ?_, ?_, ?_, ?_, rfl, rfl, ?_⟩, ⟨?_, ?_, ?_, ?_, ?_⟩, ?_⟩
  · simp [system]
  · simp [system]
  · simp [system]
  · simp [system]
  · simp [system]
  · intro before index error after same
    simp [system] at same
  all_goals simp [system]

theorem inv_reachable
    (reached : (system items limit : TransitionSystem (State α β ε) (Event β ε)).Reachable state) :
    Inv items limit state :=
  reached.invariant (inv_start items limit) fun _ _ _ inv taken => inv_step inv taken

theorem toLength_finite {value : ℚ} (atLeast : 1 ≤ value) :
    ∃ count, (Number.finite value).toLength = some count ∧ 0 < count ∧ (count : ℚ) ≤ value := by
  have positive : 1 ≤ Int.floor value := Int.le_floor.mpr (by exact_mod_cast atLeast)
  have same : ((Int.floor value).toNat : ℤ) = Int.floor value := by omega
  have below : (((Int.floor value).toNat : ℤ) : ℚ) ≤ value := by
    rw [same]
    exact Int.floor_le value
  exact ⟨_, rfl, by omega, by exact_mod_cast below⟩

/-- The number of workers, which is neither zero nor above what the caller allows. -/
theorem workerCount_spec {limit : Number} (real : limit ≠ .nan) (length : Nat) :
    ∃ count, (workerCount limit length).toLength = some count ∧ 0 < count ∧
      (Number.finite count).le (Number.max limit (.finite 1)) = true := by
  have tasks : (1 : ℚ) ≤ (taskCount length : ℚ) := by
    have : 1 ≤ taskCount length := by
      rw [taskCount]
      split <;> omega
    exact_mod_cast this
  have bounded : ∀ most : ℚ, 1 ≤ most → Number.max limit (.finite 1) = .finite most →
      ∃ count, (workerCount limit length).toLength = some count ∧ 0 < count ∧
        (Number.finite count).le (Number.max limit (.finite 1)) = true := by
    intro most atLeast same
    rw [workerCount, same]
    by_cases few : most ≤ (taskCount length : ℚ)
    · obtain ⟨count, counted, positive, within⟩ := toLength_finite atLeast
      refine ⟨count, ?_, positive, by simpa [Number.le] using within⟩
      simpa [Number.min, Number.le, few] using counted
    · obtain ⟨count, counted, positive, within⟩ := toLength_finite tasks
      refine ⟨count, ?_, positive, ?_⟩
      · simpa [Number.min, Number.le, few] using counted
      · simp only [Number.le, decide_eq_true_eq]
        linarith
  cases limit with
  | nan => contradiction
  | finite value =>
    by_cases small : value ≤ 1
    · exact bounded 1 (le_refl 1) (by simp [Number.max, Number.le, small])
    · exact bounded value (by linarith) (by simp [Number.max, Number.le, small])
  | infinite negative =>
    cases negative with
    | true => exact bounded 1 (le_refl 1) (by simp [Number.max, Number.le])
    | false =>
      obtain ⟨count, counted, positive, _⟩ := toLength_finite tasks
      refine ⟨count, ?_, positive, by simp [Number.max, Number.le]⟩
      simpa [workerCount, Number.max, Number.min, Number.le] using counted

theorem outstanding_length (inv : Inv items limit state) :
    (outstanding state.actions).length ≤ state.workers.length := by
  have distinct : (outstanding state.actions).Nodup := by
    rw [outstanding, inv.log.calls]
    exact List.nodup_range.filter _
  have awaited : outstanding state.actions ⊆ state.workers.filterMap Worker.index := by
    intro index member
    rw [outstanding, inv.log.calls, List.mem_filter, List.mem_range] at member
    obtain ⟨worker, found⟩ := inv.crew.awaited index member.1 (by simpa using member.2)
    exact List.mem_filterMap.mpr ⟨_, List.mem_of_getElem? found, rfl⟩
  have fewer := (distinct.subperm awaited).length_le
  have most := List.length_filterMap_le Worker.index state.workers
  omega

theorem mem_outstanding (inv : Inv items limit state) (index : Nat) :
    index ∈ outstanding state.actions ↔
      ∃ worker : Nat, state.workers[worker]? = some (.calling index) := by
  rw [outstanding, inv.log.calls, List.mem_filter, List.mem_range]
  constructor
  · rintro ⟨before, unsettled⟩
    exact inv.crew.awaited index before (by simpa using unsettled)
  · rintro ⟨worker, found⟩
    obtain ⟨before, unsettled⟩ := inv.crew.calling worker index found
    exact ⟨before, by simpa using unsettled⟩

theorem not_calling (ended : state.workers.all Worker.ended = true) {worker index : Nat} :
    state.workers[worker]? ≠ some (.calling index) := by
  intro found
  have done := List.all_eq_true.mp ended _ (List.mem_of_getElem? found)
  contradiction

theorem outstanding_eq_nil (inv : Inv items limit state)
    (ended : state.workers.all Worker.ended = true) : outstanding state.actions = [] := by
  rw [List.eq_nil_iff_forall_not_mem]
  intro index member
  obtain ⟨worker, found⟩ := (mem_outstanding inv index).mp member
  exact not_calling ended found

theorem Inv.waits (inv : Inv items limit state) (pending : state.outcome items limit = none) :
    state.begun items limit = false ∨ outstanding state.actions ≠ [] := by
  by_cases begun : state.begun items limit = true
  · right
    simp only [State.outcome, begun, Bool.true_and] at pending
    split at pending
    · contradiction
    · next busy =>
      obtain ⟨worker, listed, working⟩ : ∃ worker ∈ state.workers, worker.ended = false := by
        simpa [List.all_eq_true] using busy
      obtain ⟨position, found⟩ := List.getElem?_of_mem listed
      cases worker with
      | calling index =>
        exact List.ne_nil_of_mem ((mem_outstanding inv index).mpr ⟨position, found⟩)
      | returned | rejected => contradiction
  · left
    simpa using begun

/-- Without a failure the workers have come to the end, so each call has fulfilled. -/
theorem Inv.values (inv : Inv items limit state) (unfailed : state.failed = false)
    (ended : state.workers.all Worker.ended = true) (staffed : 0 < state.workers.length) :
    Completed items state.actions (.ok state.results) := by
  have nothing : failures state.actions = [] := by
    by_contra some
    rw [inv.log.failed.mpr some] at unfailed
    contradiction
  have first : state.workers[0]? = some state.workers[0] := List.getElem?_eq_getElem staffed
  have exhausted : state.cursor = items.length := by
    cases worker : state.workers[0] with
    | calling index =>
      rw [worker] at first
      exact absurd first (not_calling ended)
    | returned =>
      rw [worker] at first
      rcases inv.crew.returned 0 first with failed | exhausted
      · rw [unfailed] at failed
        contradiction
      · exact exhausted
    | rejected =>
      rw [worker] at first
      have failed := inv.crew.rejected 0 first
      rw [unfailed] at failed
      contradiction
  refine .values state.results inv.log.results nothing fun index inside => ?_
  have done : index ∈ settled state.actions := by
    by_contra unsettled
    obtain ⟨worker, found⟩ := inv.crew.awaited index (by omega) unsettled
    exact not_calling ended found
  obtain ⟨action, member, same⟩ := List.mem_filterMap.mp done
  cases action with
  | fulfilled other value =>
    simp only [Action.settledIndex, Option.some.injEq] at same
    subst same
    exact ⟨value, inv.log.defined _ value member, member⟩
  | failed other error =>
    have recorded : error ∈ failures state.actions := List.mem_filterMap.mpr ⟨_, member, rfl⟩
    rw [nothing] at recorded
    exact absurd recorded List.not_mem_nil
  | called | onError => simp at same

/-- After a failure the first recorded error is the outcome, once all calls have settled. -/
theorem Inv.failure (inv : Inv items limit state) (failed : state.failed = true)
    (ended : state.workers.all Worker.ended = true) :
    Completed items state.actions (.error state.failure) := by
  obtain ⟨first, later, recorded⟩ := List.exists_cons_of_ne_nil (inv.log.failed.mp failed)
  rw [inv.log.failure, recorded]
  refine .failure first later recorded (outstanding_eq_nil inv ended) ?_
  rw [inv.log.reports, recorded]
  rfl

theorem workers_pos (real : limit ≠ .nan) (begun : state.begun items limit = true) :
    0 < state.workers.length := by
  obtain ⟨count, counted, positive, _⟩ := workerCount_spec real items.length
  have all := (begun_iff state).mp begun
  rw [counted] at all
  rwa [Option.some.inj all] at positive

theorem Inv.completed (inv : Inv items limit state) (real : limit ≠ .nan)
    {outcome : Except (Option ε) (List (Option β))}
    (done : state.outcome items limit = some outcome) :
    Completed items state.actions outcome := by
  rw [State.outcome] at done
  split at done
  · next ready =>
    rw [Bool.and_eq_true] at ready
    rw [← Option.some.inj done]
    split
    · next failed => exact inv.failure failed ready.2
    · next unfailed =>
      exact inv.values (by simpa using unfailed) ready.2 (workers_pos real ready.1)
  · contradiction

/-- For every list, every limit but NaN, and every order in which the calls settle. The callers
pass resolved limits, which are positive integers. -/
theorem mapWithConcurrencyLimit_contract (items : List α) {limit : Number} (real : limit ≠ .nan)
    {state : State α β ε}
    (reached : (system items limit : TransitionSystem (State α β ε) (Event β ε)).Reachable state) :
    Contract items limit state := by
  have inv := inv_reachable reached
  refine ⟨?_, inv.log.own, ?_, inv.log.quiet, inv.waits, fun outcome => inv.completed real⟩
  · rw [inv.log.calls]
    exact List.nodup_range
  · obtain ⟨count, counted, _, within⟩ := workerCount_spec real items.length
    have staffed := inv.staff count counted
    have fewer := outstanding_length inv
    refine Number.le_trans ?_ within
    simp only [Number.le, decide_eq_true_eq]
    exact_mod_cast fewer.trans staffed

/-- The second of three calls fails while the first one is pending; the third is never made. -/
def failingEvents : List (Event Nat String) :=
  [.begin none, .begin none, .settle 1 (.error "refused") none, .settle 0 (.ok 11) none]

def failedState : State Nat Nat String where
  results := [some 11, none, none]
  cursor := 2
  failed := true
  failure := some "refused"
  workers := [.returned, .rejected]
  actions := [.called 0 10, .called 1 20, .failed 1 "refused", .onError "refused", .fulfilled 0 11]

theorem mapWithConcurrencyLimit_contract_failedState :
    Contract [10, 20, 30] (.finite 2) failedState ∧
      failedState.outcome [10, 20, 30] (.finite 2) = some (.error (some "refused")) := by
  have ran : (system [10, 20, 30] (.finite 2)).run failingEvents = some failedState := rfl
  have reached := TransitionSystem.Reachable.of_run ran
  exact ⟨mapWithConcurrencyLimit_contract [10, 20, 30] (by decide) reached, rfl⟩

end WebTsToolkit.AccessRouter.ConcurrencyMap
