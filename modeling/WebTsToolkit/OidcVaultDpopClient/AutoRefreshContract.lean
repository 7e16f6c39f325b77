import WebTsToolkit.OidcVaultDpopClient.AutoRefreshInvariant

set_option autoImplicit false

namespace WebTsToolkit.OidcVaultDpopClient

open Js Library

theorem addDeadline_mono {first second : Int} (le : first ≤ second) (interval : Int) :
    addDeadline first interval ≤ addDeadline second interval := by
  unfold addDeadline
  split
  · split
    · exact Int.le_refl _
    · omega
  · split
    · omega
    · omega

theorem addDeadline_cases (first interval : Int) :
    addDeadline first interval = first + interval ∨
      addDeadline first interval = maxSafeInteger := by
  unfold addDeadline
  split
  · exact Or.inr rfl
  · exact Or.inl rfl

theorem clock_eq_ok {reading : Reading} {now : Int} (read : clock reading = .ok now) :
    0 ≤ now ∧ now ≤ maxSafeInteger := by
  unfold clock at read
  split at read
  · contradiction
  · contradiction
  · next value =>
    split at read
    · contradiction
    · next valid =>
      rw [← Except.ok.inj read]
      simp only [Bool.or_eq_true, Bool.not_eq_true', decide_eq_true_eq, not_or,
        Bool.not_eq_false, isSafeInteger_iff] at valid
      obtain ⟨safe, notNegative⟩ := valid
      exact ⟨by omega, safe.2⟩

def RefreshEvent.isActivation : RefreshEvent → Bool
  | .activate _ _ => true
  | _ => false

namespace AutoRefresh

variable {options : AutoRefreshOptions} {state next : AutoRefresh}

/-- What holds where an attempt starts. -/
structure Starts (options : AutoRefreshOptions) (state : AutoRefresh) (now : Int) : Prop where
  ready : ∃ token, Ready state token ∧ state.tokenDeadline options token now ≤ now
  alone : state.attempts = []
  apart : ∀ start ∈ starts state.facts, addDeadline start minCadence ≤ now

/-- What one step does to the attempts: nothing starts, or one does. -/
inductive Starting (options : AutoRefreshOptions) (state next : AutoRefresh) : Prop where
  | none (same : starts next.facts = starts state.facts)
  | one (now : Int) (allowed : Starts options state now)
      (only : starts next.facts = starts state.facts ++ [now])

structure StepOk (options : AutoRefreshOptions) (state next : AutoRefresh) : Prop where
  inv : Inv options next
  starting : Starting options state next

theorem stepOk_of_calm (inv : Inv options state) (calm : Calm state next)
    (timers : next.TimersOk options) : StepOk options state next where
  inv := ⟨timers, calm.attemptsOk inv.attempts⟩
  starting := .none (by rw [calm.facts])

theorem tokenDeadline_le (options : AutoRefreshOptions) {token : AccessToken}
    (held : state.token = some token) (now : Int) :
    state.tokenDeadline options token now ≤ state.deadline options now true := by
  unfold deadline
  rw [held]
  dsimp only
  split
  · exact Int.le_max_left _ _
  · exact Int.le_refl _

/-- The cadence of attempts is part of the deadline. -/
theorem cadence_le (options : AutoRefreshOptions) {token : AccessToken}
    (held : state.token = some token) {last : Int} (found : state.lastAttemptAt = some last)
    (now : Int) : addDeadline last minCadence ≤ state.deadline options now true := by
  unfold deadline
  rw [held, found]
  exact Int.le_max_right _ _

theorem starts_append (facts : List RefreshFact) (now : Int) :
    starts (facts ++ [.started now]) = starts facts ++ [now] := by
  unfold starts
  rw [List.filterMap_append]
  rfl

/-- An attempt starts. -/
theorem stepOk_started (ok : state.AttemptsOk) {token : AccessToken} (isReady : Ready state token)
    {now : Int} (safe : now ≤ maxSafeInteger) (due : state.deadline options now true ≤ now)
    (timers : next.timers = []) (timer : next.timer = none) (running : next.running = true)
    (attempts : ∃ attempt, next.attempts = state.attempts ++ [attempt])
    (last : next.lastAttemptAt = some now) (facts : next.facts = state.facts ++ [.started now]) :
    StepOk options state next := by
  have deadline := tokenDeadline_le options isReady.token now
  have alone : state.attempts = [] := by
    apply Decidable.byContradiction
    intro some_
    have runs := ok.running.mpr some_
    rw [isReady.idle] at runs
    contradiction
  have apart (start : Int) (member : start ∈ starts state.facts) :
      start ≤ now ∧ addDeadline start minCadence ≤ now := by
    obtain ⟨latest, found, le, latestSafe⟩ := ok.latest isReady.live start member
    have after := cadence_le options isReady.token found now
    have sooner := addDeadline_mono le minCadence
    have passed : latest ≤ addDeadline latest minCadence := by
      unfold addDeadline minCadence
      split
      · exact latestSafe
      · omega
    constructor
    · omega
    · omega
  have grown : starts next.facts = starts state.facts ++ [now] := by
    rw [facts]
    exact starts_append state.facts now
  obtain ⟨attempt, attempts⟩ := attempts
  rw [alone] at attempts
  constructor
  · constructor
    · refine Or.inr ⟨timers, timer, Or.inl ?_⟩
      unfold ready
      rw [running]
      simp
    · constructor
      · rw [running, attempts]
        simp
      · rw [attempts]
        exact Nat.le_refl 1
      · intro start member
        rw [grown] at member
        rcases List.mem_append.mp member with before | here
        · exact ok.safe start before
        · rw [List.mem_singleton.mp here]
          exact safe
      · intro _ start member
        refine ⟨now, last, ?_, safe⟩
        rw [grown] at member
        rcases List.mem_append.mp member with before | here
        · exact (apart start before).1
        · exact Int.le_of_eq (List.mem_singleton.mp here)
      · rw [grown]
        apply List.pairwise_append.mpr
        refine ⟨ok.spaced, List.pairwise_singleton _ _, ?_⟩
        intro start member other same
        rw [List.mem_singleton.mp same]
        exact (apart start member).2
  · exact .one now ⟨⟨token, isReady, Int.le_trans deadline due⟩, alone, fun start member =>
      (apart start member).2⟩ grown

/-- A wake from any state whose timers are tidy. -/
theorem stepOk_wake (attempts : state.AttemptsOk) (tidy : Tidy state)
    (unready : state.ready = none → state.TimersOk options) (first second : Reading) :
    StepOk options state (state.wake options first second) := by
  have calm (later : AutoRefresh) (calm : Calm state later) (timers : later.TimersOk options) :
      StepOk options state later :=
    ⟨⟨timers, calm.attemptsOk attempts⟩, .none (by rw [calm.facts])⟩
  unfold wake
  split
  · next notReady => exact calm state (Calm.refl state) (unready notReady)
  · next token found =>
    have isReady := (ready_iff token).mp found
    split
    · next fault _ =>
      exact calm _ (calm_fail state fault state.intent)
        (Or.inr (unarmed_fail tidy fault isReady.current))
    · next now read =>
      split
      · exact calm _ (calm_arm options state second) (timersOk_arm tidy second)
      · next due =>
        apply stepOk_started attempts isReady (clock_eq_ok read).2 (Int.not_lt.mp due)
        · exact clearTimer_timers tidy
        · rfl
        · rfl
        · exact ⟨_, rfl⟩
        · rfl
        · rfl

/-- A step from a state that differs in its timers only. -/
theorem StepOk.of_timers {timers : List ArmedTimer} {timer : Option Nat}
    (ok : StepOk options { state with timers, timer } next) : StepOk options state next where
  inv := ok.inv
  starting := by
    cases ok.starting with
    | none same => exact .none same
    | one now allowed only =>
      obtain ⟨token, isReady, due⟩ := allowed.ready
      exact .one now ⟨⟨token, { isReady with }, due⟩, allowed.alone, allowed.apart⟩ only

/-- The callback of a timer. -/
theorem stepOk_fire (inv : Inv options state) {timer : ArmedTimer} (member : timer ∈ state.timers)
    (first second : Reading) : StepOk options state (state.fire options timer first second) := by
  rcases inv.timers with armed | unarmed
  · obtain ⟨only, armed⟩ := armed
    have same : timer = only := by
      rw [armed.only] at member
      exact List.mem_singleton.mp member
    have none_ : state.timers.erase timer = [] := by
      rw [armed.only, same]
      simp
    have accepted : (timer.revision != state.timerRevision ||
        !(AutoRefresh.current { state with timers := state.timers.erase timer }
          timer.captured)) = false := by
      unfold AutoRefresh.current
      rw [same, armed.revision, armed.captured, armed.live]
      simp
    unfold fire
    dsimp only
    rw [accepted, if_neg Bool.false_ne_true]
    apply StepOk.of_timers
    apply stepOk_wake
    · apply Calm.attemptsOk _ inv.attempts
      exact ⟨rfl, rfl, rfl, rfl, rfl⟩
    · intro other listed
      have listed_ : other ∈ state.timers.erase timer := listed
      rw [none_] at listed_
      exact absurd listed_ List.not_mem_nil
    · intro notReady
      exact Or.inr ⟨none_, rfl, Or.inl notReady⟩
  · rw [unarmed.timers] at member
    exact absurd member List.not_mem_nil

/-- What the timers rest on. -/
structure SameTimers (state next : AutoRefresh) : Prop where
  timers : next.timers = state.timers
  timer : next.timer = state.timer
  revision : next.timerRevision = state.timerRevision
  intent : next.intent = state.intent
  active : next.active = state.active
  disposed : next.disposed = state.disposed
  running : next.running = state.running
  token : next.token = state.token
  refreshedAt : next.refreshedAt = state.refreshedAt
  last : next.lastAttemptAt = state.lastAttemptAt
  excused : state.ready = none ∨ state.owed = true → next.ready = none ∨ next.owed = true

theorem TimersOk.same (ok : state.TimersOk options) (same : SameTimers state next) :
    next.TimersOk options := by
  rcases ok with armed | unarmed
  · obtain ⟨timer, armed⟩ := armed
    refine Or.inl ⟨timer, same.timers.trans armed.only, same.timer.trans armed.known,
      armed.revision.trans same.revision.symm, armed.captured.trans same.intent.symm,
      same.active.trans armed.active, same.disposed.trans armed.live,
      same.running.trans armed.idle, ?_⟩
    have deadline (now : Int) : next.deadline options now true = state.deadline options now true := by
      unfold AutoRefresh.deadline AutoRefresh.tokenDeadline AutoRefresh.acquired
      rw [same.token, same.last, same.refreshedAt]
    rw [deadline]
    exact armed.delay
  · exact Or.inr ⟨same.timers.trans unarmed.timers, same.timer.trans unarmed.timer,
      same.excused unarmed.excused⟩

/-- A step that arms the timer anew, from a state with other data. -/
theorem stepOk_arm (inv : Inv options state) (reading : Reading) (calm : Calm state next)
    (timers : next.timers = state.timers) (timer : next.timer = state.timer) :
    StepOk options state (next.arm options reading) := by
  apply stepOk_of_calm inv (calm.trans (calm_arm options next reading))
  apply timersOk_arm
  intro other member
  rw [timers] at member
  rw [timer]
  exact inv.timers.tidy other member

/-- A step that clears the timer of a scheduler that it deactivates. -/
theorem stepOk_clear (inv : Inv options state) (attempts : next.AttemptsOk)
    (facts : next.facts = state.facts) (inactive : next.active = false)
    (timers : next.timers = state.timers) (timer : next.timer = state.timer) :
    StepOk options state next.clearTimer where
  inv := by
    refine ⟨Or.inr ⟨?_, rfl, Or.inl (ready_eq_none_of_inactive inactive)⟩,
      (calm_clearTimer next).attemptsOk attempts⟩
    apply clearTimer_timers
    intro other member
    rw [timers] at member
    rw [timer]
    exact inv.timers.tidy other member
  starting := by
    have same : next.clearTimer.facts = state.facts := facts
    exact .none (by rw [same])

/-- `pause`, `clear` and `cancel` differ in the data that they forget. -/
theorem stepOk_deactivated (inv : Inv options state) (token : Option AccessToken)
    (refreshedAt : Option Int) (intent outcome : Nat) :
    StepOk options state
      { state with active := false, token, refreshedAt, intent, outcome }.clearTimer := by
  apply stepOk_clear inv
  · exact { inv.attempts with }
  · rfl
  · rfl
  · rfl
  · rfl

theorem starts_other (facts : List RefreshFact) {fact : RefreshFact}
    (other : ∀ now, fact ≠ .started now) : starts (facts ++ [fact]) = starts facts := by
  unfold starts
  rw [List.filterMap_append]
  cases fact with
  | started now => exact absurd rfl (other now)
  | called captured | caught fault | reported fault => exact List.append_nil _

/-- A step that neither starts nor ends an attempt, and leaves the timers alone. -/
theorem stepOk_noted (inv : Inv options state) {attempts : List Attempt} (reports : List Report)
    {facts : List RefreshFact} (length : attempts.length = state.attempts.length)
    (same : starts facts = starts state.facts) :
    StepOk options state { state with attempts, reports, facts } where
  inv := by
    refine ⟨inv.timers.same ⟨rfl, rfl, rfl, rfl, rfl, rfl, rfl, rfl, rfl, rfl, id⟩, ?_⟩
    obtain ⟨running, single, safe, latest, spaced⟩ := inv.attempts
    rw [← same] at safe latest spaced
    refine ⟨?_, length.trans_le single, safe, latest, spaced⟩
    rw [← List.length_pos_iff] at running ⊢
    rw [length]
    exact running
  starting := .none same

/-- A step of an attempt's chain changes its phase only. -/
theorem stepOk_phase (inv : Inv options state) (position : Nat) (attempt : Attempt)
    (phase : AttemptPhase) (facts : List RefreshFact) (same : starts facts = starts state.facts) :
    StepOk options state { state.setPhase position attempt phase with facts } :=
  stepOk_noted inv state.reports List.length_set same

/-- The attempt has failed, and what that means for the scheduler. -/
theorem stepOk_caught (inv : Inv options state) (position : Nat) (attempt : Attempt)
    (fault : ClientFault) : StepOk options state (state.caught position attempt fault) := by
  have ending := stepOk_phase inv position attempt .ending (state.facts ++ [.caught fault])
    (starts_other state.facts fun _ => RefreshFact.noConfusion)
  have failed : StepOk options state (AutoRefresh.fail { state.setPhase position attempt .ending with
      facts := state.facts ++ [.caught fault] } fault attempt.captured) := by
    have calm := calm_fail { state.setPhase position attempt .ending with
      facts := state.facts ++ [.caught fault] } fault attempt.captured
    refine ⟨⟨timersOk_fail ending.inv.timers fault attempt.captured,
      calm.attemptsOk ending.inv.attempts⟩, .none ?_⟩
    rw [calm.facts]
    exact starts_other state.facts fun _ => RefreshFact.noConfusion
  unfold caught
  dsimp only
  split
  · split
    · exact ending
    · exact failed
  · exact failed

theorem stepOk_finished (inv : Inv options state) {position : Nat} {attempt : Attempt}
    (found : state.attempts[position]? = some attempt) (reading : Reading) :
    StepOk options state (state.finished options position reading) := by
  have single := inv.attempts.single
  have none_ : state.attempts.eraseIdx position = [] := by
    obtain ⟨within, _⟩ := List.getElem?_eq_some_iff.mp found
    apply List.eq_nil_of_length_eq_zero
    rw [List.length_eraseIdx_of_lt within]
    omega
  have calm := calm_arm options { state with
    attempts := state.attempts.eraseIdx position, running := false } reading
  have ended : AttemptsOk { state with
      attempts := state.attempts.eraseIdx position, running := false } := {
    inv.attempts with
    running := ⟨nofun, fun some_ => absurd none_ some_⟩
    single := by
      show (state.attempts.eraseIdx position).length ≤ 1
      rw [none_]
      exact Nat.zero_le 1 }
  refine ⟨⟨?_, calm.attemptsOk ended⟩, .none ?_⟩
  · apply timersOk_arm
    exact inv.timers.tidy
  show starts (AutoRefresh.arm options { state with
    attempts := state.attempts.eraseIdx position, running := false } reading).facts = _
  rw [calm.facts]

theorem stepOk_report (inv : Inv options state) (reports : List Report) (report : Report) :
    StepOk options state ({ state with reports }.report report) := by
  unfold AutoRefresh.report
  split
  · exact stepOk_noted inv reports rfl rfl
  · exact stepOk_noted inv reports rfl
      (starts_other state.facts fun _ => RefreshFact.noConfusion)

/-- A step of the attempt at a position, which is in the phase of that step. -/
theorem attempt_of_step {position : Nat} {phase : AttemptPhase}
    {result : Attempt → Option AutoRefresh}
    (taken : (match state.attempts[position]? with
      | some attempt => if attempt.phase = phase then result attempt else none
      | none => none) = some next) :
    ∃ attempt, state.attempts[position]? = some attempt ∧ result attempt = some next := by
  split at taken
  · next attempt found =>
    split at taken
    · exact ⟨attempt, found, taken⟩
    · contradiction
  · contradiction

theorem stepOk_step (inv : Inv options state) {event : RefreshEvent}
    (taken : state.step options event = some next) : StepOk options state next := by
  cases event with
  | replace token acquisitionTime reading =>
    rw [← Option.some.inj taken]
    unfold AutoRefresh.replace
    split
    · exact stepOk_of_calm inv (Calm.refl state) inv.timers
    · apply stepOk_arm inv reading
      · exact ⟨rfl, rfl, rfl, rfl, rfl⟩
      · rfl
      · rfl
  | activate captured reading =>
    rw [← Option.some.inj taken]
    unfold AutoRefresh.activate
    split
    · exact stepOk_of_calm inv (Calm.refl state) inv.timers
    · apply stepOk_arm inv reading
      · exact ⟨rfl, rfl, rfl, rfl, rfl⟩
      · rfl
      · rfl
  | settled reading =>
    rw [← Option.some.inj taken]
    apply stepOk_arm inv reading
    · exact ⟨rfl, rfl, rfl, rfl, rfl⟩
    · rfl
    · rfl
  | pause | clear | cancel =>
    rw [← Option.some.inj taken]
    exact stepOk_deactivated inv _ _ _ _
  | dispose =>
    rw [← Option.some.inj taken]
    apply stepOk_clear inv
    · exact { inv.attempts with latest := nofun }
    · rfl
    · rfl
    · rfl
    · rfl
  | occupied =>
    rw [← Option.some.inj taken]
    apply stepOk_of_calm inv
    · exact ⟨rfl, rfl, rfl, rfl, rfl⟩
    · apply inv.timers.same
      refine ⟨rfl, rfl, rfl, rfl, rfl, rfl, rfl, rfl, rfl, rfl, ?_⟩
      intro _
      refine Or.inl ?_
      unfold ready
      simp
  | vacated =>
    rw [← Option.some.inj taken]
    apply stepOk_of_calm inv
    · exact ⟨rfl, rfl, rfl, rfl, rfl⟩
    · apply inv.timers.same
      exact ⟨rfl, rfl, rfl, rfl, rfl, rfl, rfl, rfl, rfl, rfl, fun _ => Or.inr rfl⟩
  | fired position first second =>
    obtain ⟨timer, found, same⟩ := Option.map_eq_some_iff.mp taken
    rw [← same]
    exact stepOk_fire inv (List.mem_of_getElem? found) first second
  | pageWake first second =>
    unfold AutoRefresh.step at taken
    dsimp only at taken
    split at taken
    · contradiction
    · rw [← Option.some.inj taken]
      exact stepOk_wake inv.attempts inv.timers.tidy (fun _ => inv.timers) first second
  | called position =>
    obtain ⟨attempt, _, same⟩ := attempt_of_step taken
    rw [← Option.some.inj same]
    unfold AutoRefresh.callRefresh
    split
    · exact stepOk_phase inv position attempt .refreshing _
        (starts_other state.facts fun _ => RefreshFact.noConfusion)
    · exact stepOk_phase inv position attempt .ending state.facts rfl
  | refreshed position fault =>
    obtain ⟨attempt, _, same⟩ := attempt_of_step taken
    cases fault with
    | some fault =>
      rw [← Option.some.inj same]
      exact stepOk_caught inv position attempt fault
    | none =>
      rw [← Option.some.inj same]
      exact stepOk_phase inv position attempt .ending state.facts rfl
  | finished position reading =>
    obtain ⟨attempt, found, same⟩ := attempt_of_step taken
    rw [← Option.some.inj same]
    exact stepOk_finished inv found reading
  | reported position =>
    obtain ⟨report, _, same⟩ := Option.map_eq_some_iff.mp taken
    rw [← same]
    exact stepOk_report inv _ report

theorem inv_start : Inv options (autoRefresh options).start where
  timers := Or.inr ⟨rfl, rfl, Or.inl rfl⟩
  attempts := {
    running := ⟨nofun, fun some_ => absurd rfl some_⟩
    single := Nat.zero_le 1
    safe := fun _ member => absurd member List.not_mem_nil
    latest := fun _ _ member => absurd member List.not_mem_nil
    spaced := List.Pairwise.nil }

theorem inv_of_reachable (reached : (autoRefresh options).Reachable state) : Inv options state := by
  apply reached.invariant inv_start
  intro before event after inv taken
  exact (stepOk_step inv taken).inv

variable {options : AutoRefreshOptions} {state next : AutoRefresh}

/-- A scheduler that is not active stays so until the next `activate`. -/
theorem inactive_step (inactive : state.active = false) {event : RefreshEvent}
    (other : event.isActivation = false) (taken : state.step options event = some next) :
    next.active = false := by
  cases event with
  | replace token acquisitionTime reading =>
    rw [← Option.some.inj taken]
    unfold AutoRefresh.replace
    split
    · exact inactive
    · apply inactive_arm
      exact inactive
  | activate captured reading => contradiction
  | settled reading =>
    rw [← Option.some.inj taken]
    apply inactive_arm
    exact inactive
  | pause | clear | cancel | dispose =>
    rw [← Option.some.inj taken]
    rfl
  | occupied | vacated =>
    rw [← Option.some.inj taken]
    exact inactive
  | fired position first second =>
    obtain ⟨timer, _, same⟩ := Option.map_eq_some_iff.mp taken
    rw [← same]
    unfold AutoRefresh.fire
    dsimp only
    split
    · exact inactive
    · rw [wake_of_inactive]
      · exact inactive
      · exact inactive
  | pageWake first second =>
    unfold AutoRefresh.step at taken
    dsimp only at taken
    split at taken
    · contradiction
    · rw [← Option.some.inj taken, wake_of_inactive inactive]
      exact inactive
  | called position =>
    obtain ⟨attempt, _, same⟩ := attempt_of_step taken
    rw [← Option.some.inj same]
    unfold AutoRefresh.callRefresh
    rw [inactive, Bool.and_false, if_neg Bool.false_ne_true]
    exact inactive
  | refreshed position fault =>
    obtain ⟨attempt, _, same⟩ := attempt_of_step taken
    cases fault with
    | some fault =>
      rw [← Option.some.inj same]
      unfold AutoRefresh.caught
      dsimp only
      split
      · split
        · exact inactive
        · apply inactive_fail
          exact inactive
      · apply inactive_fail
        exact inactive
    | none =>
      rw [← Option.some.inj same]
      exact inactive
  | finished position reading =>
    obtain ⟨attempt, _, same⟩ := attempt_of_step taken
    rw [← Option.some.inj same]
    apply inactive_arm
    exact inactive
  | reported position =>
    obtain ⟨report, _, same⟩ := Option.map_eq_some_iff.mp taken
    rw [← same]
    unfold AutoRefresh.report
    split
    · exact inactive
    · exact inactive

/-- Nothing starts until the next `activate`. -/
theorem inactive_run (inv : Inv options state) (inactive : state.active = false)
    {events : List RefreshEvent} (others : ∀ event ∈ events, event.isActivation = false)
    {later : AutoRefresh} (ran : events.foldlM (autoRefresh options).step state = some later) :
    later.active = false ∧ starts later.facts = starts state.facts := by
  induction events generalizing state with
  | nil =>
    rw [← Option.some.inj ran]
    exact ⟨inactive, rfl⟩
  | cons event events ih =>
    rw [List.foldlM_cons] at ran
    obtain ⟨middle, taken, rest⟩ := Option.bind_eq_some_iff.mp ran
    have stepped : state.step options event = some middle := taken
    have ok := stepOk_step inv stepped
    have still := inactive_step inactive (others event List.mem_cons_self) stepped
    obtain ⟨after, same⟩ := ih ok.inv still
      (fun other member => others other (List.mem_cons_of_mem event member)) rest
    refine ⟨after, same.trans ?_⟩
    cases ok.starting with
    | none unchanged => exact unchanged
    | one now allowed _ =>
      obtain ⟨token, isReady, _⟩ := allowed.ready
      rw [isReady.active] at inactive
      contradiction

/-- What the failure of an attempt comes to. -/
structure FailureOk (state next : AutoRefresh) (attempt : Attempt) : Prop where
  replaced : ∀ token, state.token = some token →
    token.generation ≠ attempt.baseline.generation →
      next.active = state.active ∧ next.reports = state.reports ∧ next.timers = state.timers
  current : state.current attempt.captured = true →
    (∀ token, state.token = some token → token.generation = attempt.baseline.generation) →
      next.active = false

theorem failureOk_caught (position : Nat) (attempt : Attempt) (fault : ClientFault) :
    FailureOk state (state.caught position attempt fault) attempt where
  replaced := by
    intro token held other
    unfold AutoRefresh.caught
    dsimp only
    have heldLater : (state.setPhase position attempt .ending).token = some token := held
    rw [heldLater]
    dsimp only
    rw [if_pos (bne_iff_ne.mpr other)]
    exact ⟨rfl, rfl, rfl⟩
  current := by
    intro isCurrent same
    have failed : (AutoRefresh.fail { state.setPhase position attempt .ending with
        facts := state.facts ++ [.caught fault] } fault attempt.captured).active = false := by
      rcases fail_cases { state.setPhase position attempt .ending with
        facts := state.facts ++ [.caught fault] } fault attempt.captured with unchanged | failed
      · have isCurrentLater : (AutoRefresh.current { state.setPhase position attempt .ending with
            facts := state.facts ++ [.caught fault] } attempt.captured) = true := isCurrent
        rw [isCurrentLater] at unchanged
        exact absurd unchanged.1 Bool.noConfusion
      · exact failed.2.1
    unfold AutoRefresh.caught
    dsimp only
    split
    · next token held =>
      have equal := same token held
      rw [if_neg (by simpa using equal)]
      exact failed
    · exact failed

theorem Inv.apart (inv : Inv options state) : (starts state.facts).Pairwise fun first second =>
    first + minCadence ≤ second ∨ second = maxSafeInteger := by
  apply inv.attempts.spaced.imp_of_mem
  intro first second _ member spaced
  have safe := inv.attempts.safe second member
  rcases addDeadline_cases first minCadence with exact_ | saturated
  · rw [exact_] at spaced
    exact Or.inl spaced
  · rw [saturated] at spaced
    exact Or.inr (Int.le_antisymm safe spaced)

/-- No wake is lost. -/
theorem Inv.armed (inv : Inv options state) (active : state.active = true)
    (live : state.disposed = false) (held : state.token.isSome = true) (free : state.busy = false)
    (settled : state.owed = false) (alone : state.attempts = []) :
    ∃ timer, Armed options state timer := by
  rcases inv.timers with armed | unarmed
  · exact armed
  · have idle : state.running = false := by
      cases runs : state.running with
      | false => rfl
      | true => exact absurd alone (inv.attempts.running.mp runs)
    rcases unarmed.excused with notReady | owed
    · unfold ready at notReady
      rw [active, live, idle, free] at notReady
      have none_ : state.token = none := notReady
      rw [none_] at held
      contradiction
    · rw [settled] at owed
      contradiction

end AutoRefresh

/-- For any options, any order of events and any clock: one attempt runs at a time; attempts start
apart, and only where the scheduler is ready and the token due; a failure of a current attempt ends
them until the next `activate`, and that of a replaced one changes nothing; and whenever an attempt
is to come, exactly one timer stands for it. -/
theorem auto_refresh_contract (options : AutoRefreshOptions) (state : AutoRefresh)
    (reached : (autoRefresh options).Reachable state) :
    state.attempts.length ≤ 1 ∧
      (AutoRefresh.starts state.facts).Pairwise (fun first second =>
        first + minCadence ≤ second ∨ second = maxSafeInteger) ∧
      (∀ event next, (autoRefresh options).step state event = some next →
        AutoRefresh.Starting options state next) ∧
      (∀ position fault next,
        (autoRefresh options).step state (.refreshed position (some fault)) = some next →
          ∃ attempt, state.attempts[position]? = some attempt ∧
            AutoRefresh.FailureOk state next attempt) ∧
      (state.active = false → ∀ (events : List RefreshEvent) (later : AutoRefresh),
        (∀ event ∈ events, event.isActivation = false) →
          events.foldlM (autoRefresh options).step state = some later →
            AutoRefresh.starts later.facts = AutoRefresh.starts state.facts) ∧
      (state.active = true → state.disposed = false → state.token.isSome = true →
        state.busy = false → state.owed = false → state.attempts = [] →
          ∃ timer, AutoRefresh.Armed options state timer) := by
  have inv := AutoRefresh.inv_of_reachable reached
  refine ⟨inv.attempts.single, inv.apart, ?_, ?_, ?_, inv.armed⟩
  · intro event next taken
    exact (AutoRefresh.stepOk_step inv taken).starting
  · intro position fault next taken
    obtain ⟨attempt, found, same⟩ := AutoRefresh.attempt_of_step taken
    rw [← Option.some.inj same]
    exact ⟨attempt, found, AutoRefresh.failureOk_caught position attempt fault⟩
  · exact fun inactive events later others ran =>
      (AutoRefresh.inactive_run inv inactive others ran).2

def minuteBefore : AutoRefreshOptions where
  refreshBeforeExpiryMs := 60000
  maxRefreshIntervalMs := none
  refreshBeforeExpiry_bounds := by decide
  maxRefreshInterval_bounds := by decide

def longToken (generation : String) (expiresAt : Int)
    (bounds : 0 ≤ expiresAt ∧ expiresAt ≤ maxSafeInteger) : AccessToken where
  tokenType := .dpop
  expiresAt := expiresAt
  generation := generation
  expiresAt_bounds := bounds

/-- A token is refreshed, and its replacement waits for its own deadline. -/
def refreshedEvents : List RefreshEvent :=
  [.replace (longToken "first" 100000 (by decide)) none (.ok (some 1000)),
    .activate 0 (.ok (some 1000)), .fired 0 (.ok (some 41000)) (.ok none), .called 0,
    .replace (longToken "second" 300000 (by decide)) (some 41500) (.ok (some 41500)),
    .refreshed 0 none, .finished 0 (.ok (some 41600))]

theorem auto_refresh_contract_refreshedEvents : ∃ state,
    (autoRefresh minuteBefore).run refreshedEvents = some state ∧
      AutoRefresh.starts state.facts = [41000] ∧
      state.timers.map (fun timer => (timer.armedAt, timer.delay)) = [(41600, 198400)] ∧
      ∃ timer, AutoRefresh.Armed minuteBefore state timer := by
  have ran : ((autoRefresh minuteBefore).run refreshedEvents).map (fun state =>
      (AutoRefresh.starts state.facts, state.timers.map fun timer => (timer.armedAt, timer.delay)))
        = some ([41000], [(41600, 198400)]) := by
    decide +kernel
  have settled : ((autoRefresh minuteBefore).run refreshedEvents).map (fun state =>
      (state.active, state.disposed, state.token.isSome, state.busy, state.owed,
        state.attempts.length)) = some (true, false, true, false, false, 0) := by
    decide +kernel
  obtain ⟨state, same, found⟩ := Option.map_eq_some_iff.mp ran
  obtain ⟨started, timers⟩ := Prod.mk.inj found
  rw [same, Option.map_some] at settled
  simp only [Option.some.injEq, Prod.mk.injEq] at settled
  obtain ⟨active, live, held, free, answered, alone⟩ := settled
  have contract := auto_refresh_contract minuteBefore state
    (TransitionSystem.Reachable.of_run same)
  exact ⟨state, same, started, timers, contract.2.2.2.2.2 active live held free answered
    (List.eq_nil_of_length_eq_zero alone)⟩

/-- A clock near the largest safe integer, where deadlines saturate. -/
def saturatedEvents : List RefreshEvent :=
  let last := maxSafeInteger
  [.replace (longToken "first" last (by decide)) none (.ok (some (last - 10))),
    .activate 0 (.ok (some (last - 10))), .pageWake (.ok (some (last - 5))) (.ok none), .called 0,
    .refreshed 0 none, .finished 0 (.ok (some (last - 4))),
    .pageWake (.ok (some last)) (.ok none)]

/-- Where a deadline saturates, two attempts may start closer together. -/
theorem attempts_close_where_saturated :
    ¬ ∀ (options : AutoRefreshOptions) (state : AutoRefresh),
      (autoRefresh options).Reachable state →
        (AutoRefresh.starts state.facts).Pairwise fun first second =>
          first + minCadence ≤ second := by
  intro apart
  have ran : ((autoRefresh minuteBefore).run saturatedEvents).map (fun state =>
      AutoRefresh.starts state.facts) = some [maxSafeInteger - 5, maxSafeInteger] := by
    decide +kernel
  obtain ⟨state, same, started⟩ := Option.map_eq_some_iff.mp ran
  have pair := apart minuteBefore state (TransitionSystem.Reachable.of_run same)
  rw [started] at pair
  exact absurd pair (by decide)

end WebTsToolkit.OidcVaultDpopClient
