import WebTsToolkit.OidcVaultDpopClient.AutoRefresh

set_option autoImplicit false

namespace WebTsToolkit.OidcVaultDpopClient

open Js Library

namespace AutoRefresh

/-- The timers of the host are the one that the scheduler knows of. -/
def Tidy (state : AutoRefresh) : Prop :=
  ∀ timer ∈ state.timers, state.timer = some timer.handle

/-- A timer stands for the next attempt. -/
structure Armed (options : AutoRefreshOptions) (state : AutoRefresh) (timer : ArmedTimer) : Prop
    where
  only : state.timers = [timer]
  known : state.timer = some timer.handle
  revision : timer.revision = state.timerRevision
  captured : timer.captured = state.intent
  active : state.active = true
  live : state.disposed = false
  idle : state.running = false
  delay : timer.delay =
    min maxDelay (max 0 (state.deadline options timer.armedAt true - timer.armedAt))

/-- No timer stands, and none is needed. -/
structure Unarmed (state : AutoRefresh) : Prop where
  timers : state.timers = []
  timer : state.timer = none
  excused : state.ready = none ∨ state.owed = true

def TimersOk (options : AutoRefreshOptions) (state : AutoRefresh) : Prop :=
  (∃ timer, Armed options state timer) ∨ Unarmed state

/-- The clock readings at which attempts started. -/
def starts (facts : List RefreshFact) : List Int :=
  facts.filterMap fun fact =>
    match fact with
    | .started now => some now
    | _ => none

/-- What is known of the attempts. -/
structure AttemptsOk (state : AutoRefresh) : Prop where
  running : state.running = true ↔ state.attempts ≠ []
  single : state.attempts.length ≤ 1
  safe : ∀ start ∈ starts state.facts, start ≤ maxSafeInteger
  latest : state.disposed = false → ∀ start ∈ starts state.facts,
    ∃ last, state.lastAttemptAt = some last ∧ start ≤ last ∧ last ≤ maxSafeInteger
  spaced : (starts state.facts).Pairwise fun first second => addDeadline first minCadence ≤ second

structure Inv (options : AutoRefreshOptions) (state : AutoRefresh) : Prop where
  timers : state.TimersOk options
  attempts : state.AttemptsOk

/-- What a step leaves alone that starts no attempt. -/
structure Calm (state next : AutoRefresh) : Prop where
  attempts : next.attempts = state.attempts
  running : next.running = state.running
  last : next.lastAttemptAt = state.lastAttemptAt
  facts : next.facts = state.facts
  disposed : next.disposed = state.disposed

variable {options : AutoRefreshOptions} {state next later : AutoRefresh}

theorem Calm.refl (state : AutoRefresh) : Calm state state :=
  ⟨rfl, rfl, rfl, rfl, rfl⟩

theorem Calm.trans (first : Calm state next) (second : Calm next later) : Calm state later where
  attempts := second.attempts.trans first.attempts
  running := second.running.trans first.running
  last := second.last.trans first.last
  facts := second.facts.trans first.facts
  disposed := second.disposed.trans first.disposed

theorem Calm.attemptsOk (calm : Calm state next) (ok : AttemptsOk state) : AttemptsOk next where
  running := by
    rw [calm.running, calm.attempts]
    exact ok.running
  single := by
    rw [calm.attempts]
    exact ok.single
  safe := by
    rw [calm.facts]
    exact ok.safe
  latest := by
    rw [calm.disposed, calm.facts, calm.last]
    exact ok.latest
  spaced := by
    rw [calm.facts]
    exact ok.spaced

theorem Armed.tidy {timer : ArmedTimer} (armed : Armed options state timer) : Tidy state := by
  intro other member
  rw [armed.only] at member
  rw [List.mem_singleton.mp member]
  exact armed.known

theorem Unarmed.tidy (unarmed : Unarmed state) : Tidy state := by
  intro other member
  rw [unarmed.timers] at member
  exact absurd member List.not_mem_nil

theorem TimersOk.tidy (ok : state.TimersOk options) : Tidy state := by
  rcases ok with armed | unarmed
  · obtain ⟨timer, armed⟩ := armed
    exact armed.tidy
  · exact unarmed.tidy

theorem clearTimer_timers (tidy : Tidy state) : state.clearTimer.timers = [] := by
  apply List.filter_eq_nil_iff.mpr
  intro timer member
  have known : state.timer = some timer.handle := tidy timer member
  have same : { state with timerRevision := state.timerRevision + 1 }.timer = some timer.handle :=
    known
  rw [same]
  simp

theorem calm_clearTimer (state : AutoRefresh) : Calm state state.clearTimer :=
  ⟨rfl, rfl, rfl, rfl, rfl⟩

theorem ready_eq_none_of_inactive (inactive : state.active = false) : state.ready = none := by
  unfold ready
  rw [inactive]
  rfl

/-- What is known where an attempt may start. -/
structure Ready (state : AutoRefresh) (token : AccessToken) : Prop where
  active : state.active = true
  live : state.disposed = false
  idle : state.running = false
  free : state.busy = false
  token : state.token = some token

theorem ready_iff (token : AccessToken) : state.ready = some token ↔ Ready state token := by
  unfold ready
  constructor
  · intro found
    split at found
    · contradiction
    · next allowed =>
      simp only [Bool.or_eq_true, Bool.not_eq_true', not_or, Bool.not_eq_true,
        Bool.not_eq_false] at allowed
      exact ⟨allowed.1.1.1, allowed.1.1.2, allowed.1.2, allowed.2, found⟩
  · intro isReady
    rw [isReady.active, isReady.live, isReady.idle, isReady.free]
    exact isReady.token

/-- A failure of the current intent deactivates the scheduler, and a failure of another one does
nothing. -/
theorem fail_cases (state : AutoRefresh) (fault : ClientFault) (captured : Nat) :
    (state.current captured = false ∧ state.fail fault captured = state) ∨
      (state.current captured = true ∧ (state.fail fault captured).active = false ∧
        (state.fail fault captured).timers =
          ({ state with active := false }.clearTimer).timers ∧
        (state.fail fault captured).timer = none ∧ Calm state (state.fail fault captured)) := by
  unfold fail
  cases isCurrent : state.current captured with
  | false => exact Or.inl ⟨rfl, rfl⟩
  | true =>
    refine Or.inr ⟨rfl, ?_⟩
    rw [if_neg (by decide)]
    dsimp only
    split
    · exact ⟨rfl, rfl, rfl, rfl, rfl, rfl, rfl, rfl⟩
    · exact ⟨rfl, rfl, rfl, rfl, rfl, rfl, rfl, rfl⟩

theorem calm_fail (state : AutoRefresh) (fault : ClientFault) (captured : Nat) :
    Calm state (state.fail fault captured) := by
  rcases fail_cases state fault captured with unchanged | failed
  · rw [unchanged.2]
    exact Calm.refl state
  · exact failed.2.2.2.2

theorem unarmed_fail (tidy : Tidy state) (fault : ClientFault) {captured : Nat}
    (isCurrent : state.current captured = true) : Unarmed (state.fail fault captured) := by
  rcases fail_cases state fault captured with unchanged | failed
  · rw [isCurrent] at unchanged
    exact absurd unchanged.1 Bool.noConfusion
  · obtain ⟨_, inactive, timers, timer, _⟩ := failed
    have tidyInactive : Tidy { state with active := false } := tidy
    refine ⟨?_, timer, Or.inl (ready_eq_none_of_inactive inactive)⟩
    rw [timers]
    exact clearTimer_timers tidyInactive

theorem timersOk_fail (ok : state.TimersOk options) (fault : ClientFault) (captured : Nat) :
    (state.fail fault captured).TimersOk options := by
  cases isCurrent : state.current captured with
  | true => exact Or.inr (unarmed_fail ok.tidy fault isCurrent)
  | false =>
    unfold fail
    rw [isCurrent]
    exact ok

theorem Ready.current {token : AccessToken} (isReady : Ready state token) :
    state.current state.intent = true := by
  unfold AutoRefresh.current
  rw [isReady.live]
  simp

/-- Arming leaves a timer where one is needed. -/
theorem timersOk_arm (tidy : Tidy state) (reading : Reading) :
    (state.arm options reading).TimersOk options := by
  have cleared : state.clearTimer.timers = [] := clearTimer_timers tidy
  have tidyCleared : Tidy state.clearTimer := by
    intro timer member
    rw [cleared] at member
    exact absurd member List.not_mem_nil
  unfold arm
  dsimp only
  split
  · next notReady => exact Or.inr ⟨cleared, rfl, Or.inl notReady⟩
  · next token found =>
    have isReady := (ready_iff token).mp found
    split
    · next fault _ => exact Or.inr (unarmed_fail tidyCleared fault isReady.current)
    · next now _ =>
      split
      · exact Or.inr (unarmed_fail tidyCleared (expired token) isReady.current)
      · let armed : ArmedTimer := {
          handle := state.clearTimer.handles
          revision := state.clearTimer.timerRevision
          captured := state.clearTimer.intent
          armedAt := now
          delay := min maxDelay (max 0 (state.clearTimer.deadline options now true - now)) }
        refine Or.inl ⟨armed, ?_, rfl, rfl, rfl, isReady.active, isReady.live, isReady.idle, rfl⟩
        show state.clearTimer.timers ++ [armed] = [armed]
        rw [cleared]
        rfl

theorem calm_arm (options : AutoRefreshOptions) (state : AutoRefresh) (reading : Reading) :
    Calm state (state.arm options reading) := by
  have cleared := calm_clearTimer state
  unfold arm
  dsimp only
  split
  · exact cleared
  · split
    · exact cleared.trans (calm_fail _ _ _)
    · split
      · exact cleared.trans (calm_fail _ _ _)
      · exact cleared.trans ⟨rfl, rfl, rfl, rfl, rfl⟩

/-- Nothing but `activate` makes a scheduler active. -/
theorem inactive_fail (inactive : state.active = false) (fault : ClientFault) (captured : Nat) :
    (state.fail fault captured).active = false := by
  rcases fail_cases state fault captured with unchanged | failed
  · rw [unchanged.2]
    exact inactive
  · exact failed.2.1

theorem inactive_arm (inactive : state.active = false) (reading : Reading) :
    (state.arm options reading).active = false := by
  have notReady : state.clearTimer.ready = none := ready_eq_none_of_inactive inactive
  unfold arm
  dsimp only
  rw [notReady]
  exact inactive

theorem wake_of_inactive (inactive : state.active = false) (first second : Reading) :
    state.wake options first second = state := by
  unfold wake
  rw [ready_eq_none_of_inactive inactive]

end AutoRefresh

end WebTsToolkit.OidcVaultDpopClient
