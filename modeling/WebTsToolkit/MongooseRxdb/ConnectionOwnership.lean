import WebTsToolkit.MongooseRxdb.ConnectionInvariant

set_option autoImplicit false

namespace WebTsToolkit.MongooseRxdb

open Library

namespace Ownership

variable {state : Ownership}

/-- The attempt that an event ends, or takes to the close of its late database. -/
def completion : ConnectionEvent → Option Nat
  | .threw number => some number
  | .opened number _ => some number
  | .openFailed number => some number
  | .discarded number _ => some number
  | _ => none

/-- What the completion of a connect attempt that came too late leaves alone. -/
structure Harmless (state next : Ownership) (number : Nat) : Prop where
  db : next.conn.db = state.conn.db
  current : next.conn.state = state.conn.state
  generation : next.conn.generation = state.conn.generation
  disconnectPromise : next.conn.disconnectPromise = state.conn.disconnectPromise
  connectPromise : ∀ other, number < other → state.conn.connectPromise = some other →
    next.conn.connectPromise = some other

/-- A factory that throws at once, whose `connect` then stores its promise, finds no promise of a
newer attempt. -/
def FindsNoNewer (state : Ownership) (event : ConnectionEvent) : Prop :=
  ∀ number, event = .threw number → ∀ other, number < other →
    state.conn.connectPromise ≠ some other

/-- Who owns which database. -/
structure Owned (state : Ownership) : Prop where
  /-- One published database at most is not closed, the connection's. -/
  published : ∀ attempt db, DatabaseEvent.published attempt db ∈ state.history →
    state.conn.db = some db ∨ DatabaseEvent.closed db ∈ state.history
  /-- What a factory returned was published by its attempt, or its close was called. -/
  returned : ∀ attempt db, DatabaseEvent.returned attempt db ∈ state.history →
    DatabaseEvent.published attempt db ∈ state.history ∨
      DatabaseEvent.closeCalled attempt db ∈ state.history
  /-- A disconnect that completes leaves no database. -/
  completed : ∀ event next (number : Nat) previousDb stage, state.step event = some next →
    state.attempts[number]? = some (.disconnect previousDb stage) →
    (Attempt.disconnect previousDb stage).isSettled = false →
    next.attempts[number]? = some (.disconnect previousDb (.settled true)) → next.conn.db = none
  /-- No database comes before a later attempt. -/
  closed : ∀ (number : Nat) previousDb,
    state.attempts[number]? = some (.disconnect previousDb (.settled true)) →
      number + 1 = state.attempts.length → state.conn.db = none
  /-- A disconnect that returns at once finds no database. -/
  idle : state.disconnect.2 = .returned → state.conn.db = none
  /-- A completion after a later attempt began changes nothing of that attempt, but where a
  factory that throws at once finds its promise. -/
  stale : ∀ event next number, state.step event = some next → completion event = some number →
    number + 1 < state.attempts.length → (Harmless state next number ↔ FindsNoNewer state event)

variable {next : Ownership}

theorem step_attempts {event : ConnectionEvent} (taken : state.step event = some next) :
    next.attempts.length = state.attempts.length ∨
      ∀ number < state.attempts.length, next.attempts[number]? = state.attempts[number]? := by
  have begun (factory : Option Nat) : ∀ number < state.attempts.length,
      (state.connect factory).1.attempts[number]? = state.attempts[number]? := by
    intro number inside
    unfold connect
    split
    · rfl
    · rfl
    · rfl
    · unfold beginConnect
      dsimp only
      split
      · exact List.getElem?_append_left inside
      · exact List.getElem?_append_left inside
  cases event with
  | connect factory =>
    rw [← Option.some.inj taken]
    exact Or.inr (begun factory)
  | connectUrl | setStorage factory =>
    rw [← Option.some.inj taken]
    exact Or.inl rfl
  | disconnect =>
    rw [← Option.some.inj taken]
    apply Or.inr
    intro number inside
    show state.disconnect.1.attempts[number]? = _
    unfold disconnect
    split
    · rfl
    · rfl
    · exact List.getElem?_append_left inside
  | resume call =>
    simp only [step] at taken
    split at taken
    · split at taken
      · rw [← Option.some.inj taken]
        exact Or.inr (begun _)
      · rw [← Option.some.inj taken]
        exact Or.inl rfl
      · contradiction
    · contradiction
  | called number | threw number =>
    simp only [step] at taken
    split at taken
    · rw [← Option.some.inj taken]
      exact Or.inl List.length_set
    · contradiction
  | opened number db =>
    simp only [step] at taken
    split at taken
    · rw [← Option.some.inj taken]
      unfold afterOpened
      dsimp only
      split
      · exact Or.inl List.length_set
      · exact Or.inl List.length_set
    · contradiction
  | openFailed number =>
    simp only [step] at taken
    split at taken
    · rw [← Option.some.inj taken]
      exact Or.inl List.length_set
    · contradiction
  | discarded number closed =>
    simp only [step] at taken
    split at taken
    · rw [← Option.some.inj taken]
      split
      · exact Or.inl List.length_set
      · exact Or.inl List.length_set
    · contradiction
  | waited number =>
    simp only [step] at taken
    split at taken
    · split at taken
      · rw [← Option.some.inj taken]
        exact Or.inl List.length_set
      · contradiction
    · contradiction
  | drained number | closeSettled number closed =>
    simp only [step] at taken
    split at taken
    · split at taken
      · rw [← Option.some.inj taken]
        exact Or.inl List.length_set
      · rw [← Option.some.inj taken]
        exact Or.inl List.length_set
    · contradiction

theorem clearConnect_of_other {conn : Connection} {number other : Nat} (apart : other ≠ number)
    (promise : conn.connectPromise = some other) :
    (clearConnect conn number).connectPromise = some other := by
  unfold clearConnect
  split
  · next own =>
    rw [promise] at own
    exact absurd (Option.some.inj own) apart
  · exact promise

theorem harmless_failConnect {number generation : Nat} {factory : Option Nat}
    (late : state.conn.generation ≠ generation) :
    Harmless state (state.failConnect number generation factory) number := by
  obtain ⟨current, db, sameGeneration, promise⟩ := keeps_clearConnect state.conn number
  unfold failConnect
  rw [fail, if_neg late]
  constructor
  · exact db
  · exact current
  · exact sameGeneration
  · exact promise
  · intro other newer held
    exact clearConnect_of_other (Nat.ne_of_gt newer) held

theorem harmless_log {number : Nat} {events : List DatabaseEvent}
    (harmless : Harmless (state.log events) next number) : Harmless state next number :=
  { harmless with }

/-- Whether a completion that comes after a later attempt began changes something of it. -/
theorem Inv.stale (inv : state.Inv) {event : ConnectionEvent} {number : Nat}
    (taken : state.step event = some next) (completes : completion event = some number)
    (later : number + 1 < state.attempts.length) :
    Harmless state next number ↔ FindsNoNewer state event := by
  have late {generation : Nat} {factory : Option Nat} {stage : ConnectStage}
      (here : state.attempts[number]? = some (.connect generation factory stage)) :
      state.conn.generation ≠ generation := by
    intro current
    have last := inv.last_of_current here current
    omega
  cases event with
  | threw attempt =>
    obtain rfl : attempt = number := Option.some.inj completes
    simp only [step] at taken
    split at taken
    · next generation factory here =>
      rw [fail, if_neg (late here)] at taken
      rw [← Option.some.inj taken]
      constructor
      · rintro harmless thrown same other newer held
        obtain rfl := ConnectionEvent.threw.inj same
        exact Nat.ne_of_lt newer (Option.some.inj (harmless.connectPromise other newer held))
      · intro none_
        refine ⟨rfl, rfl, rfl, rfl, fun other newer held => ?_⟩
        exact absurd held (none_ attempt rfl other newer)
    · contradiction
  | opened attempt db =>
    obtain rfl : attempt = number := Option.some.inj completes
    simp only [step] at taken
    split at taken
    · next generation factory here =>
      rw [Ownership.afterOpened, if_pos (Or.inl (late here))] at taken
      rw [← Option.some.inj taken]
      exact iff_of_true ⟨rfl, rfl, rfl, rfl, fun _ _ held => held⟩ fun _ same => by contradiction
    · contradiction
  | openFailed attempt =>
    obtain rfl : attempt = number := Option.some.inj completes
    simp only [step] at taken
    split at taken
    · next generation factory here =>
      rw [← Option.some.inj taken]
      exact iff_of_true (harmless_failConnect (late here)) fun _ same => by contradiction
    · contradiction
  | discarded attempt closed =>
    obtain rfl : attempt = number := Option.some.inj completes
    simp only [step] at taken
    split at taken
    · next generation factory db here =>
      rw [← Option.some.inj taken]
      split
      · exact iff_of_true (harmless_log (harmless_failConnect (late here)))
          fun _ same => by contradiction
      · exact iff_of_true (harmless_failConnect (late here)) fun _ same => by contradiction
    · contradiction
  | _ => contradiction

/-- A database that comes after the disconnect, and the one of the connect that waited. -/
def lateDatabase : List ConnectionEvent :=
  [.connect (some 1), .called 0, .disconnect, .connect none, .opened 0 (some 7),
    .discarded 0 true, .waited 1, .drained 1, .resume 2, .opened 2 (some 8)]

end Ownership

end WebTsToolkit.MongooseRxdb
