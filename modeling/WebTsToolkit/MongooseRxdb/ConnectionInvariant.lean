import WebTsToolkit.MongooseRxdb.Connection

set_option autoImplicit false

namespace WebTsToolkit.MongooseRxdb

open Library

/-- Neither a publication nor a return. -/
def DatabaseEvent.isPlain : DatabaseEvent → Bool
  | .published _ _ | .returned _ _ => false
  | _ => true

namespace Ownership

/-- The states between an attempt that ended and the next database. -/
def Vacant (conn : Connection) : Prop :=
  conn.state = .disconnected ∨ conn.state = .connecting ∨ conn.state = .failed

/-- What a disconnect that is not over has: the connection. -/
structure Closes (conn : Connection) (count number : Nat) (previousDb : Option Nat)
    (stage : DisconnectStage) : Prop where
  last : number + 1 = count
  closing : conn.state = .closing
  promise : conn.disconnectPromise = some number
  previous : previousDb = conn.db
  db : ∀ db, stage = .closing db → conn.db = some db

/-- What holds of an attempt, one of so many, at each await. -/
def AttemptOk (conn : Connection) (count number : Nat) : Attempt → Prop
  | .connect generation factory stage => generation = number + 1 ∧
      ((Attempt.connect generation factory stage).isSettled = false → number + 1 = count →
        conn.state = .connecting)
  | .disconnect _ (.settled closed) =>
    closed = true → number + 1 = count → conn.state = .disconnected
  | .disconnect previousDb stage => Closes conn count number previousDb stage

/-- Published databases, and returned ones, are accounted for. -/
structure Recorded (current : Option Nat) (history : List DatabaseEvent) : Prop where
  published : ∀ attempt db, DatabaseEvent.published attempt db ∈ history →
    current = some db ∨ DatabaseEvent.closed db ∈ history
  returned : ∀ attempt db, DatabaseEvent.returned attempt db ∈ history →
    DatabaseEvent.published attempt db ∈ history ∨ DatabaseEvent.closeCalled attempt db ∈ history

/-- What holds of a connection at each await. -/
structure Inv (state : Ownership) : Prop where
  generation : state.conn.generation = state.attempts.length
  attempts : ∀ number attempt, state.attempts[number]? = some attempt →
    AttemptOk state.conn state.attempts.length number attempt
  busy : state.conn.state = .closing → state.conn.disconnectPromise.isSome = true
  vacant : Vacant state.conn → state.conn.db = none
  recorded : Recorded state.conn.db state.history

/-- The promise of a connect and the factory are not part of the invariant. -/
structure Keeps (conn next : Connection) : Prop where
  state : next.state = conn.state
  db : next.db = conn.db
  generation : next.generation = conn.generation
  promise : next.disconnectPromise = conn.disconnectPromise

variable {state : Ownership} {attempt : Attempt} {history : List DatabaseEvent} {conn : Connection}
  {number generation : Nat} {factory : Option Nat} {stage : ConnectStage} {previousDb : Option Nat}
  {next : Ownership}

theorem number_lt {number : Nat} (here : state.attempts[number]? = some attempt) :
    number < state.attempts.length :=
  (List.getElem?_eq_some_iff.mp here).1

theorem AttemptOk.keeps {conn next : Connection} {count number : Nat}
    (ok : AttemptOk conn count number attempt) (keeps : Keeps conn next) :
    AttemptOk next count number attempt := by
  obtain ⟨state, db, -, promise⟩ := keeps
  have closes {previousDb : Option Nat} {stage : DisconnectStage}
      (closes : Closes conn count number previousDb stage) :
      Closes next count number previousDb stage := by
    refine ⟨closes.last, state.trans closes.closing, promise.trans closes.promise,
      closes.previous.trans db.symm, fun found same => ?_⟩
    exact db.trans (closes.db found same)
  cases attempt with
  | connect generation factory stage =>
    exact ⟨ok.1, fun unsettled last => state.trans (ok.2 unsettled last)⟩
  | disconnect previousDb stage =>
    cases stage with
    | settled closed => exact fun isClosed last => state.trans (ok isClosed last)
    | waiting captured | draining | closing db => exact closes ok

/-- Only the last attempt has to do with the connection. -/
theorem AttemptOk.earlier {conn next : Connection} {count later number : Nat}
    (ok : AttemptOk conn count number attempt)
    (open_ : conn.state ≠ .closing ∨ number + 1 ≠ count) (earlier : number + 1 ≠ later) :
    AttemptOk next later number attempt := by
  have closes {previousDb : Option Nat} {stage : DisconnectStage} :
      ¬ Closes conn count number previousDb stage :=
    fun closes => open_.elim (absurd closes.closing) (absurd closes.last)
  cases attempt with
  | connect generation factory stage => exact ⟨ok.1, fun _ last => absurd last earlier⟩
  | disconnect previousDb stage =>
    cases stage with
    | settled closed => exact fun _ last => absurd last earlier
    | waiting captured | draining | closing db => exact absurd ok closes

theorem Recorded.append {current : Option Nat} {history events : List DatabaseEvent}
    (recorded : Recorded current history) (plain : ∀ event ∈ events, event.isPlain = true) :
    Recorded current (history ++ events) where
  published := by
    intro attempt db member
    rcases List.mem_append.mp member with before | new
    · exact (recorded.published attempt db before).imp_right (List.mem_append_left events)
    · exact absurd (plain _ new) Bool.false_ne_true
  returned := by
    intro attempt db member
    rcases List.mem_append.mp member with before | new
    · exact (recorded.returned attempt db before).imp (List.mem_append_left events)
        (List.mem_append_left events)
    · exact absurd (plain _ new) Bool.false_ne_true

/-- A connection without a database has closed what it published. -/
theorem Recorded.withDb (recorded : Recorded none history) (current : Option Nat) :
    Recorded current history where
  published := by
    intro attempt db member
    rcases recorded.published attempt db member with none_ | closed
    · contradiction
    · exact Or.inr closed
  returned := recorded.returned

/-- The database of a connection is closed. -/
theorem Recorded.close {db : Nat} (recorded : Recorded (some db) history) :
    Recorded none (history ++ [.closed db]) where
  published := by
    intro attempt found member
    rcases List.mem_append.mp member with before | new
    · rcases recorded.published attempt found before with same | closed
      · rw [← Option.some.inj same]
        exact Or.inr (List.mem_append_right _ List.mem_cons_self)
      · exact Or.inr (List.mem_append_left _ closed)
    · exact absurd (List.mem_singleton.mp new) DatabaseEvent.noConfusion
  returned := by
    intro attempt found member
    rcases List.mem_append.mp member with before | new
    · exact (recorded.returned attempt found before).imp (List.mem_append_left _)
        (List.mem_append_left _)
    · exact absurd (List.mem_singleton.mp new) DatabaseEvent.noConfusion

/-- The database of an attempt's factory is published, or its close is called at once. -/
theorem Recorded.opened {current : Option Nat} (recorded : Recorded current history)
    (number db : Nat) (event : DatabaseEvent) (happened : event = .closeCalled number db ∨
      event = .published number db ∧ current = some db) :
    Recorded current (history ++ [.returned number db] ++ [event]) where
  published := by
    intro attempt found member
    simp only [List.append_assoc, List.mem_append, List.mem_singleton, reduceCtorEq,
      false_or] at member ⊢
    rcases member with before | new
    · exact (recorded.published attempt found before).imp_right Or.inl
    · rcases happened with called | ⟨published, same⟩
      · rw [called] at new
        contradiction
      · rw [published] at new
        rw [(DatabaseEvent.published.inj new).2]
        exact Or.inl same
  returned := by
    intro attempt found member
    simp only [List.append_assoc, List.mem_append, List.mem_singleton] at member ⊢
    rcases member with before | new | other
    · exact (recorded.returned attempt found before).imp Or.inl Or.inl
    · obtain ⟨rfl, rfl⟩ := DatabaseEvent.returned.inj new
      rcases happened with called | ⟨published, -⟩
      · exact Or.inr (Or.inr (Or.inr called.symm))
      · exact Or.inl (Or.inr (Or.inr published.symm))
    · rcases happened with called | ⟨published, -⟩
      · rw [called] at other
        contradiction
      · rw [published] at other
        contradiction

/-- An attempt moves on, with the connection as it was or as the last attempt. -/
theorem Inv.sets (inv : state.Inv) {number : Nat} {attempt next : Attempt}
    (here : state.attempts[number]? = some attempt)
    (others : Keeps state.conn conn ∨ number + 1 = state.attempts.length)
    (generation : conn.generation = state.conn.generation)
    (ok : AttemptOk conn state.attempts.length number next)
    (busy : conn.state = .closing → conn.disconnectPromise.isSome = true)
    (vacant : Vacant conn → conn.db = none) (recorded : Recorded conn.db history) :
    Inv { state with conn, attempts := state.attempts.set number next, history } where
  generation := by
    rw [List.length_set]
    exact generation.trans inv.generation
  attempts := by
    intro other found listed
    rw [List.length_set]
    by_cases same : number = other
    · rw [← same, List.getElem?_set_self (number_lt here)] at listed
      rw [← same, ← Option.some.inj listed]
      exact ok
    · rw [List.getElem?_set_ne same] at listed
      rcases others with keeps | last
      · exact (inv.attempts other found listed).keeps keeps
      · exact (inv.attempts other found listed).earlier (Or.inr (by omega)) (by omega)
  busy := busy
  vacant := vacant
  recorded := recorded

/-- An attempt moves on, and nothing else changes but the promise of a connect. -/
theorem Inv.moves (inv : state.Inv) {number : Nat} {attempt next : Attempt}
    (here : state.attempts[number]? = some attempt) (keeps : Keeps state.conn conn)
    (ok : AttemptOk state.conn state.attempts.length number next)
    (recorded : Recorded state.conn.db history) :
    Inv { state with conn, attempts := state.attempts.set number next, history } := by
  refine inv.sets here (Or.inl keeps) keeps.generation (ok.keeps keeps) ?_ ?_ ?_
  · rw [keeps.state, keeps.promise]
    exact inv.busy
  · unfold Vacant
    rw [keeps.state, keeps.db]
    exact inv.vacant
  · rw [keeps.db]
    exact recorded

/-- An attempt begins, where nothing closes the connection. -/
theorem Inv.appends (inv : state.Inv) (open_ : state.conn.state ≠ .closing)
    (generation : conn.generation = state.conn.generation + 1)
    (ok : AttemptOk conn (state.attempts.length + 1) state.attempts.length attempt)
    (busy : conn.state = .closing → conn.disconnectPromise.isSome = true)
    (vacant : Vacant conn → conn.db = none) (recorded : Recorded conn.db state.history) :
    Inv { state with conn, attempts := state.attempts ++ [attempt] } where
  generation := by
    rw [List.length_append, List.length_singleton, ← inv.generation]
    exact generation
  attempts := by
    intro other found listed
    rw [List.length_append, List.length_singleton]
    by_cases inside : other < state.attempts.length
    · rw [List.getElem?_append_left inside] at listed
      exact (inv.attempts other found listed).earlier (Or.inl open_) (by omega)
    · have bound := (List.getElem?_eq_some_iff.mp listed).1
      rw [List.length_append, List.length_singleton] at bound
      obtain rfl : other = state.attempts.length := by omega
      rw [List.getElem?_concat_length] at listed
      rw [← Option.some.inj listed]
      exact ok
  busy := busy
  vacant := vacant
  recorded := recorded

/-- The calls and the factory are not part of the invariant. -/
theorem Inv.withCalls (inv : state.Inv) (calls : List Call) : Inv { state with calls } :=
  { inv with }

theorem Inv.setStorage (inv : state.Inv) (storageFactory : Option Nat) :
    Inv { state with conn := { state.conn with storageFactory } } where
  __ := inv
  attempts := fun number attempt listed =>
    (inv.attempts number attempt listed).keeps ⟨rfl, rfl, rfl, rfl⟩

theorem Inv.log (inv : state.Inv) {events : List DatabaseEvent}
    (plain : ∀ event ∈ events, event.isPlain = true) : (state.log events).Inv :=
  ⟨inv.generation, inv.attempts, inv.busy, inv.vacant, inv.recorded.append plain⟩

/-- The attempt whose generation is current is the last one. -/
theorem Inv.last_of_current (inv : state.Inv)
    (here : state.attempts[number]? = some (.connect generation factory stage))
    (current : state.conn.generation = generation) : number + 1 = state.attempts.length := by
  have numbered := (inv.attempts number _ here).1
  rw [numbered, inv.generation] at current
  exact current.symm

/-- A connect attempt begins where no database is. -/
theorem Inv.beginConnect (inv : state.Inv) (vacant : Vacant state.conn) (factory : Option Nat) :
    (state.beginConnect factory).Inv := by
  have open_ : state.conn.state ≠ .closing := by
    intro closing
    simp [Vacant, closing] at vacant
  have empty := inv.vacant vacant
  unfold Ownership.beginConnect
  dsimp only
  split
  · refine inv.appends open_ rfl ⟨?_, fun _ _ => rfl⟩ nofun (fun _ => empty) inv.recorded
    rw [inv.generation]
  · refine inv.appends open_ rfl ⟨?_, fun _ _ => rfl⟩ nofun (fun _ => empty) inv.recorded
    rw [inv.generation]

theorem Inv.connect (inv : state.Inv) (factory : Option Nat) : (state.connect factory).1.Inv := by
  unfold Ownership.connect
  split
  · exact inv
  · exact inv
  · exact inv
  · next notConnected notJoined notQueued =>
    apply inv.beginConnect
    unfold Vacant
    cases current : state.conn.state with
    | disconnected => exact Or.inl rfl
    | connecting => exact Or.inr (Or.inl rfl)
    | failed => exact Or.inr (Or.inr rfl)
    | connected => exact absurd current (notConnected · )
    | closing =>
      obtain ⟨number, promise⟩ := Option.isSome_iff_exists.mp (inv.busy current)
      exact absurd promise (notQueued number current)

/-- A disconnect attempt begins. -/
theorem Inv.disconnect (inv : state.Inv) : state.disconnect.1.Inv := by
  unfold Ownership.disconnect
  split
  · exact inv
  · exact inv
  · next notDisconnected notJoined =>
    have open_ : state.conn.state ≠ .closing := by
      intro closing
      obtain ⟨number, promise⟩ := Option.isSome_iff_exists.mp (inv.busy closing)
      exact notJoined number closing promise
    refine inv.appends open_ rfl ⟨rfl, rfl, rfl, rfl, nofun⟩ (fun _ => rfl) ?_ inv.recorded
    intro vacant
    simp [Vacant] at vacant

/-- The `finally` of a connect attempt changes its promise only. -/
theorem keeps_clearConnect (conn : Connection) (number : Nat) :
    Keeps conn (clearConnect conn number) := by
  unfold clearConnect
  split
  · exact ⟨rfl, rfl, rfl, rfl⟩
  · exact ⟨rfl, rfl, rfl, rfl⟩

theorem clearDisconnect_eq (conn : Connection) (number : Nat) :
    (clearDisconnect conn number).state = conn.state ∧
      (clearDisconnect conn number).db = conn.db ∧
      (clearDisconnect conn number).generation = conn.generation := by
  unfold clearDisconnect
  split
  · exact ⟨rfl, rfl, rfl⟩
  · exact ⟨rfl, rfl, rfl⟩

/-- A connect attempt throws: the current one leaves the connection failed. -/
theorem Inv.fails (inv : state.Inv)
    (here : state.attempts[number]? = some (.connect generation factory stage))
    (unsettled : (Attempt.connect generation factory stage).isSettled = false)
    (failed : Keeps (fail state.conn generation) conn) :
    Inv { state with
      conn
      attempts := state.attempts.set number (.connect generation factory (.settled false)) } := by
  obtain ⟨numbered, current⟩ := inv.attempts number _ here
  by_cases newest : state.conn.generation = generation
  · rw [fail, if_pos newest] at failed
    have last := inv.last_of_current here newest
    have empty := inv.vacant (Or.inr (Or.inl (current unsettled last)))
    refine inv.sets here (Or.inr last) failed.generation ⟨numbered, nofun⟩ ?_ (fun _ => failed.db) ?_
    · intro closing
      rw [failed.state] at closing
      contradiction
    · have recorded := inv.recorded
      rw [empty] at recorded
      exact recorded.withDb conn.db
  · rw [fail, if_neg newest] at failed
    exact inv.moves here failed ⟨numbered, nofun⟩ inv.recorded

theorem Inv.failConnect (inv : state.Inv)
    (here : state.attempts[number]? = some (.connect generation factory stage))
    (unsettled : (Attempt.connect generation factory stage).isSettled = false) :
    (state.failConnect number generation factory).Inv :=
  inv.fails here unsettled (keeps_clearConnect (fail state.conn generation) number)

theorem Inv.afterOpened (inv : state.Inv) (db : Option Nat)
    (here : state.attempts[number]? = some (.connect generation factory .opening)) :
    (state.afterOpened number generation factory db).Inv := by
  obtain ⟨numbered, connecting⟩ := inv.attempts number _ here
  unfold Ownership.afterOpened
  dsimp only
  split
  · refine inv.moves here ⟨rfl, rfl, rfl, rfl⟩ ⟨numbered, fun _ => connecting rfl⟩ ?_
    cases db with
    | none =>
      show Recorded _ (state.history ++ [] ++ [])
      rw [List.append_nil, List.append_nil]
      exact inv.recorded
    | some db => exact inv.recorded.opened number db _ (Or.inl rfl)
  · next current =>
    rw [not_or, not_not, not_not] at current
    have last := inv.last_of_current here current.1
    have empty := inv.vacant (Or.inr (Or.inl current.2))
    have recorded := inv.recorded
    rw [empty] at recorded
    have keeps := keeps_clearConnect
      { state.conn with db, storageFactory := factory, state := .connected } number
    refine inv.sets here (Or.inr last) keeps.generation ⟨numbered, nofun⟩ ?_ ?_ ?_
    · intro closing
      rw [keeps.state] at closing
      contradiction
    · intro vacant
      simp [Vacant, keeps.state] at vacant
    · rw [keeps.db]
      cases db with
      | none =>
        show Recorded none (state.history ++ [] ++ [])
        rw [List.append_nil, List.append_nil]
        exact recorded
      | some db => exact (recorded.withDb _).opened number db _ (Or.inr ⟨rfl, rfl⟩)

/-- A disconnect attempt is over: nothing is left, or its database is still there. -/
theorem Inv.settlesDisconnect (inv : state.Inv) {number : Nat} {stage : DisconnectStage}
    {closed : Bool} (here : state.attempts[number]? = some (.disconnect previousDb stage))
    (closes : Closes state.conn state.attempts.length number previousDb stage)
    (ended : (closed = false ∧ conn.state = .connected) ∨
      (conn.state = .disconnected ∧ conn.db = none))
    (generation : conn.generation = state.conn.generation) (recorded : Recorded conn.db history) :
    Inv { state with
      conn
      attempts := state.attempts.set number (.disconnect previousDb (.settled closed))
      history } := by
  refine inv.sets here (Or.inr closes.last) generation ?_ ?_ ?_ recorded
  · intro isClosed _
    rcases ended with connected | disconnected
    · rw [connected.1] at isClosed
      contradiction
    · exact disconnected.1
  · intro closing
    rcases ended with connected | disconnected
    · rw [connected.2] at closing
      contradiction
    · rw [disconnected.1] at closing
      contradiction
  · intro vacant
    rcases ended with connected | disconnected
    · simp [Vacant, connected.2] at vacant
    · exact disconnected.2

theorem Inv.finishDisconnect (inv : state.Inv) {number : Nat} {stage : DisconnectStage}
    (here : state.attempts[number]? = some (.disconnect previousDb stage))
    (closes : Closes state.conn state.attempts.length number previousDb stage)
    {events : List DatabaseEvent} (recorded : Recorded none (state.history ++ events)) :
    ((state.log events).finishDisconnect number previousDb).Inv := by
  obtain ⟨sameState, sameDb, sameGeneration⟩ :=
    clearDisconnect_eq { state.conn with db := none, state := .disconnected } number
  refine inv.settlesDisconnect here closes (Or.inr ⟨sameState, sameDb⟩) sameGeneration ?_
  exact (congrArg (Recorded · (state.history ++ events)) sameDb).mpr recorded

/-- Whether a disconnect has a database to close. -/
theorem Inv.drained (inv : state.Inv) {number : Nat}
    (here : state.attempts[number]? = some (.disconnect previousDb .draining))
    (taken : (match previousDb.or state.conn.db with
      | some db => some ((state.log [.closeCalled number db]).setAttempt number
          (.disconnect previousDb (.closing db)))
      | none => some (state.finishDisconnect number previousDb)) = some next) : next.Inv := by
  have closes : Closes _ _ _ _ _ := inv.attempts number _ here
  rw [closes.previous, Option.or_self] at taken
  split at taken
  · next db current =>
    rw [← Option.some.inj taken, ← closes.previous]
    refine inv.moves here ⟨rfl, rfl, rfl, rfl⟩ ?_
      (inv.recorded.append (by simp [DatabaseEvent.isPlain]))
    refine ⟨closes.last, closes.closing, closes.promise, closes.previous, fun found same => ?_⟩
    rw [← DisconnectStage.closing.inj same]
    exact current
  · next empty =>
    rw [← Option.some.inj taken, ← closes.previous]
    have recorded := inv.recorded
    rw [empty] at recorded
    rw [← List.append_nil state.history] at recorded
    have finished := inv.finishDisconnect here closes recorded
    unfold Ownership.log at finished
    rwa [List.append_nil] at finished

theorem Inv.closeSettled (inv : state.Inv) {number db : Nat}
    (here : state.attempts[number]? = some (.disconnect previousDb (.closing db))) (closed : Bool)
    (taken : (if closed then some ((state.log [.closed db]).finishDisconnect number previousDb)
      else some { state with
        conn := clearDisconnect
          { state.conn with db := state.conn.db.or (some db), state := .connected } number
        attempts := state.attempts.set number (.disconnect previousDb (.settled false)) }) =
      some next) : next.Inv := by
  have closes : Closes _ _ _ _ _ := inv.attempts number _ here
  have current := closes.db db rfl
  have recorded := inv.recorded
  rw [current] at recorded
  split at taken
  · rw [← Option.some.inj taken]
    exact inv.finishDisconnect here closes recorded.close
  · rw [← Option.some.inj taken]
    obtain ⟨sameState, sameDb, sameGeneration⟩ := clearDisconnect_eq
      { state.conn with db := state.conn.db.or (some db), state := .connected } number
    refine inv.settlesDisconnect here closes (Or.inl ⟨rfl, sameState⟩) sameGeneration ?_
    rw [sameDb, current]
    exact recorded

theorem inv_step (inv : state.Inv) {event : ConnectionEvent}
    (taken : state.step event = some next) : next.Inv := by
  cases event with
  | connect factory =>
    rw [← Option.some.inj taken]
    exact (inv.connect factory).withCalls _
  | connectUrl =>
    rw [← Option.some.inj taken]
    exact inv.withCalls _
  | disconnect =>
    rw [← Option.some.inj taken]
    exact inv.disconnect.withCalls _
  | setStorage factory =>
    rw [← Option.some.inj taken]
    exact inv.setStorage _
  | resume call =>
    simp only [step] at taken
    split at taken
    · split at taken
      · next factory _ _ _ =>
        rw [← Option.some.inj taken]
        exact (inv.connect _).withCalls _
      · rw [← Option.some.inj taken]
        exact inv.withCalls _
      · contradiction
    · contradiction
  | called number =>
    simp only [step] at taken
    split at taken
    · next generation factory here =>
      rw [← Option.some.inj taken]
      obtain ⟨numbered, connecting⟩ := inv.attempts number _ here
      exact inv.moves here ⟨rfl, rfl, rfl, rfl⟩ ⟨numbered, fun _ => connecting rfl⟩ inv.recorded
    · contradiction
  | threw number =>
    simp only [step] at taken
    split at taken
    · next generation factory here =>
      rw [← Option.some.inj taken]
      exact inv.fails here rfl ⟨rfl, rfl, rfl, rfl⟩
    · contradiction
  | opened number db =>
    simp only [step] at taken
    split at taken
    · next generation factory here =>
      rw [← Option.some.inj taken]
      exact inv.afterOpened db here
    · contradiction
  | openFailed number =>
    simp only [step] at taken
    split at taken
    · next generation factory here =>
      rw [← Option.some.inj taken]
      exact inv.failConnect here rfl
    · contradiction
  | discarded number closed =>
    simp only [step] at taken
    split at taken
    · next generation factory db here =>
      rw [← Option.some.inj taken]
      split
      · have logged : (state.log (db.toList.map DatabaseEvent.closed)).Inv := by
          apply inv.log
          intro event member
          obtain ⟨value, _, same⟩ := List.mem_map.mp member
          rw [← same]
          rfl
        exact logged.failConnect here rfl
      · exact inv.failConnect here rfl
    · contradiction
  | waited number =>
    simp only [step] at taken
    split at taken
    · next previousDb captured here =>
      split at taken
      · rw [← Option.some.inj taken]
        have closes : Closes _ _ _ _ _ := inv.attempts number _ here
        exact inv.moves here ⟨rfl, rfl, rfl, rfl⟩
          ⟨closes.last, closes.closing, closes.promise, closes.previous, nofun⟩ inv.recorded
      · contradiction
    · contradiction
  | drained number =>
    simp only [step] at taken
    split at taken
    · next previousDb here => exact inv.drained here taken
    · contradiction
  | closeSettled number closed =>
    simp only [step] at taken
    split at taken
    · next previousDb db here => exact inv.closeSettled here closed taken
    · contradiction

theorem inv_reachable {storageFactory : Option Nat}
    (reached : (connections storageFactory).Reachable state) : state.Inv := by
  apply reached.invariant
  · exact ⟨rfl, nofun, nofun, fun _ => rfl, nofun, nofun⟩
  · intro before event after inv taken
    exact inv_step inv taken

end Ownership

end WebTsToolkit.MongooseRxdb
