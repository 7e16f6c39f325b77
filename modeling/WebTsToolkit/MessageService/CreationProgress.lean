import WebTsToolkit.MessageService.CreationContract

set_option autoImplicit false

namespace WebTsToolkit.MessageService.Creation

open Library

/-- An event of one call that gets its items and its answers, with clock readings from some time
on. -/
inductive Timely {δ : Type} (number : Nat) (docs : List δ) (since : Int) :
    CreationEvent δ → Prop where
  | call : Timely number docs since (.call number)
  | read : Timely number docs since (.step number .read)
  | start {now : Int} (late : since ≤ now) : Timely number docs since (.step number (.start now))
  | create {now : Int} (late : since ≤ now) :
      Timely number docs since (.step number (.create now none))
  | takeOver {now later : Int} (late : since ≤ now) (late' : since ≤ later) :
      Timely number docs since (.step number (.takeOver now later none))
  | wait {now : Int} (late : since ≤ now) : Timely number docs since (.step number (.wait now))
  | prepare : Timely number docs since (.step number (.prepare (.items docs)))
  | commit : Timely number docs since (.step number (.commit .answers none))
  | markFailed : Timely number docs since (.step number (.markFailed none))

/-- A batch of the given items was returned. -/
def Created {δ : Type} (docs : List δ) (phase : Phase δ) : Prop :=
  ∃ messages, phase = .returned messages ∧ messages.map ScopedMessage.data = docs

/-- How a new call for these items ends: with a batch of its own where none was committed, with
the batch that was, or with the failure on record. -/
def Answered {δ : Type} (settings : CreationSettings) (run : CreationRun δ) (docs : List δ)
    (phase : Phase δ) : Prop :=
  (run.batches = [] ∧ Created docs phase) ∨
    (∃ batch ∈ run.batches, phase = .returned batch.messages) ∨
    ∃ request, run.store.request = some request ∧ request.state = .failed ∧
      phase = .threw (.failed settings.clientRequestId request.failureMessage)

section Alone

variable {δ : Type} {settings : CreationSettings} {number : Nat} {docs : List δ} {since : Int}
  {answered : Phase δ → Prop} {run : CreationRun δ}

/-- The call comes to such an end, whatever its clock reads from the given time on. -/
def Ends (settings : CreationSettings) (number : Nat) (docs : List δ) (since : Int)
    (answered : Phase δ → Prop) : CreationRun δ → Prop :=
  (creationRuns δ settings).Inevitable (Timely number docs since) fun run =>
    ∃ phase, run.callers number = some phase ∧ answered phase

/-- What a timely step from a phase does to the run. -/
def Moves (settings : CreationSettings) (number : Nat) (docs : List δ) (since : Int)
    (run next : CreationRun δ) : Phase δ → Prop
  | .checking read => next = readReplay settings run number read .checking .starting
  | .starting =>
    ∃ now ≥ since, next = run.setPhase number (.creating (now + settings.clientRequestWaitMs))
  | .creating deadline => ∃ now ≥ since, next = create settings run number deadline now none
  | .takingOver deadline =>
    ∃ now ≥ since, ∃ later ≥ since,
      next = takeOver settings run number deadline now later none
  | .polling deadline read =>
    next = readReplay settings run number read (.polling deadline) (.waiting deadline)
  | .waiting deadline => ∃ now ≥ since, next = wait settings run number deadline now
  | .preparing lease => next = prepare run number lease (.items docs)
  | .committing lease docs => next = commit settings run number lease docs .answers none
  | .failing lease message => next = markFailed run number lease message none
  | .returned _ | .threw _ => False

theorem callers_setPhase (run : CreationRun δ) (number : Nat) (phase : Phase δ) :
    (run.setPhase number phase).callers number = some phase :=
  Function.update_self _ _ _

theorem setPhase_setPhase (run : CreationRun δ) (number : Nat) (phase after : Phase δ) :
    (run.setPhase number phase).setPhase number after = run.setPhase number after := by
  simp only [CreationRun.setPhase, Function.update_idem]

variable {phase : Phase δ}

/-- A timely step is a move. -/
theorem moves_of_timely {step : CallStep δ} {next : CreationRun δ}
    (timely : Timely number docs since (.step number step))
    (taken : callStep settings run number phase step = some next) :
    Moves settings number docs since run next phase := by
  cases timely <;> cases phase <;>
    simp only [callStep, reduceCtorEq, Option.some.injEq] at taken <;> subst taken
  case read.checking | read.polling | prepare | commit | markFailed => rfl
  case start.starting late | create.creating late _ | wait.waiting late _ => exact ⟨_, late, rfl⟩
  case takeOver.takingOver late late' _ => exact ⟨_, late, _, late', rfl⟩

theorem timely_of_moves {next : CreationRun δ}
    (moves : Moves settings number docs since run next phase) :
    ∃ step, Timely number docs since (.step number step) ∧
      callStep settings run number phase step = some next := by
  cases phase with
  | checking read | polling deadline read => exact ⟨_, .read, congrArg some moves.symm⟩
  | starting =>
    obtain ⟨now, late, same⟩ := moves
    exact ⟨_, .start late, congrArg some same.symm⟩
  | creating deadline =>
    obtain ⟨now, late, same⟩ := moves
    exact ⟨_, .create late, congrArg some same.symm⟩
  | takingOver deadline =>
    obtain ⟨now, late, later, late', same⟩ := moves
    exact ⟨_, .takeOver late late', congrArg some same.symm⟩
  | waiting deadline =>
    obtain ⟨now, late, same⟩ := moves
    exact ⟨_, .wait late, congrArg some same.symm⟩
  | preparing lease => exact ⟨_, .prepare, congrArg some moves.symm⟩
  | committing lease docs => exact ⟨_, .commit, congrArg some moves.symm⟩
  | failing lease message => exact ⟨_, .markFailed, congrArg some moves.symm⟩
  | returned | threw => exact moves.elim

/-- A call ends that ends after each of its moves. -/
theorem ends_of_moves
    (possible : ∃ next, Moves settings number docs since (run.setPhase number phase) next phase)
    (later : ∀ next, Moves settings number docs since (run.setPhase number phase) next phase →
      Ends settings number docs since answered next) :
    Ends settings number docs since answered (run.setPhase number phase) := by
  have here := callers_setPhase run number phase
  refine .step ?_ fun event next timely taken => later next ?_
  · obtain ⟨next, moves⟩ := possible
    obtain ⟨step, timely, taken⟩ := timely_of_moves moves
    exact ⟨_, next, timely, by simpa only [creationRuns, creationStep, here] using taken⟩
  · cases timely with
    | call => simp only [creationRuns, creationStep, here, reduceCtorEq] at taken
    | read | start | create | takeOver | wait | prepare | commit | markFailed =>
      simp only [creationRuns, creationStep, here] at taken
      exact moves_of_timely (by constructor <;> assumption) taken

theorem ends_call (absent : run.callers number = none)
    (later : Ends settings number docs since answered
      (run.setPhase number (.checking .reservation))) :
    Ends settings number docs since answered run := by
  refine .step ⟨.call number, run.setPhase number (.checking .reservation), .call, ?_⟩
    fun event next timely taken => ?_
  · simp only [creationRuns, creationStep, absent]
  · cases timely with
    | call =>
      simp only [creationRuns, creationStep, absent, Option.some.injEq] at taken
      exact taken ▸ later
    | read | start | create | takeOver | wait | prepare | commit | markFailed =>
      simp only [creationRuns, creationStep, absent, reduceCtorEq] at taken

theorem ends_answered (answers : answered phase) :
    Ends settings number docs since answered (run.setPhase number phase) :=
  .ended ⟨phase, callers_setPhase run number phase, answers⟩

/-- A read of the first replay that nothing else comes between. -/
theorem ends_read {read : ReplayRead δ} {answer : ReplayAnswer δ}
    (found : findCompletedClientRequestReplay settings.clientRequestId run.store read = answer)
    (later : Ends settings number docs since answered
      (run.setPhase number (answerPhase .checking .starting answer))) :
    Ends settings number docs since answered (run.setPhase number (.checking read)) := by
  refine ends_of_moves ⟨_, rfl⟩ ?_
  rintro next rfl
  rw [readReplay, setPhase_setPhase]
  exact found ▸ later

/-- A call that is not answered by a replay begins to wait. -/
theorem ends_start (later : ∀ deadline, Ends settings number docs since answered
      (run.setPhase number (.creating deadline))) :
    Ends settings number docs since answered (run.setPhase number .starting) := by
  refine ends_of_moves ⟨_, since, le_refl since, rfl⟩ ?_
  rintro next ⟨now, _, rfl⟩
  rw [setPhase_setPhase]
  exact later _

end Alone

section Creates

variable {δ : Type} {settings : CreationSettings} {number : Nat} {run : CreationRun δ}

theorem map_data_createdMessages (drawn : Nat) (docs : List δ) :
    (createdMessages drawn docs).map ScopedMessage.data = docs := by
  refine List.ext_getElem? fun index => ?_
  simp only [createdMessages, List.getElem?_map, List.getElem?_mapIdx, Option.map_map]
  exact congrFun Option.map_id docs[index]?

variable {request : MessageRequest}

theorem persistPreparedBatch_of_held {store : Store δ} {lease : Nat}
    (stored : store.request = some request) (held : request.heldBy lease = true)
    (empty : store.active = []) (clientRequestId duplicateKey : String) (drawn : Nat)
    (docs : List δ) :
    persistPreparedBatch store clientRequestId duplicateKey drawn lease docs =
      .ok (committedStore store request drawn docs, createdMessages drawn docs) := by
  simp [persistPreparedBatch, empty, stored, held, committedStore]

variable {docs : List δ} {since : Int}

/-- The owner of a reservation creates its messages. -/
theorem ends_preparing {lease : Nat} (stored : run.store.request = some request)
    (held : request.heldBy lease = true) (empty : run.store.active = []) :
    Ends settings number docs since (Created docs) (run.setPhase number (.preparing lease)) := by
  refine ends_of_moves ⟨_, rfl⟩ ?_
  rintro next rfl
  rw [prepare, setPhase_setPhase]
  refine ends_of_moves ⟨_, rfl⟩ ?_
  rintro next rfl
  have persisted := persistPreparedBatch_of_held stored held empty settings.clientRequestId
    settings.duplicateKey run.drawn docs
  simp only [commit]
  rw [show persistPreparedBatch (run.setPhase number (.committing lease docs)).store
    settings.clientRequestId settings.duplicateKey
    (run.setPhase number (.committing lease docs)).drawn lease docs = _ from persisted]
  exact ends_answered ⟨_, rfl, map_data_createdMessages _ _⟩

/-- A call that a step made the owner of the reservation. -/
theorem ends_gives {store : Store δ} (gives : Gives run.store store run.drawn)
    (empty : run.store.active = []) :
    Ends settings number docs since (Created docs)
      (((run.draw 1).setStore store).setPhase number (.preparing run.drawn)) := by
  obtain ⟨request, rfl, pending, owner, _⟩ := gives.given
  exact ends_preparing rfl (heldBy_iff.mpr ⟨pending, owner⟩) empty

/-- A new call for a scope that nothing is stored of. -/
theorem ends_new (absent : run.store.request = none) (active : run.store.active = [])
    (archive : run.store.archive = []) :
    Ends settings number docs since (Created docs)
      (run.setPhase number (.checking .reservation)) := by
  have first : findCompletedClientRequestReplay settings.clientRequestId run.store .reservation =
      .reads .active := by
    simp only [findCompletedClientRequestReplay, absent]
  have second : findCompletedClientRequestReplay settings.clientRequestId run.store .active =
      .reads (.archived []) := by
    rw [findCompletedClientRequestReplay, active]
    rfl
  have third : findCompletedClientRequestReplay settings.clientRequestId run.store (.archived []) =
      .unfinished := by
    rw [findCompletedClientRequestReplay, archive]
    rfl
  refine ends_read first (ends_read second (ends_read third (ends_start fun deadline => ?_)))
  refine ends_of_moves ⟨_, since, le_refl since, rfl⟩ ?_
  rintro next ⟨now, _, rfl⟩
  obtain ⟨store, created⟩ : ∃ store, tryCreateClientRequestReservation run.store run.drawn
      (now + settings.clientRequestLeaseMs) = some store := by
    simp only [tryCreateClientRequestReservation, absent]
    exact ⟨_, rfl⟩
  rw [create]
  rw [show tryCreateClientRequestReservation (run.setPhase number (.creating deadline)).store
    (run.setPhase number (.creating deadline)).drawn (now + settings.clientRequestLeaseMs) = _
    from created]
  have owned : Ends settings number docs since (Created docs)
      (((run.draw 1).setStore store).setPhase number (.preparing run.drawn)) :=
    ends_gives (gives_create created) active
  rw [← setPhase_setPhase ((run.draw 1).setStore store) number (.creating deadline)] at owned
  exact owned

/-- A new call for a scope whose lease is over by the time. -/
theorem ends_stale {expiresAt : Int} (stored : run.store.request = some request)
    (pending : request.state = .pending) (expires : request.leaseExpiresAt = some expiresAt)
    (active : run.store.active = []) :
    Ends settings number docs expiresAt (Created docs)
      (run.setPhase number (.checking .reservation)) := by
  have first : findCompletedClientRequestReplay settings.clientRequestId run.store .reservation =
      .unfinished := by
    simp only [findCompletedClientRequestReplay, stored, answerReservation, pending]
  refine ends_read first (ends_start fun deadline => ?_)
  refine ends_of_moves ⟨_, expiresAt, le_refl expiresAt, rfl⟩ ?_
  rintro next ⟨now, _, rfl⟩
  have refused : create settings (run.setPhase number (.creating deadline)) number deadline now
      none = (run.draw 1).setPhase number (.takingOver deadline) := by
    simp only [create, tryCreateClientRequestReservation, CreationRun.setPhase, stored,
      CreationRun.draw, Function.update_idem]
  rw [refused]
  refine ends_of_moves ⟨_, expiresAt, le_refl expiresAt, expiresAt, le_refl expiresAt, rfl⟩ ?_
  rintro next ⟨now', late, later, _, rfl⟩
  obtain ⟨store, stale⟩ : ∃ store, tryTakeOverStaleClientRequestReservation run.store
      (run.draw 1).drawn now' (later + settings.clientRequestLeaseMs) = some store := by
    have expired : request.leaseOver now' = true := by
      simpa only [MessageRequest.leaseOver, expires, decide_eq_true_eq] using late
    simp only [tryTakeOverStaleClientRequestReservation, stored, pending, expired, and_self,
      if_true]
    exact ⟨_, rfl⟩
  rw [takeOver]
  rw [show tryTakeOverStaleClientRequestReservation
    ((run.draw 1).setPhase number (.takingOver deadline)).store
    ((run.draw 1).setPhase number (.takingOver deadline)).drawn now'
    (later + settings.clientRequestLeaseMs) = _ from stale]
  have owned : Ends settings number docs expiresAt (Created docs)
      ((((run.draw 1).draw 1).setStore store).setPhase number (.preparing (run.draw 1).drawn)) :=
    ends_gives (gives_takeOver stale) active
  rw [← setPhase_setPhase (((run.draw 1).draw 1).setStore store) number
    (.takingOver deadline)] at owned
  exact owned

end Creates

section Answers

variable {δ : Type} {settings : CreationSettings} {number : Nat} {run : CreationRun δ}

/-- A new call after the commit reads the whole batch. -/
theorem ends_replayed (inv : Inv run) (kept : run.removed = 0) {batch : Batch δ}
    (listed : batch ∈ run.batches) (docs : List δ) (since : Int) {answered : Phase δ → Prop}
    (answers : answered (.returned batch.messages)) :
    Ends settings number docs since answered (run.setPhase number (.checking .reservation)) := by
  have closed := inv.store.closed batch listed
  obtain ⟨request, stored, completed, counted⟩ := closed.completed
  have natural : ¬(batch.messages.length : Int) < 0 := by omega
  have first : findCompletedClientRequestReplay settings.clientRequestId run.store .reservation =
      .reads (.completedActive batch.messages.length false) := by
    simp only [findCompletedClientRequestReplay, stored, answerReservation, completed,
      buildCompletedReplay, counted, if_neg natural]
  have second : findCompletedClientRequestReplay settings.clientRequestId run.store
      (.completedActive batch.messages.length false) =
        .reads (.completedArchived batch.messages.length false
          (findByClientRequestScope run.store.active)) := rfl
  have third : findCompletedClientRequestReplay settings.clientRequestId run.store
      (.completedArchived batch.messages.length false
        (findByClientRequestScope run.store.active)) = .replay batch.messages := by
    have found (message : ScopedMessage δ) :
        message ∈ findByClientRequestScope run.store.active ++
            findByClientRequestScope run.store.archive ↔
          message ∈ run.store.active ++ run.store.archive := by
      simp only [List.mem_append, mem_findByClientRequestScope]
    rcases settleReplay_cases settings.clientRequestId false closed.numbered
      (fun message member => closed.within message ((found message).mp member)) with
      whole | ⟨missed, _⟩
    · exact whole
    · exact absurd (fun message member =>
        (found message).mpr (closed.covers kept message member)) missed
  exact ends_read first (ends_read second (ends_read third (ends_answered answers)))

theorem Ends.weaken {docs : List δ} {since : Int} {answered weaker : Phase δ → Prop}
    (ends : Ends settings number docs since answered run)
    (weaken : ∀ phase, answered phase → weaker phase) :
    Ends settings number docs since weaker run := by
  induction ends with
  | ended ended =>
    obtain ⟨phase, here, answers⟩ := ended
    exact .ended ⟨phase, here, weaken phase answers⟩
  | step possible _ ih => exact .step possible ih

/-- No scope is stuck: from every state reached with no message deleted, a new call that runs alone
and reads no time before a certain one comes to its end, and returns the batch, its own where none
was committed, or throws the failure on record. -/
theorem always_answered (reached : (creationRuns δ settings).Reachable run)
    (kept : run.removed = 0) (unused : run.callers number = none) (docs : List δ) :
    ∃ since : Int, (creationRuns δ settings).Inevitable (Timely number docs since)
      (fun next => ∃ phase, next.callers number = some phase ∧ Answered settings run docs phase)
      run := by
  have inv := Inv.of_reachable reached
  have answered (opened : run.batches = []) (phase : Phase δ) (created : Created docs phase) :
      Answered settings run docs phase := Or.inl ⟨opened, created⟩
  cases stored : run.store.request with
  | none =>
    have opened := inv.store.uncommitted fun request stored' => by
      rw [stored] at stored'
      contradiction
    obtain ⟨active, archive, _⟩ := inv.store.opened opened
    exact ⟨0, ends_call unused ((ends_new stored active archive).weaken (answered opened))⟩
  | some request =>
    cases state : request.state with
    | pending =>
      have opened := inv.store.uncommitted fun request' stored' completed => by
        rw [stored] at stored'
        rw [← Option.some.inj stored', state] at completed
        contradiction
      obtain ⟨expiresAt, expires⟩ :=
        Option.isSome_iff_exists.mp (inv.leases.expires request stored state)
      have empty := (inv.store.opened opened).1
      exact ⟨expiresAt,
        ends_call unused ((ends_stale stored state expires empty).weaken (answered opened))⟩
    | completed =>
      obtain ⟨batch, listed, _⟩ := closed_of_completed inv.store stored state
      exact ⟨0, ends_call unused
        (ends_replayed inv kept listed docs 0 (Or.inr (Or.inl ⟨batch, listed, rfl⟩)))⟩
    | failed =>
      have first : findCompletedClientRequestReplay settings.clientRequestId run.store
          .reservation =
            .throws (.failed settings.clientRequestId request.failureMessage) := by
        simp only [findCompletedClientRequestReplay, stored, answerReservation, state]
      exact ⟨0, ends_call unused (ends_read first
        (ends_answered (Or.inr (Or.inr ⟨request, stored, state, rfl⟩))))⟩

theorem always_answered_takenOver :
    ∃ since : Int, (creationRuns String ⟨"r", 10, 5, "E11000"⟩).Inevitable (Timely 3 [] since)
      (fun next => ∃ phase, next.callers 3 = some phase ∧
        Answered ⟨"r", 10, 5, "E11000"⟩ takenOver [] phase) takenOver :=
  always_answered takenOver_reached rfl rfl []

end Answers

end WebTsToolkit.MessageService.Creation
