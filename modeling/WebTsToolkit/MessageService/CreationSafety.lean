import WebTsToolkit.Library.Fence
import WebTsToolkit.MessageService.CreationReplay

set_option autoImplicit false

namespace WebTsToolkit.MessageService.Creation

open Library

section Phases

variable {δ : Type}

/-- The lease that a call still acts under. -/
def Phase.lease : Phase δ → Option Nat
  | .preparing lease | .committing lease _ | .failing lease _ => some lease
  | _ => none

def Phase.ended : Phase δ → Bool
  | .returned _ | .threw _ => true
  | _ => false

def CreationError.Inconsistent : CreationError → Prop
  | .inconsistentState _ _ => True
  | _ => False

/-- A phase that says nothing about the messages of the scope. -/
def Phase.Plain : Phase δ → Prop
  | .checking read | .polling _ read => read = .reservation
  | .returned _ => False
  | .threw error => ¬error.Inconsistent
  | _ => True

/-- A call goes on without a lease, or under the one that it has until it ends. -/
structure Goes (before after : Phase δ) : Prop where
  going : before.ended = false
  lease : ∀ lease, after.lease = some lease → before.lease = some lease
  holds : ∀ lease, before.lease = some lease → after.lease = some lease ∨ after.ended = true
  plain : after.Plain

/-- A call waits for a read, and for what comes after it. -/
inductive Asking : Phase δ → ReplayRead δ → (ReplayRead δ → Phase δ) → Phase δ → Prop where
  | checking (read : ReplayRead δ) : Asking (.checking read) read .checking .starting
  | polling (deadline : Int) (read : ReplayRead δ) :
      Asking (.polling deadline read) read (.polling deadline) (.waiting deadline)

end Phases

section Effects

variable {δ : Type}

/-- A write that makes a caller the owner of a reservation, if there is one, that is pending. -/
structure Gives (store next : Store δ) (ownerId : Nat) : Prop where
  open' : ∀ request, store.request = some request → request.state = .pending
  given : ∃ request, next = { store with request := some request } ∧ request.state = .pending ∧
    request.leaseOwnerId = some ownerId ∧ request.leaseExpiresAt.isSome = true

/-- The collections after the transaction of a batch. -/
def committedStore (store : Store δ) (request : MessageRequest) (drawn : Nat) (docs : List δ) :
    Store δ :=
  { store with
    request := some (request.completed docs.length)
    active := store.active ++ createdMessages drawn docs }

/-- What a step does to the run. -/
inductive Effect (settings : CreationSettings) (run : CreationRun δ) : CreationRun δ → Prop where
  | call {number : Nat} (absent : run.callers number = none) :
      Effect settings run (run.setPhase number (.checking .reservation))
  | read {number : Nat} {phase : Phase δ} {read : ReplayRead δ} {reads : ReplayRead δ → Phase δ}
      {unfinished : Phase δ} (listed : run.callers number = some phase)
      (asking : Asking phase read reads unfinished) :
      Effect settings run (readReplay settings run number read reads unfinished)
  | move {number : Nat} {phase after : Phase δ} (drawn : Nat)
      (listed : run.callers number = some phase) (goes : Goes phase after) :
      Effect settings run ((run.draw drawn).setPhase number after)
  | lease {number : Nat} {phase : Phase δ} {store : Store δ} (lost : Option String)
      (listed : run.callers number = some phase)
      (creating : phase.lease = none ∧ phase.ended = false)
      (gives : Gives run.store store run.drawn) :
      Effect settings run
        (((run.draw 1).setStore store).setPhase number (leased run.drawn lost))
  | commit {number lease : Nat} {docs : List δ} {request : MessageRequest} {after : Phase δ}
      (listed : run.callers number = some (.committing lease docs))
      (stored : run.store.request = some request) (held : request.heldBy lease = true)
      (ends : after = .returned (createdMessages run.drawn docs) ∨
        Goes (.committing lease docs) after) :
      Effect settings run
        ((((run.draw docs.length).setStore
          (committedStore run.store request run.drawn docs)).addBatch
            ⟨lease, createdMessages run.drawn docs⟩).setPhase number after)
  | fail {number lease : Nat} {message : String} {request : MessageRequest} (thrown : String)
      (listed : run.callers number = some (.failing lease message))
      (stored : run.store.request = some request) (held : request.heldBy lease = true) :
      Effect settings run
        ((run.setStore { run.store with request := some (request.failed message) }).setPhase number
          (.threw (.thrown thrown)))
  | archive {message : ScopedMessage δ} (stored : message ∈ run.store.active) :
      Effect settings run (run.setStore (archiveMessage run.store message))
  | remove (messageId : Nat) :
      Effect settings run
        { run.setStore (removeMessage run.store messageId) with removed := run.removed + 1 }

variable {settings : CreationSettings} {run next : CreationRun δ} {number : Nat}

theorem Effect.stay {phase after : Phase δ} (listed : run.callers number = some phase)
    (goes : Goes phase after) : Effect settings run (run.setPhase number after) :=
  Effect.move 0 listed goes

theorem goes_threw {phase : Phase δ} {error : CreationError} (going : phase.ended = false)
    (sound : ¬error.Inconsistent) : Goes phase (.threw error) :=
  ⟨going, (fun _ same => nomatch same), fun _ _ => Or.inr rfl, sound⟩

theorem goes_leased {before after : Phase δ} (going : before.ended = false)
    (same : after.lease = before.lease) (plain : after.Plain) : Goes before after :=
  ⟨going, fun _ leased => by rw [← same, leased],
    fun _ leased => Or.inl (by rw [same, leased]), plain⟩

theorem goes_rejected {docs : List δ} (lease : Nat) {error : CreationError}
    (sound : ¬error.Inconsistent) (compensation : Option String) :
    Goes (.committing lease docs) (rejected lease error compensation) := by
  have failing (message : String) :
      Goes (.committing lease docs : Phase δ) (.failing lease message) :=
    goes_leased rfl rfl trivial
  cases compensation with
  | some message => exact failing message
  | none =>
    cases error with
    | pending clientRequestId => exact goes_threw rfl sound
    | failed clientRequestId failureReason | thrown message => exact failing _
    | inconsistentState clientRequestId message => exact absurd trivial sound

theorem gives_create {store next : Store δ} {ownerId : Nat} {leaseExpiresAt : Int}
    (created : tryCreateClientRequestReservation store ownerId leaseExpiresAt = some next) :
    Gives store next ownerId := by
  unfold tryCreateClientRequestReservation at created
  split at created
  case h_1 => contradiction
  case h_2 absent =>
    refine ⟨fun request stored => ?_, _, (Option.some.inj created).symm, rfl, rfl, rfl⟩
    rw [absent] at stored
    contradiction

theorem gives_takeOver {store next : Store δ} {ownerId : Nat} {now leaseExpiresAt : Int}
    (taken : tryTakeOverStaleClientRequestReservation store ownerId now leaseExpiresAt =
      some next) :
    Gives store next ownerId := by
  unfold tryTakeOverStaleClientRequestReservation at taken
  split at taken
  case h_1 request stored =>
    split at taken
    case isTrue stale =>
      refine ⟨fun request' stored' => ?_, _, (Option.some.inj taken).symm, stale.1, rfl, rfl⟩
      rw [stored] at stored'
      rw [← Option.some.inj stored']
      exact stale.1
    case isFalse => contradiction
  case h_2 => contradiction

/-- A transaction commits under the lease of the reservation, or throws. -/
theorem persistPreparedBatch_cases (store : Store δ) (clientRequestId duplicateKey : String)
    (drawn lease : Nat) (docs : List δ) :
    (∃ request, store.request = some request ∧ request.heldBy lease = true ∧
      persistPreparedBatch store clientRequestId duplicateKey drawn lease docs =
        .ok (committedStore store request drawn docs, createdMessages drawn docs)) ∨
    ∃ error, ¬error.Inconsistent ∧
      persistPreparedBatch store clientRequestId duplicateKey drawn lease docs = .error error := by
  simp only [persistPreparedBatch]
  split
  case isTrue => exact Or.inr ⟨_, id, rfl⟩
  case isFalse =>
    cases stored : store.request with
    | none => exact Or.inr ⟨_, id, rfl⟩
    | some request =>
      cases held : request.heldBy lease with
      | false => exact Or.inr ⟨.pending clientRequestId, id, by simp [held]⟩
      | true => exact Or.inl ⟨request, rfl, held, by simp [held, committedStore]⟩

variable {lease : Nat}

theorem effect_commit {docs : List δ}
    (listed : run.callers number = some (.committing lease docs)) (outcome : CommitOutcome)
    (compensation : Option String) :
    Effect settings run (commit settings run number lease docs outcome compensation) := by
  unfold commit
  rcases persistPreparedBatch_cases run.store settings.clientRequestId settings.duplicateKey
    run.drawn lease docs with ⟨request, stored, held, persisted⟩ | ⟨error, sound, persisted⟩
  · rw [persisted]
    cases outcome with
    | answers => exact Effect.commit listed stored held (Or.inl rfl)
    | aborts message => exact Effect.move _ listed (goes_rejected lease id compensation)
    | unreported message =>
      exact Effect.commit listed stored held (Or.inr (goes_rejected lease id compensation))
  · rw [persisted]
    cases outcome with
    | answers => exact Effect.move _ listed (goes_rejected lease sound compensation)
    | aborts message => exact Effect.move _ listed (goes_rejected lease id compensation)
    | unreported message => exact Effect.move _ listed (goes_rejected lease id compensation)

theorem effect_markFailed {message : String}
    (listed : run.callers number = some (.failing lease message)) (lost : Option String) :
    Effect settings run (markFailed run number lease message lost) := by
  unfold markFailed failClientRequestReservation
  cases stored : run.store.request with
  | none => exact Effect.stay listed (goes_threw rfl id)
  | some request =>
    cases held : request.heldBy lease with
    | false =>
      simp only [held, Bool.false_eq_true, if_false]
      exact Effect.stay listed (goes_threw rfl id)
    | true =>
      simp only [held, if_true]
      exact Effect.fail _ listed stored held

theorem effect_create {deadline : Int} (listed : run.callers number = some (.creating deadline))
    (now : Int) (lost : Option String) :
    Effect settings run (create settings run number deadline now lost) := by
  unfold create
  split
  case h_1 store created => exact Effect.lease lost listed ⟨rfl, rfl⟩ (gives_create created)
  case h_2 => exact Effect.move 1 listed (goes_leased rfl rfl trivial)

theorem effect_takeOver {deadline : Int}
    (listed : run.callers number = some (.takingOver deadline)) (now later : Int)
    (lost : Option String) :
    Effect settings run (takeOver settings run number deadline now later lost) := by
  unfold takeOver
  split
  case h_1 store taken => exact Effect.lease lost listed ⟨rfl, rfl⟩ (gives_takeOver taken)
  case h_2 => exact Effect.move 1 listed (goes_leased rfl rfl rfl)

theorem effect_prepare (listed : run.callers number = some (.preparing lease))
    (outcome : PrepareOutcome δ) : Effect settings run (prepare run number lease outcome) := by
  cases outcome with
  | items docs | throws message => exact Effect.stay listed (goes_leased rfl rfl trivial)
  | pending clientRequestId => exact Effect.stay listed (goes_threw rfl id)

theorem effect_of_callStep {phase : Phase δ} {step : CallStep δ}
    (listed : run.callers number = some phase)
    (taken : callStep settings run number phase step = some next) : Effect settings run next := by
  unfold callStep at taken
  split at taken
  all_goals first
    | contradiction
    | (rw [← Option.some.inj taken])
  case h_1 => exact Effect.read listed (Asking.checking _)
  case h_2 => exact Effect.stay listed (goes_leased rfl rfl trivial)
  case h_3 => exact effect_create listed _ _
  case h_4 => exact effect_takeOver listed _ _ _
  case h_5 => exact Effect.read listed (Asking.polling _ _)
  case h_6 =>
    unfold wait
    refine Effect.stay listed ?_
    split
    · exact goes_threw rfl id
    · exact goes_leased rfl rfl trivial
  case h_7 => exact effect_prepare listed _
  case h_8 => exact effect_commit listed _ _
  case h_9 => exact effect_markFailed listed _
  all_goals exact Effect.stay listed (goes_threw rfl id)

theorem effect_of_step {event : CreationEvent δ}
    (taken : creationStep settings run event = some next) : Effect settings run next := by
  cases event with
  | call number =>
    simp only [creationStep] at taken
    split at taken
    case h_1 absent =>
      rw [← Option.some.inj taken]
      exact Effect.call absent
    case h_2 => contradiction
  | step number step =>
    simp only [creationStep] at taken
    split at taken
    case h_1 => contradiction
    case h_2 phase listed => exact effect_of_callStep listed taken
  | archive messageId =>
    simp only [creationStep] at taken
    split at taken
    case h_1 message found =>
      rw [← Option.some.inj taken]
      exact Effect.archive (List.mem_of_find?_eq_some found)
    case h_2 => contradiction
  | remove messageId =>
    rw [← Option.some.inj taken]
    exact Effect.remove messageId

end Effects

end WebTsToolkit.MessageService.Creation
