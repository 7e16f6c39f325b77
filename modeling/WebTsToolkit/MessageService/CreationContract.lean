import WebTsToolkit.MessageService.CreationSafety

set_option autoImplicit false

namespace WebTsToolkit.MessageService.Creation

open Library

section Invariants

variable {δ : Type} (run : CreationRun δ)

/-- The collections after a batch was committed. -/
structure Closed (batch : Batch δ) : Prop where
  only : run.batches = [batch]
  numbered : Numbered batch.messages
  completed : ∃ request, run.store.request = some request ∧ request.state = .completed ∧
    request.itemCount = some (batch.messages.length : Int)
  within : ∀ message ∈ run.store.active ++ run.store.archive, message ∈ batch.messages
  covers : run.removed = 0 → ∀ message ∈ batch.messages,
    message ∈ run.store.active ++ run.store.archive

/-- The collections hold nothing of the scope before its batch was committed. -/
structure StoreOk : Prop where
  opened : run.batches = [] → run.store.active = [] ∧ run.store.archive = [] ∧
    ∀ request, run.store.request = some request → request.state ≠ .completed
  closed : ∀ batch ∈ run.batches, Closed run batch

/-- Messages that were read at some time. -/
def Past (messages : List (ScopedMessage δ)) : Prop :=
  ∀ message ∈ messages, ∃ batch ∈ run.batches, message ∈ batch.messages

/-- A message of the batch that was not read in the active collection is in the archive by now. -/
def Gone (active : List (ScopedMessage δ)) : Prop :=
  run.removed = 0 → ∀ batch ∈ run.batches, ∀ message ∈ batch.messages,
    message ∈ active ∨ message ∈ run.store.archive

def Counted (itemCount : Int) : Prop :=
  ∃ batch ∈ run.batches, itemCount = batch.messages.length

def ReadOk : ReplayRead δ → Prop
  | .reservation | .active => True
  | .archived active => Past run active
  | .reservationAgain active archived =>
    Past run active ∧ Past run archived ∧ ∃ batch, batch ∈ run.batches
  | .completedActive itemCount _ => Counted run itemCount
  | .completedArchived itemCount _ active =>
    Counted run itemCount ∧ Past run active ∧ Gone run active

def AnswerOk : ReplayAnswer δ → Prop
  | .reads read => ReadOk run read
  | .unfinished => True
  | .replay messages => ∃ batch ∈ run.batches, messages = batch.messages
  | .throws error => run.removed = 0 → ¬error.Inconsistent

def PhaseOk : Phase δ → Prop
  | .checking read | .polling _ read => ReadOk run read
  | .returned messages => ∃ batch ∈ run.batches, messages = batch.messages
  | .threw error => run.removed = 0 → ¬error.Inconsistent
  | _ => True

def PhasesOk : Prop :=
  ∀ number phase, run.callers number = some phase → PhaseOk run phase

/-- What later states keep: the batch, and what was archived unless something was removed. -/
structure Extends (next : CreationRun δ) : Prop where
  batches : ∀ batch ∈ run.batches, batch ∈ next.batches
  settled : ∀ batch ∈ run.batches, next.batches = run.batches
  removed : run.removed ≤ next.removed
  archive : next.removed = 0 → ∀ message ∈ run.store.archive, message ∈ next.store.archive

end Invariants

section Answers

variable {δ : Type} {run next : CreationRun δ}

theorem extends_of_same (batches : next.batches = run.batches)
    (removed : next.removed = run.removed) (archive : next.store.archive = run.store.archive) :
    Extends run next where
  batches batch member := by rwa [batches]
  settled _ _ := batches
  removed := removed.ge
  archive _ message member := by rwa [archive]

theorem Past.extends {messages : List (ScopedMessage δ)} (past : Past run messages)
    (ext : Extends run next) : Past next messages := by
  intro message member
  obtain ⟨batch, listed, inside⟩ := past message member
  exact ⟨batch, ext.batches batch listed, inside⟩

theorem Counted.extends {itemCount : Int} (counted : Counted run itemCount)
    (ext : Extends run next) : Counted next itemCount := by
  obtain ⟨batch, listed, same⟩ := counted
  exact ⟨batch, ext.batches batch listed, same⟩

theorem ReadOk.extends {read : ReplayRead δ} (ok : ReadOk run read) (ext : Extends run next) :
    ReadOk next read := by
  cases read with
  | reservation | active => trivial
  | archived active => exact Past.extends ok ext
  | reservationAgain active archived =>
    obtain ⟨past, past', batch, listed⟩ := ok
    exact ⟨past.extends ext, past'.extends ext, batch, ext.batches batch listed⟩
  | completedActive itemCount again => exact Counted.extends ok ext
  | completedArchived itemCount again active =>
    obtain ⟨counted, past, gone⟩ := ok
    refine ⟨counted.extends ext, past.extends ext, fun kept batch listed message member => ?_⟩
    obtain ⟨first, before, _⟩ := counted
    rw [ext.settled first before] at listed
    have whole : run.removed = 0 := Nat.le_zero.mp (kept ▸ ext.removed)
    exact (gone whole batch listed message member).imp_right (ext.archive kept message)

theorem PhaseOk.extends {phase : Phase δ} (ok : PhaseOk run phase) (ext : Extends run next) :
    PhaseOk next phase := by
  cases phase with
  | checking read | polling deadline read => exact ReadOk.extends ok ext
  | returned messages =>
    obtain ⟨batch, listed, same⟩ := ok
    exact ⟨batch, ext.batches batch listed, same⟩
  | threw error => exact fun kept => ok (Nat.le_zero.mp (kept ▸ ext.removed))
  | _ => trivial

theorem phaseOk_of_plain {phase : Phase δ} (plain : phase.Plain) : PhaseOk run phase := by
  cases phase with
  | checking read | polling deadline read =>
    rw [show read = .reservation from plain]
    trivial
  | returned messages => exact plain.elim
  | threw error => exact fun _ => plain
  | _ => trivial

theorem past_of_stored (ok : StoreOk run) {messages : List (ScopedMessage δ)}
    (within : ∀ message ∈ messages, message ∈ run.store.active ++ run.store.archive) :
    Past run messages := by
  intro message member
  have stored := within message member
  by_cases opened : run.batches = []
  · obtain ⟨noActive, noArchive, _⟩ := ok.opened opened
    rw [noActive, noArchive] at stored
    exact absurd stored List.not_mem_nil
  · obtain ⟨batch, listed⟩ := List.exists_mem_of_ne_nil _ opened
    exact ⟨batch, listed, (ok.closed batch listed).within message stored⟩

theorem past_active (ok : StoreOk run) : Past run (findByClientRequestScope run.store.active) :=
  past_of_stored ok fun _ member =>
    List.mem_append_left _ (mem_findByClientRequestScope.mp member)

theorem past_archive (ok : StoreOk run) : Past run (findByClientRequestScope run.store.archive) :=
  past_of_stored ok fun _ member =>
    List.mem_append_right _ (mem_findByClientRequestScope.mp member)

/-- A completed reservation is that of the batch. -/
theorem closed_of_completed (ok : StoreOk run) {request : MessageRequest}
    (stored : run.store.request = some request) (completed : request.state = .completed) :
    ∃ batch ∈ run.batches, request.itemCount = some (batch.messages.length : Int) := by
  by_cases opened : run.batches = []
  · exact absurd completed ((ok.opened opened).2.2 request stored)
  · obtain ⟨batch, listed⟩ := List.exists_mem_of_ne_nil _ opened
    obtain ⟨request', stored', _, counted⟩ := (ok.closed batch listed).completed
    rw [stored] at stored'
    exact ⟨batch, listed, by rw [Option.some.inj stored', counted]⟩

/-- Two snapshots of the batch settle a replay: by the batch, or by another read where the second
snapshot may have missed what was on its way to the archive. -/
theorem answerOk_settle (ok : StoreOk run) (clientRequestId : String) {batch : Batch δ}
    (listed : batch ∈ run.batches) {again : Bool} {active archived : List (ScopedMessage δ)}
    (past : Past run active) (past' : Past run archived)
    (complete : again = true → run.removed = 0 →
      ∀ message ∈ batch.messages, message ∈ active ++ archived) :
    AnswerOk run
      (settleReplay clientRequestId batch.messages.length again active archived) := by
  have closed := ok.closed batch listed
  have within : ∀ message ∈ active ++ archived, message ∈ batch.messages := by
    intro message member
    have seen : ∃ batch ∈ run.batches, message ∈ batch.messages :=
      (List.mem_append.mp member).elim (past message) (past' message)
    obtain ⟨batch', listed', inside⟩ := seen
    rw [closed.only, List.mem_singleton] at listed'
    rwa [listed'] at inside
  rcases settleReplay_cases clientRequestId again closed.numbered within with
    whole | ⟨missed, reads | ⟨second, message, throws⟩⟩
  · rw [whole]
    exact ⟨batch, listed, rfl⟩
  · rw [reads]
    exact ⟨batch, listed, rfl⟩
  · rw [throws]
    exact fun kept => absurd (complete second kept) missed

theorem answerOk_reservation (ok : StoreOk run) (clientRequestId : String)
    {request : MessageRequest} (stored : run.store.request = some request)
    {cached : Option (List (ScopedMessage δ) × List (ScopedMessage δ))}
    (past : ∀ active archived, cached = some (active, archived) →
      Past run active ∧ Past run archived) :
    AnswerOk run (answerReservation clientRequestId request cached) := by
  cases state : request.state with
  | failed =>
    simp only [answerReservation, state]
    exact fun _ => id
  | pending =>
    simp only [answerReservation, state]
    trivial
  | completed =>
    obtain ⟨batch, listed, counted⟩ := closed_of_completed ok stored state
    have natural : ¬(batch.messages.length : Int) < 0 := by omega
    simp only [answerReservation, state, buildCompletedReplay, counted, if_neg natural]
    cases cached with
    | none => exact ⟨batch, listed, rfl⟩
    | some snapshots =>
      obtain ⟨pastActive, pastArchive⟩ := past snapshots.1 snapshots.2 rfl
      exact answerOk_settle ok clientRequestId listed pastActive pastArchive
        (fun second => nomatch second)

/-- Each read of a replay keeps what the reads before it found. -/
theorem answerOk_read (ok : StoreOk run) (clientRequestId : String) {read : ReplayRead δ}
    (readOk : ReadOk run read) :
    AnswerOk run (findCompletedClientRequestReplay clientRequestId run.store read) := by
  cases read with
  | reservation =>
    cases stored : run.store.request with
    | none =>
      simp only [findCompletedClientRequestReplay, stored]
      trivial
    | some request =>
      simp only [findCompletedClientRequestReplay, stored]
      exact answerOk_reservation ok clientRequestId stored (fun _ _ same => nomatch same)
  | active => exact past_active ok
  | archived active =>
    simp only [findCompletedClientRequestReplay]
    split
    case isTrue => trivial
    case isFalse found =>
      refine ⟨readOk, past_archive ok, ?_⟩
      by_contra none
      have unseen {messages : List (ScopedMessage δ)} (past : Past run messages) :
          messages = [] := by
        refine List.eq_nil_iff_forall_not_mem.mpr fun message member => none ?_
        obtain ⟨batch, listed, _⟩ := past message member
        exact ⟨batch, listed⟩
      rw [unseen readOk, unseen (past_archive ok)] at found
      exact found rfl
  | reservationAgain active archived =>
    obtain ⟨pastActive, pastArchive, batch, listed⟩ := readOk
    obtain ⟨request, stored, _⟩ := (ok.closed batch listed).completed
    simp only [findCompletedClientRequestReplay, stored]
    refine answerOk_reservation ok clientRequestId stored fun active' archived' same => ?_
    obtain ⟨rfl, rfl⟩ := Prod.mk.inj (Option.some.inj same)
    exact ⟨pastActive, pastArchive⟩
  | completedActive itemCount again =>
    refine ⟨readOk, past_active ok, fun kept batch listed message member => ?_⟩
    rw [mem_findByClientRequestScope]
    exact List.mem_append.mp ((ok.closed batch listed).covers kept message member)
  | completedArchived itemCount again active =>
    obtain ⟨⟨batch, listed, rfl⟩, past, gone⟩ := readOk
    refine answerOk_settle ok clientRequestId listed past (past_archive ok) ?_
    intro _ kept message member
    rw [List.mem_append, mem_findByClientRequestScope]
    exact gone kept batch listed message member

end Answers

section Steps

variable {δ : Type} {settings : CreationSettings} {run next : CreationRun δ}
  {request : MessageRequest} {lease : Nat}

theorem heldBy_iff :
    request.heldBy lease = true ↔ request.state = .pending ∧ request.leaseOwnerId = some lease := by
  simp [MessageRequest.heldBy]

/-- Nothing of the scope was committed while its reservation is not completed. -/
theorem StoreOk.uncommitted (ok : StoreOk run)
    (open' : ∀ request, run.store.request = some request → request.state ≠ .completed) :
    run.batches = [] := by
  by_contra closed
  obtain ⟨batch, listed⟩ := List.exists_mem_of_ne_nil _ closed
  obtain ⟨request, stored, completed, _⟩ := (ok.closed batch listed).completed
  exact open' request stored completed

theorem StoreOk.uncommitted_of_held (ok : StoreOk run) (stored : run.store.request = some request)
    (held : request.heldBy lease = true) : run.batches = [] := by
  refine ok.uncommitted fun request' stored' => ?_
  rw [stored] at stored'
  rw [← Option.some.inj stored', (heldBy_iff.mp held).1]
  exact fun same => nomatch same

theorem Closed.transfer {batch : Batch δ} (closed : Closed run batch)
    (batches : next.batches = run.batches) (removed : next.removed = run.removed)
    (request : next.store.request = run.store.request)
    (same : ∀ message, message ∈ next.store.active ++ next.store.archive ↔
      message ∈ run.store.active ++ run.store.archive) : Closed next batch where
  only := by rw [batches, closed.only]
  numbered := closed.numbered
  completed := by rw [request]; exact closed.completed
  within message member := closed.within message ((same message).mp member)
  covers kept message member := (same message).mpr (closed.covers (removed ▸ kept) message member)

theorem storeOk_of_same (ok : StoreOk run) (store : next.store = run.store)
    (batches : next.batches = run.batches) (removed : next.removed = run.removed) :
    StoreOk next where
  opened none := by
    rw [store]
    exact ok.opened (batches ▸ none)
  closed batch listed := by
    refine (ok.closed batch (batches ▸ listed)).transfer batches removed (by rw [store]) ?_
    intro message
    rw [store]

/-- The reservation changes while nothing was committed. -/
theorem storeOk_of_request (ok : StoreOk run) (uncommitted : run.batches = [])
    (store : next.store = { run.store with request := some request })
    (batches : next.batches = run.batches) (state : request.state ≠ .completed) :
    StoreOk next where
  opened _ := by
    obtain ⟨active, archive, _⟩ := ok.opened uncommitted
    rw [store]
    refine ⟨active, archive, fun request' stored => ?_⟩
    rw [← Option.some.inj stored]
    exact state
  closed batch listed := by
    rw [batches, uncommitted] at listed
    exact absurd listed List.not_mem_nil

theorem storeOk_archive (ok : StoreOk run) {message : ScopedMessage δ}
    (stored : message ∈ run.store.active) :
    StoreOk (run.setStore (archiveMessage run.store message)) where
  opened none := by
    rw [(ok.opened none).1] at stored
    exact absurd stored List.not_mem_nil
  closed batch listed := by
    have closed := ok.closed batch listed
    refine closed.transfer rfl rfl rfl fun other => ?_
    have moved : other ∈ run.store.active.filter (fun other => other.id != message.id) ∨
        other = message ↔ other ∈ run.store.active := by
      rw [List.mem_filter]
      constructor
      · rintro (⟨there, _⟩ | rfl)
        · exact there
        · exact stored
      · intro there
        by_cases same : other.id = message.id
        · exact Or.inr (closed.numbered.same_of_id other
            (closed.within other (List.mem_append_left _ there)) message
            (closed.within message (List.mem_append_left _ stored)) same)
        · exact Or.inl ⟨there, bne_iff_ne.mpr same⟩
    simp only [CreationRun.setStore, archiveMessage, List.mem_append, List.mem_singleton]
    rw [← moved]
    tauto

theorem storeOk_remove (ok : StoreOk run) (messageId : Nat) :
    StoreOk
      { run.setStore (removeMessage run.store messageId) with removed := run.removed + 1 } where
  opened none := by
    obtain ⟨active, archive, open'⟩ := ok.opened none
    refine ⟨?_, ?_, open'⟩
    · simp only [CreationRun.setStore, removeMessage, active, List.filter_nil]
    · simp only [CreationRun.setStore, removeMessage, archive, List.filter_nil]
  closed batch listed := by
    have closed := ok.closed batch listed
    refine ⟨closed.only, closed.numbered, closed.completed, fun message member => ?_, ?_⟩
    · refine closed.within message ?_
      simp only [CreationRun.setStore, removeMessage, List.mem_append, List.mem_filter] at member
      exact List.mem_append.mpr (member.imp And.left And.left)
    · exact fun kept => absurd kept (Nat.succ_ne_zero _)

/-- The first batch is all that the collections then hold. -/
theorem storeOk_commit (ok : StoreOk run) {docs : List δ} (uncommitted : run.batches = [])
    (store : next.store = committedStore run.store request run.drawn docs)
    (batches : next.batches = run.batches ++ [⟨lease, createdMessages run.drawn docs⟩]) :
    StoreOk next := by
  obtain ⟨active, archive, _⟩ := ok.opened uncommitted
  have only : next.batches = [⟨lease, createdMessages run.drawn docs⟩] := by
    rw [batches, uncommitted, List.nil_append]
  have stored : next.store.active ++ next.store.archive = createdMessages run.drawn docs := by
    rw [store]
    simp only [committedStore, active, archive, List.nil_append, List.append_nil]
  constructor
  · intro none
    exact absurd (only.symm.trans none) (List.cons_ne_nil _ _)
  · intro batch member
    rw [only, List.mem_singleton] at member
    rw [member]
    refine ⟨only, numbered_createdMessages _ _, ?_, ?_, ?_⟩
    · rw [store]
      refine ⟨_, rfl, rfl, ?_⟩
      rw [length_createdMessages]
      rfl
    · intro message member
      rwa [stored] at member
    · intro _ message member
      rwa [stored]

theorem storeOk_effect (ok : StoreOk run) (effect : Effect settings run next) : StoreOk next := by
  cases effect with
  | call absent => exact storeOk_of_same ok rfl rfl rfl
  | read listed asking | move drawn listed goes => exact storeOk_of_same ok rfl rfl rfl
  | lease lost listed creating gives =>
    obtain ⟨request, store, pending, _⟩ := gives.given
    refine storeOk_of_request ok (ok.uncommitted fun request' stored => ?_) store rfl ?_
    · rw [gives.open' request' stored]
      exact fun same => nomatch same
    · rw [pending]
      exact fun same => nomatch same
  | commit listed stored held ends =>
    exact storeOk_commit ok (ok.uncommitted_of_held stored held) rfl rfl
  | fail thrown listed stored held =>
    exact storeOk_of_request ok (ok.uncommitted_of_held stored held) rfl rfl
      (fun same => nomatch same)
  | archive stored => exact storeOk_archive ok stored
  | remove messageId => exact storeOk_remove ok messageId

theorem extends_effect (ok : StoreOk run) (effect : Effect settings run next) :
    Extends run next := by
  cases effect with
  | call absent | read listed asking | move drawn listed goes => exact extends_of_same rfl rfl rfl
  | lease lost listed creating gives =>
    obtain ⟨request, rfl, _⟩ := gives.given
    exact extends_of_same rfl rfl rfl
  | commit listed stored held ends =>
    have uncommitted := ok.uncommitted_of_held stored held
    refine ⟨fun batch member => List.mem_append_left _ member, fun batch member => ?_, le_refl _,
      fun _ _ member => member⟩
    rw [uncommitted] at member
    exact absurd member List.not_mem_nil
  | fail thrown listed stored held => exact extends_of_same rfl rfl rfl
  | archive stored =>
    exact ⟨fun _ member => member, fun _ _ => rfl, le_refl _,
      fun _ _ member => List.mem_append_left _ member⟩
  | remove messageId =>
    exact ⟨fun _ member => member, fun _ _ => rfl, Nat.le_succ _,
      fun kept => absurd kept (Nat.succ_ne_zero _)⟩

/-- One call moves on, and the others see a later state. -/
theorem phasesOk_setPhase (ok : PhasesOk run) (ext : Extends run next) {number : Nat}
    {after : Phase δ} (callers : next.callers = Function.update run.callers number (some after))
    (afterOk : PhaseOk next after) : PhasesOk next := by
  intro other phase listed
  rw [callers] at listed
  by_cases same : other = number
  · rw [same, Function.update_self] at listed
    rwa [← Option.some.inj listed]
  · rw [Function.update_of_ne same] at listed
    exact (ok other phase listed).extends ext

theorem phaseOk_answer {phase : Phase δ} {read : ReplayRead δ} {reads : ReplayRead δ → Phase δ}
    {unfinished : Phase δ} (asking : Asking phase read reads unfinished) {answer : ReplayAnswer δ}
    (ok : AnswerOk run answer) :
    PhaseOk run (answerPhase reads unfinished answer) := by
  cases answer with
  | reads next => cases asking <;> exact ok
  | unfinished => cases asking <;> trivial
  | replay messages | throws error => exact ok

theorem readOk_of_asking {phase : Phase δ} {read : ReplayRead δ} {reads : ReplayRead δ → Phase δ}
    {unfinished : Phase δ} (asking : Asking phase read reads unfinished) (ok : PhaseOk run phase) :
    ReadOk run read := by
  cases asking <;> exact ok

theorem phasesOk_effect (stored : StoreOk run) (ok : PhasesOk run)
    (effect : Effect settings run next) : PhasesOk next := by
  have ext := extends_effect stored effect
  cases effect with
  | call absent => exact phasesOk_setPhase ok ext rfl trivial
  | read listed asking =>
    have answered := answerOk_read stored settings.clientRequestId
      (readOk_of_asking asking (ok _ _ listed))
    have goesOn := (phaseOk_answer asking answered).extends ext
    exact phasesOk_setPhase ok ext rfl goesOn
  | move drawn listed goes => exact phasesOk_setPhase ok ext rfl (phaseOk_of_plain goes.plain)
  | lease lost listed creating gives =>
    refine phasesOk_setPhase ok ext rfl ?_
    cases lost with
    | none => trivial
    | some message => exact fun _ => id
  | commit listed held stored' ends =>
    refine phasesOk_setPhase ok ext rfl ?_
    rcases ends with rfl | goes
    · exact ⟨_, List.mem_append_right _ List.mem_cons_self, rfl⟩
    · exact phaseOk_of_plain goes.plain
  | fail thrown listed held stored' => exact phasesOk_setPhase ok ext rfl fun _ => id
  | archive held => exact fun number phase listed => (ok number phase listed).extends ext
  | remove messageId => exact fun number phase listed => (ok number phase listed).extends ext

end Steps

section Leases

variable {δ : Type} {settings : CreationSettings} {run next : CreationRun δ}

def Store.owner (store : Store δ) : Option Nat :=
  store.request.bind MessageRequest.leaseOwnerId

def CreationRun.fence (run : CreationRun δ) : Fence where
  owner := run.store.owner
  drawn := run.drawn

/-- Each lease was drawn, for one caller. -/
structure LeasesOk (run : CreationRun δ) : Prop where
  drawn : ∀ number phase lease, run.callers number = some phase → phase.lease = some lease →
    lease < run.drawn
  owner : ∀ lease, run.store.owner = some lease → lease < run.drawn
  apart : ∀ number phase other phase' lease, run.callers number = some phase →
    phase.lease = some lease → run.callers other = some phase' → phase'.lease = some lease →
      number = other
  expires : ∀ request, run.store.request = some request → request.state = .pending →
    request.leaseExpiresAt.isSome = true

/-- Every lease of the later callers is one that they had, or the one that was drawn. -/
structure Hands (run next : CreationRun δ) : Prop where
  drawn : run.drawn ≤ next.drawn
  origin : ∀ number phase lease, next.callers number = some phase → phase.lease = some lease →
    (∃ before, run.callers number = some before ∧ before.lease = some lease) ∨
      (lease = run.drawn ∧ run.drawn < next.drawn)
  single : ∀ number phase other phase', next.callers number = some phase →
    phase.lease = some run.drawn → next.callers other = some phase' →
      phase'.lease = some run.drawn → number = other

theorem callers_update {callers : Nat → Option (Phase δ)} {number other : Nat}
    {after phase : Phase δ}
    (listed : Function.update callers number (some after) other = some phase) :
    (other = number ∧ phase = after) ∨ (other ≠ number ∧ callers other = some phase) := by
  by_cases same : other = number
  · rw [same, Function.update_self] at listed
    exact Or.inl ⟨same, (Option.some.inj listed).symm⟩
  · rw [Function.update_of_ne same] at listed
    exact Or.inr ⟨same, listed⟩

theorem hands_of_kept (ok : LeasesOk run) (drawn : run.drawn ≤ next.drawn)
    (kept : ∀ number phase lease, next.callers number = some phase → phase.lease = some lease →
      ∃ before, run.callers number = some before ∧ before.lease = some lease) : Hands run next where
  drawn := drawn
  origin number phase lease listed leased := Or.inl (kept number phase lease listed leased)
  single number phase other phase' listed leased _ _ := by
    obtain ⟨before, listed', leased'⟩ := kept number phase _ listed leased
    exact absurd (ok.drawn number before _ listed' leased') (Nat.lt_irrefl _)

/-- One call goes on under no other lease than before. -/
theorem hands_setPhase (ok : LeasesOk run) {number : Nat} {phase after : Phase δ}
    (drawn : run.drawn ≤ next.drawn) (listed : run.callers number = some phase)
    (callers : next.callers = Function.update run.callers number (some after))
    (kept : ∀ lease, after.lease = some lease → phase.lease = some lease) : Hands run next := by
  refine hands_of_kept ok drawn fun other phase' lease listed' leased => ?_
  rw [callers] at listed'
  rcases callers_update listed' with ⟨rfl, rfl⟩ | ⟨_, before⟩
  · exact ⟨phase, listed, kept lease leased⟩
  · exact ⟨phase', before, leased⟩

variable {phase : Phase δ} {number lease : Nat}

theorem answerPhase_lease {read : ReplayRead δ} {reads : ReplayRead δ → Phase δ}
    {unfinished : Phase δ} (asking : Asking phase read reads unfinished) (answer : ReplayAnswer δ) :
    (answerPhase reads unfinished answer).lease = none := by
  cases asking <;> cases answer <;> rfl

theorem Effect.hands (effect : Effect settings run next) (ok : LeasesOk run) : Hands run next := by
  cases effect with
  | call absent =>
    refine hands_of_kept ok (le_refl _) fun other phase lease listed leased => ?_
    rcases callers_update listed with ⟨_, rfl⟩ | ⟨_, before⟩
    · contradiction
    · exact ⟨phase, before, leased⟩
  | read listed asking =>
    refine hands_setPhase ok (le_refl _) listed rfl fun lease leased => ?_
    rw [answerPhase_lease asking] at leased
    contradiction
  | move drawn listed goes =>
    exact hands_setPhase ok (Nat.le_add_right _ _) listed rfl goes.lease
  | lease lost listed creating gives =>
    rename_i number phase store
    have gave {lease : Nat} (leased' : (leased run.drawn lost : Phase δ).lease = some lease) :
        lease = run.drawn := by
      cases lost with
      | none => exact (Option.some.inj leased').symm
      | some message => contradiction
    refine ⟨Nat.le_add_right _ _, fun other phase' lease listed' leased' => ?_, ?_⟩
    · rcases callers_update listed' with ⟨_, rfl⟩ | ⟨_, before⟩
      · exact Or.inr ⟨gave leased', Nat.lt_succ_self _⟩
      · exact Or.inl ⟨phase', before, leased'⟩
    · have only {other : Nat} {phase' : Phase δ}
          (listed' : Function.update run.callers number (some (leased run.drawn lost)) other =
            some phase') (leased' : phase'.lease = some run.drawn) : other = number := by
        rcases callers_update listed' with ⟨same, _⟩ | ⟨_, before⟩
        · exact same
        · exact absurd (ok.drawn other phase' _ before leased') (Nat.lt_irrefl _)
      intro number phase other phase' listed leased listed' leased'
      rw [only listed leased, only listed' leased']
  | commit listed stored held ends =>
    refine hands_setPhase ok (Nat.le_add_right _ _) listed rfl fun lease leased => ?_
    rcases ends with rfl | goes
    · contradiction
    · exact goes.lease lease leased
  | fail thrown listed stored held =>
    exact hands_setPhase ok (le_refl _) listed rfl fun lease leased => nomatch leased
  | archive stored => exact hands_of_kept ok (le_refl _) fun _ phase _ listed leased =>
    ⟨phase, listed, leased⟩
  | remove messageId => exact hands_of_kept ok (le_refl _) fun _ phase _ listed leased =>
    ⟨phase, listed, leased⟩

theorem owner_of_request {store : Store δ} {request : MessageRequest}
    (stored : store.request = some request) : store.owner = request.leaseOwnerId := by
  rw [Store.owner, stored, Option.bind_some]

theorem moves_of_owner (same : next.store.owner = run.store.owner) (more : run.drawn ≤ next.drawn) :
    run.fence.Moves next.fence := by
  have kept : run.fence.Moves ⟨run.fence.owner, next.drawn⟩ := Fence.Moves.keep more
  rw [CreationRun.fence, ← same] at kept
  rwa [CreationRun.fence, ← same]

theorem Effect.fence (effect : Effect settings run next) : run.fence.Moves next.fence := by
  cases effect with
  | call absent | read listed asking => exact moves_of_owner rfl (le_refl _)
  | move drawn listed goes => exact moves_of_owner rfl (Nat.le_add_right _ _)
  | lease lost listed creating gives =>
    obtain ⟨request, rfl, _, owner, _⟩ := gives.given
    have moved : run.fence.Moves ⟨some run.drawn, run.drawn + 1⟩ :=
      Fence.Moves.replace (le_refl _) (Nat.lt_succ_self _)
    rw [← owner] at moved
    exact moved
  | commit listed stored held ends =>
    refine moves_of_owner ?_ (Nat.le_add_right _ _)
    rw [owner_of_request stored]
    rfl
  | fail thrown listed stored held =>
    refine moves_of_owner ?_ (le_refl _)
    rw [owner_of_request stored]
    rfl
  | archive stored | remove messageId => exact moves_of_owner rfl (le_refl _)

theorem expires_effect (ok : LeasesOk run) (effect : Effect settings run next) :
    ∀ request, next.store.request = some request → request.state = .pending →
      request.leaseExpiresAt.isSome = true := by
  cases effect with
  | call absent | read listed asking | move drawn listed goes => exact ok.expires
  | lease lost listed creating gives =>
    obtain ⟨request, rfl, _, _, expires⟩ := gives.given
    intro request' stored _
    rwa [← Option.some.inj stored]
  | commit listed stored held ends | fail thrown listed stored held =>
    intro request stored' pending
    rw [← Option.some.inj stored'] at pending
    contradiction
  | archive stored | remove messageId => exact ok.expires

theorem leasesOk_effect (ok : LeasesOk run) (effect : Effect settings run next) :
    LeasesOk next := by
  have hands := effect.hands ok
  refine ⟨fun number phase lease listed leased => ?_, effect.fence.owner_lt ok.owner,
    fun number phase other phase' lease listed leased listed' leased' => ?_,
    expires_effect ok effect⟩
  · rcases hands.origin number phase lease listed leased with ⟨before, had, held⟩ | ⟨rfl, more⟩
    · exact Nat.lt_of_lt_of_le (ok.drawn number before lease had held) hands.drawn
    · exact more
  · rcases hands.origin number phase lease listed leased with ⟨before, had, held⟩ | ⟨rfl, _⟩
    · rcases hands.origin other phase' lease listed' leased' with
        ⟨before', had', held'⟩ | ⟨rfl, _⟩
      · exact ok.apart number before other before' lease had held had' held'
      · exact absurd (ok.drawn number before _ had held) (Nat.lt_irrefl _)
    · exact hands.single number phase other phase' listed leased listed' leased'

/-- A call that acts under a lease goes on under it, or has ended. -/
def CreationRun.Follows (run : CreationRun δ) (number lease : Nat) : Prop :=
  ∃ phase, run.callers number = some phase ∧ (phase.lease = some lease ∨ phase.ended = true)

theorem follows_setPhase {mover : Nat} {phase after : Phase δ}
    (follows : run.Follows number lease) (listed : run.callers mover = some phase)
    (callers : next.callers = Function.update run.callers mover (some after))
    (going : phase.ended = false)
    (kept : phase.lease = some lease → after.lease = some lease ∨ after.ended = true) :
    next.Follows number lease := by
  obtain ⟨before, had, follows⟩ := follows
  rw [CreationRun.Follows, callers]
  by_cases same : number = mover
  · rw [same, Function.update_self]
    rw [same, listed] at had
    obtain rfl := Option.some.inj had
    refine ⟨after, rfl, ?_⟩
    rcases follows with leased | ended
    · exact kept leased
    · rw [going] at ended
      contradiction
  · rw [Function.update_of_ne same]
    exact ⟨before, had, follows⟩

theorem ended_of_asking {read : ReplayRead δ} {reads : ReplayRead δ → Phase δ}
    {unfinished : Phase δ} (asking : Asking phase read reads unfinished) :
    phase.ended = false ∧ phase.lease = none := by
  cases asking <;> exact ⟨rfl, rfl⟩

theorem Effect.follows (effect : Effect settings run next) (follows : run.Follows number lease) :
    next.Follows number lease := by
  cases effect with
  | call absent =>
    rename_i mover
    obtain ⟨before, had, follows⟩ := follows
    have apart : number ≠ mover := by
      rintro rfl
      rw [absent] at had
      contradiction
    exact ⟨before, (Function.update_of_ne apart _ _).trans had, follows⟩
  | read listed asking =>
    obtain ⟨going, unleased⟩ := ended_of_asking asking
    refine follows_setPhase follows listed rfl going fun leased => ?_
    rw [unleased] at leased
    contradiction
  | move drawn listed goes =>
    exact follows_setPhase follows listed rfl goes.going (goes.holds lease)
  | lease lost listed creating gives =>
    refine follows_setPhase follows listed rfl creating.2 fun leased => ?_
    rw [creating.1] at leased
    contradiction
  | commit listed stored held ends =>
    refine follows_setPhase follows listed rfl rfl fun leased => ?_
    rcases ends with rfl | goes
    · exact Or.inr rfl
    · exact goes.holds lease leased
  | fail thrown listed stored held =>
    exact follows_setPhase follows listed rfl rfl fun _ => Or.inr rfl
  | archive stored | remove messageId => exact follows

theorem callStep_of_ended {number : Nat} (ended : phase.ended = true) (step : CallStep δ) :
    callStep settings run number phase step = none := by
  cases phase with
  | returned messages | threw error => cases step <;> rfl
  | _ => contradiction

/-- A call whose lease is not the owner's writes nothing. -/
theorem callStep_of_replaced {step : CallStep δ} (leased : phase.lease = some lease)
    (replaced : run.store.owner ≠ some lease)
    (taken : callStep settings run number phase step = some next) :
    next.store = run.store ∧ next.batches = run.batches := by
  have unheld {request : MessageRequest} (stored : run.store.request = some request) :
      request.heldBy lease ≠ true := by
    intro held
    rw [owner_of_request stored] at replaced
    exact replaced (heldBy_iff.mp held).2
  cases phase with
  | preparing lease' =>
    cases step with
    | prepare outcome =>
      rw [← Option.some.inj taken]
      cases outcome <;> exact ⟨rfl, rfl⟩
    | _ => contradiction
  | committing lease' docs =>
    cases step with
    | commit outcome compensation =>
      obtain rfl := Option.some.inj leased
      rw [← Option.some.inj taken]
      unfold commit
      rcases persistPreparedBatch_cases run.store settings.clientRequestId
        settings.duplicateKey run.drawn lease' docs with
        ⟨request, stored, held, _⟩ | ⟨error, _, persisted⟩
      · exact absurd held (unheld stored)
      · rw [persisted]
        cases outcome <;> exact ⟨rfl, rfl⟩
    | _ => contradiction
  | failing lease' message =>
    obtain rfl := Option.some.inj leased
    cases step with
    | markFailed lost =>
      rw [← Option.some.inj taken, markFailed, failClientRequestReservation]
      cases stored : run.store.request with
      | none => exact ⟨rfl, rfl⟩
      | some request =>
        dsimp only
        rw [if_neg (unheld stored)]
        exact ⟨rfl, rfl⟩
    | databaseFails message =>
      rw [← Option.some.inj taken]
      exact ⟨rfl, rfl⟩
    | _ => contradiction
  | _ => contradiction

end Leases

section Runs

variable {δ : Type} {settings : CreationSettings} {run next later : CreationRun δ}

structure Inv (run : CreationRun δ) : Prop where
  store : StoreOk run
  phases : PhasesOk run
  leases : LeasesOk run

theorem Inv.start : Inv (CreationRun.start δ) where
  store :=
    { opened := fun _ => ⟨rfl, rfl, fun _ stored => nomatch stored⟩
      closed := fun _ listed => absurd listed List.not_mem_nil }
  phases := fun _ _ listed => nomatch listed
  leases :=
    { drawn := fun _ _ _ listed _ => nomatch listed
      owner := fun _ owner => nomatch owner
      apart := fun _ _ _ _ _ listed _ _ _ => nomatch listed
      expires := fun _ stored _ => nomatch stored }

variable {event : CreationEvent δ}

theorem Inv.step (inv : Inv run) (taken : creationStep settings run event = some next) :
    Inv next := by
  have effect := effect_of_step taken
  exact ⟨storeOk_effect inv.store effect, phasesOk_effect inv.store inv.phases effect,
    leasesOk_effect inv.leases effect⟩

theorem Inv.of_reachable (reached : (creationRuns δ settings).Reachable run) : Inv run :=
  reached.invariant Inv.start fun _ _ _ inv taken => inv.step taken

/-- Whatever calls of one scope run, wherever they stop, and while its messages are archived and
deleted: at most one batch is committed, with one message for each item; the collections hold
messages of it only; and every call that returns has the whole batch in the order of its items. -/
theorem created_once (reached : (creationRuns δ settings).Reachable run) :
    run.batches.length ≤ 1 ∧
      (∀ batch ∈ run.batches,
        batch.messages.map ScopedMessage.clientRequestItemIndex =
            List.range batch.messages.length ∧
          (batch.messages.map ScopedMessage.id).Nodup) ∧
      (∀ message ∈ run.store.active ++ run.store.archive,
        ∃ batch ∈ run.batches, message ∈ batch.messages) ∧
      (∀ number messages, run.callers number = some (.returned messages) →
        ∃ batch ∈ run.batches, messages = batch.messages) ∧
      ∀ number messages other messages', run.callers number = some (.returned messages) →
        run.callers other = some (.returned messages') → messages = messages' := by
  have inv := Inv.of_reachable reached
  have returned : ∀ number messages, run.callers number = some (.returned messages) →
      ∃ batch ∈ run.batches, messages = batch.messages :=
    fun number messages listed => inv.phases number _ listed
  refine ⟨?_, fun batch listed => ?_, past_of_stored inv.store fun _ member => member, returned,
    fun number messages other messages' listed listed' => ?_⟩
  · by_cases opened : run.batches = []
    · rw [opened]
      exact Nat.zero_le 1
    · obtain ⟨batch, listed⟩ := List.exists_mem_of_ne_nil _ opened
      rw [(inv.store.closed batch listed).only]
      exact le_refl 1
  · have numbered := (inv.store.closed batch listed).numbered
    exact ⟨numbered.indexes, numbered.ids⟩
  · obtain ⟨batch, member, rfl⟩ := returned number messages listed
    obtain ⟨batch', member', rfl⟩ := returned other messages' listed'
    rw [(inv.store.closed batch member).only, List.mem_singleton] at member'
    rw [member']

/-- A call loses its lease to a second one, and a third reads the batch of that one while a
message of it is archived. -/
def takeover : Option (CreationRun String) :=
  (creationRuns String ⟨"r", 10, 5, "E11000"⟩).run
    [.call 0, .step 0 .read, .step 0 .read, .step 0 .read, .step 0 (.start 0),
      .step 0 (.create 0 none), .call 1, .step 1 .read, .step 1 (.start 1),
      .step 1 (.create 1 none), .step 1 (.takeOver 20 20 none),
      .step 1 (.prepare (.items ["x", "y"])), .step 1 (.commit .answers none),
      .step 0 (.prepare (.items ["z"])), .step 0 (.commit .answers none),
      .step 0 (.markFailed none), .call 2, .step 2 .read, .step 2 .read, .archive 3, .step 2 .read]

def takenOver : CreationRun String :=
  takeover.get rfl

theorem takenOver_reached :
    (creationRuns String ⟨"r", 10, 5, "E11000"⟩).Reachable takenOver :=
  TransitionSystem.Reachable.of_run (Option.some_get rfl).symm

theorem created_once_takenOver :
    takenOver.callers 2 = some (.returned [⟨3, 0, "x"⟩, ⟨4, 1, "y"⟩]) ∧
      ∀ number messages other messages', takenOver.callers number = some (.returned messages) →
        takenOver.callers other = some (.returned messages') → messages = messages' :=
  ⟨rfl, (created_once takenOver_reached).2.2.2.2⟩

/-- No call finds the collections inconsistent while no message is deleted, whatever it reads
between the steps of the others. -/
theorem never_inconsistent (reached : (creationRuns δ settings).Reachable run)
    (kept : run.removed = 0) {number : Nat} {error : CreationError}
    (threw : run.callers number = some (.threw error)) (clientRequestId message : String) :
    error ≠ .inconsistentState clientRequestId message := by
  rintro rfl
  exact (Inv.of_reachable reached).phases number _ threw kept trivial

theorem never_inconsistent_takenOver :
    CreationError.thrown "E11000" ≠ .inconsistentState "r" "messages exist without a reservation" :=
  never_inconsistent takenOver_reached rfl (show takenOver.callers 0 = _ from rfl) _ _

theorem batches_step (taken : creationStep settings run event = some next)
    (grown : next.batches ≠ run.batches) :
    ∃ number lease docs request, run.callers number = some (.committing lease docs) ∧
      run.store.request = some request ∧ request.heldBy lease = true ∧
      next.store.request = some (request.completed docs.length) ∧
      next.batches = run.batches ++ [⟨lease, createdMessages run.drawn docs⟩] := by
  cases effect_of_step taken with
  | commit listed stored held ends => exact ⟨_, _, _, _, listed, stored, held, rfl, rfl⟩
  | call absent | read listed asking | move drawn listed goes => exact absurd rfl grown
  | lease lost listed creating gives => exact absurd rfl grown
  | fail thrown listed stored held | archive stored | remove messageId => exact absurd rfl grown

/-- A batch is committed by the one call with the current lease, together with the completion of
the reservation. -/
theorem committed_by_owner (reached : (creationRuns δ settings).Reachable run)
    {event : CreationEvent δ} (taken : creationStep settings run event = some next)
    (grown : next.batches ≠ run.batches) :
    ∃ number lease docs request, run.callers number = some (.committing lease docs) ∧
      run.store.request = some request ∧ request.state = .pending ∧
      request.leaseOwnerId = some lease ∧
      (∀ other phase, run.callers other = some phase → phase.lease = some lease → other = number) ∧
      next.store.request = some (request.completed docs.length) ∧
      next.batches = [⟨lease, createdMessages run.drawn docs⟩] := by
  have inv := Inv.of_reachable reached
  obtain ⟨number, lease, docs, request, listed, stored, held, completed, batches⟩ :=
    batches_step taken grown
  obtain ⟨pending, owner⟩ := heldBy_iff.mp held
  refine ⟨number, lease, docs, request, listed, stored, pending, owner, ?_, completed, ?_⟩
  · exact fun other phase listed' leased =>
      inv.leases.apart other phase number _ lease listed' leased listed rfl
  · rw [batches, inv.store.uncommitted_of_held stored held, List.nil_append]

/-- The second call before it commits. -/
def preparedRun : Option (CreationRun String) :=
  (creationRuns String ⟨"r", 10, 5, "E11000"⟩).run
    [.call 0, .step 0 .read, .step 0 .read, .step 0 .read, .step 0 (.start 0),
      .step 0 (.create 0 none), .call 1, .step 1 .read, .step 1 (.start 1),
      .step 1 (.create 1 none), .step 1 (.takeOver 20 20 none),
      .step 1 (.prepare (.items ["x", "y"]))]

def prepared : CreationRun String :=
  preparedRun.get rfl

theorem prepared_reached : (creationRuns String ⟨"r", 10, 5, "E11000"⟩).Reachable prepared :=
  TransitionSystem.Reachable.of_run (Option.some_get rfl).symm

def committed : CreationRun String :=
  (creationStep ⟨"r", 10, 5, "E11000"⟩ prepared (.step 1 (.commit .answers none))).get rfl

theorem committed_by_owner_prepared :
    ∃ number lease docs request, prepared.callers number = some (.committing lease docs) ∧
      prepared.store.request = some request ∧ request.state = .pending ∧
      request.leaseOwnerId = some lease ∧
      (∀ other phase, prepared.callers other = some phase → phase.lease = some lease →
        other = number) ∧
      committed.store.request = some (request.completed docs.length) ∧
      committed.batches = [⟨lease, createdMessages prepared.drawn docs⟩] :=
  committed_by_owner prepared_reached (Option.some_get rfl).symm (List.cons_ne_nil _ _)

theorem settled_step {request : MessageRequest} (stored : run.store.request = some request)
    (settled : request.state ≠ .pending) (taken : creationStep settings run event = some next) :
    next.store.request = some request ∧ next.batches = run.batches := by
  have unheld {request' : MessageRequest} {lease : Nat}
      (stored' : run.store.request = some request') : request'.heldBy lease ≠ true := by
    intro held
    rw [stored] at stored'
    exact settled (Option.some.inj stored' ▸ (heldBy_iff.mp held).1)
  cases effect_of_step taken with
  | call absent | read listed asking | move drawn listed goes => exact ⟨stored, rfl⟩
  | lease lost listed creating gives => exact absurd (gives.open' request stored) settled
  | commit listed stored' held ends => exact absurd held (unheld stored')
  | fail thrown listed stored' held => exact absurd held (unheld stored')
  | archive listed | remove messageId => exact ⟨stored, rfl⟩

/-- A reservation that is completed or failed stays as it is, and nothing is committed after. -/
theorem settled_for_good {events : List (CreationEvent δ)} {request : MessageRequest}
    (stored : run.store.request = some request) (settled : request.state ≠ .pending)
    (ran : events.foldlM (creationStep settings) run = some later) :
    later.store.request = some request ∧ later.batches = run.batches := by
  induction events generalizing run with
  | nil =>
    rw [← Option.some.inj ran]
    exact ⟨stored, rfl⟩
  | cons event events ih =>
    rw [List.foldlM_cons] at ran
    obtain ⟨middle, taken, rest⟩ := Option.bind_eq_some_iff.mp ran
    obtain ⟨stored', same⟩ := settled_step stored settled taken
    obtain ⟨last, kept⟩ := ih stored' rest
    exact ⟨last, kept.trans same⟩

theorem settled_for_good_committed : takenOver.batches = committed.batches := by
  have ran : [.step 0 (.prepare (.items ["z"])), .step 0 (.commit .answers none),
      .step 0 (.markFailed none), .call 2, .step 2 .read, .step 2 .read, .archive 3,
      .step 2 .read].foldlM (creationStep ⟨"r", 10, 5, "E11000"⟩) committed = some takenOver := rfl
  have stored : committed.store.request = some _ := rfl
  exact (settled_for_good stored (by decide) ran).2

/-- Once a lease was taken over, it never is the owner's again, and no step of its call changes
the collections, in any later run. -/
theorem replaced_lease_fenced (reached : (creationRuns δ settings).Reachable run)
    {number lease : Nat} {phase : Phase δ} (listed : run.callers number = some phase)
    (leased : phase.lease = some lease) (replaced : run.store.owner ≠ some lease)
    {events : List (CreationEvent δ)}
    (ran : events.foldlM (creationStep settings) run = some later) :
    later.store.owner ≠ some lease ∧
      ∀ step after, creationStep settings later (.step number step) = some after →
        after.store = later.store ∧ after.batches = later.batches := by
  have inv := Inv.of_reachable reached
  obtain ⟨⟨phase', listed', follows⟩, replaced'⟩ :=
    Fence.Replaced.run CreationRun.fence
      (fun _ _ _ follows taken =>
        ⟨(effect_of_step taken).follows follows, (effect_of_step taken).fence⟩)
      (⟨phase, listed, Or.inl leased⟩ : run.Follows number lease)
      ⟨inv.leases.drawn number phase lease listed leased, replaced⟩ ran
  refine ⟨replaced'.2, fun step after taken => ?_⟩
  simp only [creationStep, listed'] at taken
  rcases follows with leased' | ended
  · exact callStep_of_replaced leased' replaced'.2 taken
  · rw [callStep_of_ended ended] at taken
    contradiction

theorem replaced_lease_fenced_prepared :
    prepared.store.owner = some 2 ∧ committed.store.owner ≠ some 0 := by
  refine ⟨rfl, ?_⟩
  have ran : [CreationEvent.step 1 (.commit .answers none)].foldlM
      (creationStep ⟨"r", 10, 5, "E11000"⟩) prepared = some committed := rfl
  have leased : (Phase.preparing 0 : Phase String).lease = some 0 := rfl
  have listed : prepared.callers 0 = some (.preparing 0) := rfl
  exact (replaced_lease_fenced prepared_reached listed leased (by decide) ran).1

end Runs

end WebTsToolkit.MessageService.Creation
