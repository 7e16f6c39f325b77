import WebTsToolkit.AccessRouter.PublicationSteps

set_option autoImplicit false

namespace WebTsToolkit.AccessRouter

open Js Library

namespace Publication

variable {calls : Calls} {state next : Publication} {callbacks : List Activation} {phase : Phase}

/-- The order of the callbacks does not matter. -/
theorem Agrees.perm (agrees : state.Agrees callbacks) {others : List Activation}
    (same : others.Perm callbacks) : state.Agrees others :=
  Coherent.callbacks agrees (fun _ member => same.mem_iff.mp member)
    ((same.filterMap Activation.subject).nodup_iff.mpr agrees.distinct)

variable {activation : Activation} {boundary : Boundary}

/-- A promise is awaited now. -/
theorem Agrees.await (agrees : state.Agrees (activation :: state.inProgress)) :
    state.Agrees (state.running ++ (state.awaiting ++ [activation])) := by
  apply agrees.perm
  rw [← List.append_assoc]
  exact List.perm_append_singleton activation (state.running ++ state.awaiting)

theorem Agrees.settled (calls : Calls) (agrees : state.Agrees (activation :: state.inProgress))
    (outcome : Except Failure Value) (refused : Option Failure) :
    (state.settled calls activation outcome refused).Agrees
      (state.settled calls activation outcome refused).inProgress := by
  cases activation with
  | hydrating request => exact agrees.pop
  | resolving number generation =>
    show (state.settleResolution calls number generation outcome refused).Agrees
      (state.settleResolution calls number generation outcome refused).inProgress
    rw [inProgress_settleResolution]
    exact agrees.settleResolution outcome refused
  | deciding number binding key generation =>
    show (state.settleDecision calls number binding key generation outcome).Agrees
      (state.settleDecision calls number binding key generation outcome).inProgress
    rw [inProgress_settleDecision]
    exact agrees.settleDecision outcome

theorem Agrees.answered (agrees : state.Agrees (activation :: state.inProgress)) (answer : Answer)
    (refused : Option Failure) :
    (state.answered calls activation answer refused).Agrees
      (state.answered calls activation answer refused).inProgress := by
  cases answer with
  | returned value =>
    cases activation with
    | hydrating request => exact agrees.pop
    | resolving number generation | deciding number binding key generation =>
      exact Agrees.settled calls agrees (.ok value) refused
  | threw failure =>
    cases activation with
    | hydrating request => exact agrees.pop
    | resolving number generation | deciding number binding key generation =>
      exact Agrees.settled calls agrees (.error failure) refused
  | promised =>
    cases activation with
    | hydrating request => exact agrees.pop
    | resolving number generation => exact agrees.await
    | deciding number binding key generation =>
      exact Agrees.await agrees.promised

theorem respects_settled (calls : Calls) (activation : Activation) (outcome : Except Failure Value)
    (refused : Option Failure) :
    Respects phase state (state.settled calls activation outcome refused) := by
  cases activation with
  | hydrating request => exact .refl
  | resolving number generation => exact respects_settleResolution number generation outcome refused
  | deciding number binding key generation =>
    exact respects_settleDecision number binding key generation outcome

theorem respects_answered (calls : Calls) (activation : Activation) (answer : Answer)
    (refused : Option Failure) :
    Respects .retaining state (state.answered calls activation answer refused) := by
  cases answer with
  | returned value =>
    have settled_ : Respects .retaining state _ := respects_settled calls activation
      (.ok value) refused
    cases activation with
    | hydrating request => exact .refl
    | resolving number generation | deciding number binding key generation => exact settled_
  | threw failure =>
    have settled_ : Respects .retaining state _ := respects_settled calls activation
      (.error failure) refused
    cases activation with
    | hydrating request => exact .refl
    | resolving number generation | deciding number binding key generation => exact settled_
  | promised =>
    cases activation with
    | hydrating request => exact .refl
    | resolving number generation => exact Respects.refl.call _ _ _ _
    | deciding number binding key generation =>
      exact ((Respects.refl.modifyContents number _).track _).call _ _ _ _

theorem Agrees.beginClose (agrees : state.Agrees callbacks) (error : Option Failure)
    (boundary : Boundary) : (state.beginClose error boundary).Agrees callbacks := by
  unfold Publication.beginClose
  apply Agrees.closeStages
  cases error with
  | none => exact agrees
  | some failure => exact agrees.fail (some failure)

theorem inProgress_beginClose (error : Option Failure) (boundary : Boundary) :
    (state.beginClose error boundary).inProgress = state.inProgress := by
  unfold Publication.beginClose
  cases error with
  | none => rfl
  | some failure => exact inProgress_fail (some failure)

theorem Agrees.release (agrees : state.Agrees callbacks) : state.release.Agrees callbacks := by
  apply (agrees.closeStages state.owner.failure true).note
  · intro fact member
    obtain ⟨resource, _, same⟩ := List.mem_map.mp member
    rw [← same]
    rfl
  · intro fact member
    obtain ⟨resource, _, same⟩ := List.mem_map.mp member
    rw [← same]
    rfl

/-- A close that begins before the release. -/
theorem OwnerOk.beginClose (ok : OwnerOk .retaining state) (error : Option Failure)
    (closing : boundary = .closing ∨ boundary = .closingAgain) :
    OwnerOk .retaining (state.beginClose error boundary) := by
  have closes {failed : Publication} (ok : OwnerOk .retaining failed) :
      OwnerOk .retaining
        { failed with owner := { failed.owner with closed := true }, boundary } := by
    have standing : Retaining failed := ok.standing
    refine ⟨fun _ => rfl, ok.tracked, standing.stages, standing.resources, standing.unreleased,
      ?_, fun _ _ => rfl⟩
    rcases closing with same | same
    · rw [same]
      exact ⟨Boundary.noConfusion, Boundary.noConfusion⟩
    · rw [same]
      exact ⟨Boundary.noConfusion, Boundary.noConfusion⟩
  unfold Publication.beginClose
  apply OwnerOk.closeStages
  cases error with
  | none => exact closes ok
  | some failure => exact closes (ok.fail (some failure))

theorem Effect.beginClose (effect : Effect state next) (error : Option Failure)
    (boundary : Boundary) : Effect state (next.beginClose error boundary) := by
  unfold Publication.beginClose
  cases error with
  | none => exact effect.silent ⟨fun _ => rfl, fun _ same => same⟩ rfl
  | some failure =>
    exact (effect.fail (some failure)).silent ⟨fun _ => rfl, fun _ same => same⟩ rfl

theorem outstanding_released (resources : List Nat) (works : List TrackedWork) :
    (resources.map PublicationFact.released).foldl outstandingStep works = works := by
  induction resources generalizing works with
  | nil => rfl
  | cons resource resources ih => exact ih works

theorem resource_released (resources : List Nat) :
    (resources.map PublicationFact.released).filterMap PublicationFact.resource = resources := by
  induction resources with
  | nil => rfl
  | cons resource resources ih =>
    show resource :: (resources.map PublicationFact.released).filterMap
      PublicationFact.resource = resource :: resources
    rw [ih]

/-- Each stage that the owner retains is cleared. -/
theorem cleared_closeStages {error : Option Failure}
    (all : ∀ number < state.stages.length, number ∈ state.owner.stages) :
    Cleared (state.closeStages error true).stages := by
  intro record member
  obtain ⟨number, listed⟩ := List.mem_iff_getElem?.mp member
  unfold Publication.closeStages at listed
  dsimp only at listed
  rw [List.getElem?_mapIdx] at listed
  obtain ⟨before, there, same⟩ := Option.map_eq_some_iff.mp listed
  have inside := (List.getElem?_eq_some_iff.mp there).1
  rw [← same, if_pos (all number inside)]
  rfl

/-- After the release nothing is left. -/
theorem OwnerOk.release (ok : OwnerOk phase state) (drained : state.owner.pending = [])
    (idle : state.running = []) (closed : state.owner.closed = true) :
    Released state.release ∧ state.release.owner.pending = outstanding state.release.facts where
  left := {
    closed := closed
    stages := rfl
    resources := rfl
    drained := drained
    idle := idle
    cleared := by
      cases phase with
      | retaining =>
        have standing : Retaining state := ok.standing
        apply cleared_closeStages
        intro number inside
        rw [standing.stages]
        exact List.mem_range.mpr inside
      | released =>
        have standing : Settled (state.closeStages state.owner.failure true) :=
          (ok.closeStages state.owner.failure true).standing
        exact standing.cleared
    each := by
      show (state.facts ++ state.owner.resources.map PublicationFact.released).filterMap
        PublicationFact.resource = List.range state.resourcesMade
      rw [List.filterMap_append, resource_released]
      cases phase with
      | retaining =>
        have standing : Retaining state := ok.standing
        rw [standing.unreleased, standing.resources]
        rfl
      | released =>
        have standing : Settled state := ok.standing
        rw [standing.resources, List.append_nil]
        exact standing.each }
  right := by
    show state.owner.pending =
      outstanding (state.facts ++ state.owner.resources.map PublicationFact.released)
    rw [outstanding_append, outstanding_released]
    exact ok.tracked

theorem Effect.release (effect : Effect state next) : Effect state next.release := by
  refine Effect.also effect (.same rfl rfl) rfl ?_
  intro fact member
  obtain ⟨resource, _, same⟩ := List.mem_map.mp member
  rw [← same]
  exact trivial

/-- What holds of every state. -/
structure Sound (state : Publication) : Prop where
  agrees : state.Agrees state.inProgress
  owner : ∃ phase, OwnerOk phase state

theorem Sound.of_respects (sound : Sound state) (agrees : next.Agrees next.inProgress)
    (respects : ∀ phase, Respects phase state next) : Sound next := by
  obtain ⟨phase, ok⟩ := sound.owner
  exact ⟨agrees, phase, (respects phase).ok ok⟩

/-- The boundary of a state whose close is over. -/
theorem ownerOk_released (released : Released state)
    (tracked : state.owner.pending = outstanding state.facts)
    (closed : boundary = .closingAgain ∨ boundary = .published ∨ boundary = .failed)
    (published : boundary = .published → state.owner.failure = none) :
    OwnerOk .released { state with boundary } where
  poisoned := fun _ => released.closed
  tracked := tracked
  standing := {
    closed := released.closed
    stages := released.stages
    resources := released.resources
    drained := released.drained
    idle := released.idle
    cleared := released.cleared
    each := released.each
    boundary := closed
    published := published }

/-- The close of a `catch` after the release. -/
theorem ownerOk_closingAgain (released : Released state)
    (tracked : state.owner.pending = outstanding state.facts) (failure : Failure) :
    OwnerOk .released (state.beginClose (some failure) .closingAgain) := by
  unfold Publication.beginClose
  dsimp only
  rw [released.fail_eq]
  apply OwnerOk.closeStages
  have closed : ({ state.owner with closed := true } : PublicationRecord) = state.owner := by
    have same := released.closed
    cases owner : state.owner with
    | mk closed failure pending stages resources =>
      rw [owner] at same
      rw [show closed = true from same]
  rw [closed]
  apply ownerOk_released released tracked (Or.inl rfl)
  intro same
  contradiction

theorem sound_beginClose {phase : Phase} (agrees : state.Agrees state.inProgress)
    (ok : OwnerOk phase state) (before : phase = .retaining) (error : Option Failure)
    (closing : boundary = .closing ∨ boundary = .closingAgain) :
    Sound (state.beginClose error boundary) ∧ Effect state (state.beginClose error boundary) := by
  subst before
  refine ⟨⟨?_, .retaining, ok.beginClose error closing⟩, Effect.refl.beginClose error boundary⟩
  rw [inProgress_beginClose]
  exact agrees.beginClose error boundary

/-- An owner whose boundary has not begun to close it releases nothing. -/
theorem OwnerOk.before (ok : OwnerOk phase state)
    (boundary : state.boundary = .idle ∨ state.boundary = .running) : phase = .retaining := by
  cases phase with
  | retaining => rfl
  | released =>
    have standing : Settled state := ok.standing
    rcases standing.boundary with same | same | same
    · rw [same] at boundary
      rcases boundary with other | other
      · contradiction
      · contradiction
    · rw [same] at boundary
      rcases boundary with other | other
      · contradiction
      · contradiction
    · rw [same] at boundary
      rcases boundary with other | other
      · contradiction
      · contradiction

theorem OwnerOk.pending (ok : OwnerOk phase state) {work : TrackedWork}
    (member : work ∈ state.owner.pending) : phase = .retaining := by
  cases phase with
  | retaining => rfl
  | released =>
    have standing : Settled state := ok.standing
    rw [standing.drained] at member
    exact absurd member List.not_mem_nil

theorem OwnerOk.closedBy (ok : OwnerOk phase state)
    (boundary : state.boundary = .closing ∨ state.boundary = .closingAgain) :
    state.owner.closed = true := by
  cases phase with
  | retaining =>
    have standing : Retaining state := ok.standing
    rcases boundary with same | same
    · apply standing.closing
      · rw [same]
        exact Boundary.noConfusion
      · rw [same]
        exact Boundary.noConfusion
    · apply standing.closing
      · rw [same]
        exact Boundary.noConfusion
      · rw [same]
        exact Boundary.noConfusion
  | released =>
    have standing : Settled state := ok.standing
    exact standing.closed

theorem Respects.untrack (respects : Respects .retaining state next) (work : TrackedWork) :
    Respects .retaining state (next.untrack work) where
  ok := fun ok => (respects.ok ok).untrack work
  effect := by
    refine Effect.also respects.effect (.same rfl rfl) rfl ?_
    exact List.forall_mem_singleton.mpr trivial

/-- The operation is called. -/
theorem sound_run (sound : Sound state) (idle : state.boundary = .idle) :
    Sound { state with boundary := .running } ∧ Effect state { state with boundary := .running } := by
  obtain ⟨phase, ok⟩ := sound.owner
  have before := ok.before (Or.inl idle)
  subst before
  have standing : Retaining state := ok.standing
  refine ⟨⟨sound.agrees, .retaining, ok.poisoned, ok.tracked, standing.stages, standing.resources,
    standing.unreleased, ⟨Boundary.noConfusion, Boundary.noConfusion⟩, ?_⟩,
    Effect.refl.silent .refl rfl⟩
  intro _ other
  exact absurd rfl other

theorem sound_drain (sound : Sound state) (idle : state.running = [])
    (taken : state.turn calls .drain = some next) : Sound next ∧ Effect state next := by
  obtain ⟨phase, ok⟩ := sound.owner
  unfold turn at taken
  dsimp only at taken
  split at taken
  · contradiction
  · next drained =>
    have nothing : state.owner.pending = [] := Decidable.not_not.mp drained
    split at taken
    · next closing =>
      obtain ⟨released, tracked⟩ := ok.release nothing idle (ok.closedBy (Or.inl closing))
      split at taken
      · next unfailed =>
        rw [← Option.some.inj taken]
        refine ⟨⟨sound.agrees.release, .released, ?_⟩, Effect.refl.release.silent .refl rfl⟩
        exact ownerOk_released released tracked (Or.inr (Or.inl rfl)) fun _ => unfailed
      · next failure failed =>
        rw [← Option.some.inj taken]
        refine ⟨⟨?_, .released, ownerOk_closingAgain released tracked failure⟩,
          Effect.refl.release.beginClose _ _⟩
        rw [inProgress_beginClose]
        exact sound.agrees.release.beginClose _ _
    · next closing =>
      obtain ⟨released, tracked⟩ := ok.release nothing idle (ok.closedBy (Or.inr closing))
      rw [← Option.some.inj taken]
      refine ⟨⟨sound.agrees.release, .released, ?_⟩, Effect.refl.release.silent .refl rfl⟩
      apply ownerOk_released released tracked (Or.inr (Or.inr rfl))
      intro same
      contradiction
    · contradiction

theorem sound_settle (sound : Sound state) (idle : state.running = []) {position : Nat}
    {outcome : Except Failure Value} {refused : Option Failure}
    (taken : state.turn calls (.settle position outcome refused) = some next) :
    Sound next ∧ Effect state next := by
  unfold turn at taken
  dsimp only at taken
  split at taken
  · next activation listed =>
    obtain ⟨inside, here⟩ := List.getElem?_eq_some_iff.mp listed
    have others : (activation :: (state.running ++ state.awaiting.eraseIdx position)).Perm
        state.inProgress := by
      unfold inProgress
      rw [idle, ← here]
      exact List.getElem_cons_eraseIdx_perm inside
    have agrees : Agrees { state with awaiting := state.awaiting.eraseIdx position }
        (activation :: (state.running ++ state.awaiting.eraseIdx position)) :=
      sound.agrees.perm others
    obtain ⟨phase, ok⟩ := sound.owner
    have respects : Respects phase { state with awaiting := state.awaiting.eraseIdx position } _ :=
      respects_settled calls activation outcome refused
    rw [← Option.some.inj taken]
    refine ⟨⟨Agrees.settled calls agrees outcome refused, phase, ?_⟩, ?_⟩
    · exact respects.ok (ok.await _)
    · exact respects.effect.congr rfl rfl rfl
  · contradiction

theorem sound_workSettled (sound : Sound state) {work : TrackedWork}
    {library : Except Failure Unit}
    (taken : state.turn calls (.workSettled work library) = some next) :
    Sound next ∧ Effect state next := by
  obtain ⟨phase, ok⟩ := sound.owner
  unfold turn at taken
  dsimp only at taken
  split at taken
  · next member =>
    have before := ok.pending member
    subst before
    obtain ⟨outcome, _, same⟩ := Option.map_eq_some_iff.mp taken
    rw [← same]
    cases outcome with
    | ok _ =>
      have respects : Respects .retaining state (state.untrack work) :=
        Respects.refl.untrack work
      exact ⟨⟨sound.agrees.untrack work, .retaining, respects.ok ok⟩, respects.effect⟩
    | error failure =>
      have respects : Respects .retaining state ((state.fail (some failure)).untrack work) :=
        (Respects.refl.fail (some failure)).untrack work
      refine ⟨⟨?_, .retaining, respects.ok ok⟩, respects.effect⟩
      have kept : ((state.fail (some failure)).untrack work).inProgress = state.inProgress :=
        inProgress_fail (some failure)
      show ((state.fail (some failure)).untrack work).Agrees
        ((state.fail (some failure)).untrack work).inProgress
      rw [kept]
      exact (sound.agrees.fail (some failure)).untrack work
  · contradiction

theorem sound_finish (sound : Sound state) {outcome : Except (Option Failure) Unit}
    (taken : state.turn calls (.finish outcome) = some next) : Sound next ∧ Effect state next := by
  obtain ⟨phase, ok⟩ := sound.owner
  unfold turn at taken
  dsimp only at taken
  split at taken
  · next running =>
    have before := ok.before (Or.inr running)
    split at taken
    · rw [← Option.some.inj taken]
      exact sound_beginClose sound.agrees ok before none (Or.inl rfl)
    · rw [← Option.some.inj taken]
      exact sound_beginClose sound.agrees ok before _ (Or.inr rfl)
    · rw [← Option.some.inj taken]
      exact sound_beginClose sound.agrees ok before _ (Or.inr rfl)
  · contradiction

theorem sound_turn (sound : Sound state) (idle : state.running = []) {event : PublicationEvent}
    (taken : state.turn calls event = some next) : Sound next ∧ Effect state next := by
  cases event with
  | run =>
    unfold turn at taken
    dsimp only at taken
    split at taken
    · next boundary =>
      split at taken
      · rw [← Option.some.inj taken]
        exact sound_run sound boundary
      · rw [← Option.some.inj taken]
        obtain ⟨phase, ok⟩ := sound.owner
        exact sound_beginClose sound.agrees ok (ok.before (Or.inl boundary)) _ (Or.inr rfl)
    · contradiction
  | settle position outcome refused => exact sound_settle sound idle taken
  | workSettled work library => exact sound_workSettled sound taken
  | finish outcome => exact sound_finish sound taken
  | drain => exact sound_drain sound idle taken
  | bind call | admitStage request | prepared source borrowed fresh refused => contradiction
  | resolveEmpty number binding refused | resolve number copied => contradiction
  | beginOutput number binding | readDecision number binding key => contradiction
  | memoize number binding key refused => contradiction
  | answer answer refused | closeStage number | retain | track | fail error => contradiction

/-- A callback that runs is no longer in progress. -/
theorem sound_pop {running : List Activation} (sound : Sound state)
    (inner : state.running = activation :: running) :
    Agrees { state with running } (activation :: (running ++ state.awaiting)) ∧
      OwnerOk .retaining { state with running } := by
  obtain ⟨phase, ok⟩ := sound.owner
  have agrees := sound.agrees
  unfold inProgress at agrees
  rw [inner] at agrees
  refine ⟨agrees, ?_⟩
  cases phase with
  | retaining => exact ok.call _ _ _ _
  | released =>
    have standing : Settled state := ok.standing
    have idle := standing.idle
    rw [inner] at idle
    contradiction

theorem sound_step (sound : Sound state) {event : PublicationEvent}
    (taken : state.step calls event = some next) : Sound next ∧ Effect state next := by
  unfold step at taken
  split at taken
  · next request running source borrowed fresh refused inner =>
    obtain ⟨agrees, ok⟩ := sound_pop sound inner
    have outer : Agrees { state with running } (running ++ state.awaiting) := agrees.pop
    split at taken
    · rw [← Option.some.inj taken]
      exact ⟨⟨outer, .retaining, ok⟩, Effect.refl.silent .refl rfl⟩
    · next source =>
      have respects : Respects .retaining { state with running } _ :=
        respects_retainStage calls request source borrowed fresh refused
      rw [← Option.some.inj taken]
      refine ⟨⟨?_, .retaining, respects.ok ok⟩, respects.effect.congr rfl rfl rfl⟩
      rw [inProgress_retainStage]
      exact outer.retainStage request source borrowed fresh refused
  · contradiction
  · next activation running answer refused _ inner =>
    obtain ⟨agrees, ok⟩ := sound_pop sound inner
    have respects : Respects .retaining { state with running } _ :=
      respects_answered calls activation answer refused
    rw [← Option.some.inj taken]
    exact ⟨⟨Agrees.answered agrees answer refused, .retaining, respects.ok ok⟩,
      respects.effect.congr rfl rfl rfl⟩
  · next idle =>
    rcases Option.or_eq_some_iff.mp taken with inside | ⟨_, outside⟩
    · obtain ⟨phase, ok⟩ := sound.owner
      exact ⟨sound.of_respects (sound.agrees.api inside) fun phase => respects_api phase inside,
        Respects.effect (respects_api phase inside)⟩
    · exact sound_turn sound idle outside
  · obtain ⟨phase, ok⟩ := sound.owner
    exact ⟨sound.of_respects (sound.agrees.api taken) fun phase => respects_api phase taken,
      Respects.effect (respects_api phase taken)⟩

theorem sound_start : Sound start where
  agrees := {
    each := by
      intro number record contents listed
      rw [start, List.getElem?_nil] at listed
      contradiction
    fresh := fun record member => absurd member List.not_mem_nil
    placed := fun fact member => absurd member List.not_mem_nil
    called := fun callback member => absurd member List.not_mem_nil
    once := List.nodup_nil
    distinct := List.nodup_nil
    answered := fun number key value member => absurd member List.not_mem_nil }
  owner := by
    refine ⟨.retaining, fun failed => absurd failed (by decide), rfl, rfl, rfl, rfl,
      ⟨Boundary.noConfusion, Boundary.noConfusion⟩, ?_⟩
    intro other
    exact absurd rfl other

theorem sound_of_reachable (reached : (publications calls).Reachable state) : Sound state := by
  apply reached.invariant sound_start
  intro before event after sound taken
  have stepped : before.step calls event = some after := taken
  exact (sound_step sound stepped).1

end Publication

end WebTsToolkit.AccessRouter
