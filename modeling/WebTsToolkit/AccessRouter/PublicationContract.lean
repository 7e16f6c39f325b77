import WebTsToolkit.AccessRouter.PublicationSafety

set_option autoImplicit false

namespace WebTsToolkit.AccessRouter

open Js Library

namespace Publication

variable {calls : Calls} {state next : Publication}

/-- Each fact is decided once, and each answer is the decision. -/
structure DecidesOnce (state : Publication) : Prop where
  resolver : ∀ stage, state.facts.count (.resolverStarted stage) ≤ 1
  predicate : ∀ stage key, state.facts.count (.predicateStarted stage key) ≤ 1
  commitment : ∀ stage, state.facts.count (.factsCommitted stage) ≤ 1
  answered : ∀ stage key value, .answered stage key value ∈ state.facts →
    .decided stage key value ∈ state.facts
  decided : ∀ stage key first second, .decided stage key first ∈ state.facts →
    .decided stage key second ∈ state.facts → first = second

/-- No read of the owner's stages succeeds. -/
structure Unreadable (calls : Calls) (state : Publication) : Prop where
  source : ∀ stage binding source, state.documentStageSource calls stage binding ≠ .ok source
  access : ∀ stage binding contents,
    state.readDocumentStageAccess calls stage binding ≠ .ok contents
  grants : ∀ stage binding view, state.readDocumentStage calls stage binding ≠ .ok view

/-- What an owner that failed or closed has come to. -/
structure Stopped (calls : Calls) (state later : Publication) : Prop where
  stopped : later.owner.check ≠ .ok ()
  facts : later.facts.filter (fun fact => fact.stage.isSome) =
    state.facts.filter fun fact => fact.stage.isSome
  unreadable : Unreadable calls later
  failure : ∀ failure, state.owner.failure = some failure →
    later.owner.failure = some failure ∧ later.boundary ≠ .published

/-- A close that is over has waited for all that was tracked, and has left nothing. -/
structure ClosedWell (state : Publication) : Prop where
  drained : state.owner.pending = []
  settled : ∀ before work after, state.facts = before ++ .tracked work :: after →
    .finished work ∈ after
  cleared : ∀ record ∈ state.stages, record.contents = none
  released : ∀ resource, state.facts.count (.released resource) =
    if resource < state.resourcesMade then 1 else 0
  unfailed : state.boundary = .published → state.owner.failure = none

/-- A slot is taken at most once. -/
theorem count_le_one_of_slot {facts : List PublicationFact} {fact : PublicationFact} {slot : Slot}
    (once : (facts.filterMap PublicationFact.slot).Nodup) (slotted : fact.slot = some slot) :
    facts.count fact ≤ 1 := by
  induction facts with
  | nil => exact Nat.zero_le 1
  | cons first facts ih =>
    rw [List.count_cons]
    split
    · next same =>
      have here : first = fact := by simpa using same
      rw [List.filterMap_cons_some (here.symm ▸ slotted), List.nodup_cons] at once
      have none_ : facts.count fact = 0 := by
        apply List.count_eq_zero.mpr
        intro member
        exact once.1 (List.mem_filterMap.mpr ⟨fact, member, slotted⟩)
      omega
    · have later : (facts.filterMap PublicationFact.slot).Nodup :=
        once.sublist ((List.sublist_cons_self first facts).filterMap PublicationFact.slot)
      have rest := ih later
      omega

/-- Two facts of one slot are the same. -/
theorem eq_of_slot {facts : List PublicationFact} {first second : PublicationFact} (slot : Slot)
    (once : (facts.filterMap PublicationFact.slot).Nodup) (slotted : first.slot = some slot)
    (also : second.slot = some slot) (before : first ∈ facts) (after : second ∈ facts) :
    first = second := by
  induction facts with
  | nil => exact absurd before List.not_mem_nil
  | cons fact facts ih =>
    have later : (facts.filterMap PublicationFact.slot).Nodup :=
      once.sublist ((List.sublist_cons_self fact facts).filterMap PublicationFact.slot)
    have alone (isSlot : fact.slot = some slot) {other : PublicationFact}
        (otherSlot : other.slot = some slot) : other ∉ facts := by
      rw [List.filterMap_cons_some isSlot, List.nodup_cons] at once
      intro member
      exact once.1 (List.mem_filterMap.mpr ⟨other, member, otherSlot⟩)
    rcases List.mem_cons.mp before with here | there
    · rcases List.mem_cons.mp after with same | away
      · rw [here, same]
      · exact absurd away (alone (here ▸ slotted) also)
    · rcases List.mem_cons.mp after with same | away
      · exact absurd there (alone (same ▸ also) slotted)
      · exact ih later there away

theorem decidesOnce (sound : Sound state) : DecidesOnce state where
  resolver := fun stage => count_le_one_of_slot sound.agrees.once rfl
  predicate := fun stage key => count_le_one_of_slot sound.agrees.once rfl
  commitment := fun stage => count_le_one_of_slot sound.agrees.once rfl
  answered := Coherent.answered sound.agrees
  decided := by
    intro stage key first second before after
    have same := eq_of_slot (.decision stage key) sound.agrees.once rfl rfl before after
    exact (PublicationFact.decided.inj same).2.2

/-- A promise that is not over stays outstanding. -/
theorem mem_foldl_outstanding {work : TrackedWork} {after : List PublicationFact}
    {works : List TrackedWork} (member : work ∈ works) (unfinished : .finished work ∉ after) :
    work ∈ after.foldl outstandingStep works := by
  induction after generalizing works with
  | nil => exact member
  | cons fact after ih =>
    rw [List.foldl_cons]
    apply ih
    · cases fact with
      | tracked other => exact List.mem_append_left _ member
      | finished other =>
        apply List.mem_filter.mpr
        refine ⟨member, ?_⟩
        apply decide_eq_true
        intro same
        rw [same] at unfinished
        exact unfinished List.mem_cons_self
      | stageCreated number | resolverStarted number | predicateStarted number key => exact member
      | factsCommitted number => exact member
      | decided number key value | answered number key value | released resource => exact member
    · exact fun later => unfinished (List.mem_cons_of_mem fact later)

theorem finished_of_outstanding {facts before after : List PublicationFact} {work : TrackedWork}
    (none_ : outstanding facts = []) (split : facts = before ++ .tracked work :: after) :
    .finished work ∈ after := by
  apply Decidable.byContradiction
  intro unfinished
  have member : work ∈ outstanding facts := by
    rw [split, outstanding_append, List.foldl_cons]
    exact mem_foldl_outstanding (List.mem_append_right _ List.mem_cons_self) unfinished
  rw [none_] at member
  exact absurd member List.not_mem_nil

theorem count_released (facts : List PublicationFact) (resource : Nat) :
    facts.count (.released resource) = (facts.filterMap PublicationFact.resource).count resource := by
  induction facts with
  | nil => rfl
  | cons fact facts ih =>
    cases fact <;> simp [PublicationFact.resource, List.filterMap_cons, ih, List.count_cons]

theorem closedWell (sound : Sound state)
    (over_ : state.boundary = .published ∨ state.boundary = .failed) : ClosedWell state := by
  obtain ⟨phase, ok⟩ := sound.owner
  cases phase with
  | retaining =>
    have standing : Retaining state := ok.standing
    rcases over_ with same | same
    · exact absurd same standing.unsettled.1
    · exact absurd same standing.unsettled.2
  | released =>
    have standing : Settled state := ok.standing
    have none_ : outstanding state.facts = [] := ok.tracked.symm.trans standing.drained
    refine ⟨standing.drained, ?_, standing.cleared, ?_, standing.published⟩
    · exact fun before work after split => finished_of_outstanding none_ split
    · intro resource
      rw [count_released, standing.each, List.count_range]

theorem unreadable (closed : state.owner.check ≠ .ok ()) : Unreadable calls state where
  source := by
    intro stage binding source read
    obtain ⟨contents, access, _⟩ := bind_eq_ok read
    exact closed (openStage_of_access access).owner
  access := fun stage binding contents read => closed (openStage_of_access read).owner
  grants := fun stage binding view read => closed (openStage_of_read read).owner

theorem Sound.not_open (sound : Sound state) (refused : state.owner.check ≠ .ok ()) :
    state.owner.closed = true := by
  obtain ⟨phase, ok⟩ := sound.owner
  cases closed : state.owner.closed with
  | true => rfl
  | false =>
    cases failure : state.owner.failure with
    | none => exact absurd ((check_ok_iff state.owner).mpr ⟨failure, closed⟩) refused
    | some found =>
      have poisoned := ok.poisoned (by rw [failure]; rfl)
      rw [closed] at poisoned
      contradiction

/-- Nothing happens to the stages of an owner that is not open. -/
theorem Allowed.not_of_stage (refused : state.owner.check ≠ .ok ()) {fact : PublicationFact}
    (allowed : state.Allowed fact) : fact.stage = none := by
  have notOpen {number : Nat} (isOpen : ∃ contents, state.OpenStage number contents) : False := by
    obtain ⟨contents, found⟩ := isOpen
    exact refused found.owner
  cases fact with
  | stageCreated number => exact absurd allowed refused
  | resolverStarted number | predicateStarted number key => exact (notOpen allowed).elim
  | factsCommitted number => exact (notOpen allowed).elim
  | decided number key value | answered number key value => exact (notOpen allowed).elim
  | tracked work | finished work | released resource => rfl

/-- One step of an owner that is not open. -/
theorem Effect.stopped (effect : Effect state next) (sound : Sound state)
    (refused : state.owner.check ≠ .ok ()) : next.owner.check ≠ .ok () ∧
      next.facts.filter (fun fact => fact.stage.isSome) =
        state.facts.filter fun fact => fact.stage.isSome := by
  refine ⟨?_, ?_⟩
  · intro isOpen
    have closed := effect.later.closed (sound.not_open refused)
    rw [((check_ok_iff next.owner).mp isOpen).2] at closed
    contradiction
  · obtain ⟨new, same, allowed⟩ := effect.facts
    have none_ : new.filter (fun fact => fact.stage.isSome) = [] := by
      apply List.filter_eq_nil_iff.mpr
      intro fact member
      rw [(allowed fact member).not_of_stage refused]
      exact Bool.false_ne_true
    rw [same, List.filter_append, none_, List.append_nil]

/-- A failed owner is never published. -/
theorem Sound.unpublished (sound : Sound state) {failure : Failure}
    (failed : state.owner.failure = some failure) : state.boundary ≠ .published := by
  intro published
  have none_ := (closedWell sound (Or.inl published)).unfailed published
  rw [failed] at none_
  contradiction

/-- Whatever happens after an owner failed or closed. -/
theorem stopped (sound : Sound state) (refused : state.owner.check ≠ .ok ())
    {events : List PublicationEvent} {later : Publication}
    (ran : events.foldlM (publications calls).step state = some later) :
    Stopped calls state later := by
  induction events generalizing state with
  | nil =>
    rw [← Option.some.inj ran]
    exact ⟨refused, rfl, unreadable refused, fun failure failed =>
      ⟨failed, sound.unpublished failed⟩⟩
  | cons event events ih =>
    rw [List.foldlM_cons] at ran
    obtain ⟨middle, taken, rest⟩ := Option.bind_eq_some_iff.mp ran
    have stepped : state.step calls event = some middle := taken
    obtain ⟨soundMiddle, effect⟩ := sound_step sound stepped
    obtain ⟨stillRefused, sameFacts⟩ := effect.stopped sound refused
    have after := ih soundMiddle stillRefused rest
    exact ⟨after.stopped, after.facts.trans sameFacts, after.unreadable,
      fun failure failed => after.failure failure (effect.later.failed failure failed)⟩

end Publication

/-- For one owner and any interleaving: each fact of a stage is decided once, what happens to a
stage happens while the stage, the stages that own it and the owner are open, nothing more happens
to any stage once the owner failed or closed, and a close that is over has left nothing. -/
theorem publication_decided_once (calls : Calls) (state : Publication)
    (reached : (publications calls).Reachable state) :
    state.DecidesOnce ∧
      (∀ event next, (publications calls).step state event = some next →
        ∃ new, next.facts = state.facts ++ new ∧ ∀ fact ∈ new, state.Allowed fact) ∧
      (state.owner.check ≠ .ok () → ∀ (events : List PublicationEvent) (later : Publication),
        events.foldlM (publications calls).step state = some later →
          Publication.Stopped calls state later) ∧
      (state.boundary = .published ∨ state.boundary = .failed → state.ClosedWell) := by
  have sound := Publication.sound_of_reachable reached
  refine ⟨Publication.decidesOnce sound, ?_, ?_, ?_⟩
  · intro event next taken
    have stepped : state.step calls event = some next := taken
    exact (Publication.sound_step sound stepped).2.facts
  · exact fun refused events later ran => Publication.stopped sound refused ran
  · exact Publication.closedWell sound

def articleBinding : AuthorizationBinding where
  request := 1
  runtime := 2
  model := 3
  modelName := "Article"
  scopePath := none

def articleAccess : AuthorizationAccess where
  operation := "read"
  rowAccess := some "read"
  virtualAccess := "read"
  outputAccess := "read"
  docPermissionsAccess := "read"

def articleCatalog : AuthorizationFieldCatalog where
  paths := ["title"]
  persistedPaths := none
  arrayPaths := []
  schemaVirtualPaths := []
  metadataPaths := []
  dynamicPaths := []
  containerPaths := []
  virtualPaths := []
  virtualScopePaths := []
  opaquePaths := []
  referencePaths := []
  protectedPaths := []

/-- A call that reads an article. -/
def articleCall : CallRecord where
  binding := articleBinding
  access := articleAccess
  configuration := {
    catalog := articleCatalog
    readAuthorizationMode := none
    listAuthorizationMode := none
    createAuthorizationMode := none
    updateAuthorizationMode := none
    documentPermissionField := none }
  policy := { rows := .request, outputFields := .request, inputFields := .request, related := [] }
  relatedTargets := []
  output := { access := articleAccess, catalog := articleCatalog, outputFields := .request }
  permissions := .captured 0
  provenance := 0
  queryOrigin := some .read
  writeOrigin := none
  writeOutputBranch := none
  sourceMode := .isolated
  factOrigin := .document
  fieldPolicyOwner := none

def articleCalls : Calls where
  records := [articleCall]
  captures := 1

/-- The predicate of a title is asynchronous, and is read once more while it runs. -/
def articleEvents : List PublicationEvent :=
  [.run, .bind 0,
    .admitStage { call := 0, binding := articleBinding, owning := none, inherited := false },
    .prepared (some 7) false true none, .resolve 0 (.ok ()),
    .answer (.returned (.object [("edit", .bool true)])) none,
    .memoize 0 articleBinding "title" none, .memoize 0 articleBinding "title" none,
    .answer .promised none, .settle 0 (.ok (.bool true)) none,
    .workSettled (.decision 0 "title") (.ok ()), .workSettled (.result 0) (.ok ()),
    .finish (.ok ()), .drain]

theorem publication_decided_once_articleEvents : ∃ state,
    (publications articleCalls).run articleEvents = some state ∧ state.boundary = .published ∧
      .decided 0 "title" true ∈ state.facts ∧ .answered 0 "title" true ∈ state.facts ∧
      state.DecidesOnce ∧ state.ClosedWell := by
  have ran : ((publications articleCalls).run articleEvents).map
      (fun state => (state.boundary, state.facts)) = some (.published,
        [.stageCreated 0, .tracked (.result 0), .resolverStarted 0, .factsCommitted 0,
          .predicateStarted 0 "title", .tracked (.decision 0 "title"), .decided 0 "title" true,
          .answered 0 "title" true, .finished (.decision 0 "title"), .finished (.result 0),
          .released 0]) := by
    decide +kernel
  obtain ⟨state, same, found⟩ := Option.map_eq_some_iff.mp ran
  obtain ⟨boundary, facts⟩ := Prod.mk.inj found
  have contract := publication_decided_once articleCalls state
    (TransitionSystem.Reachable.of_run same)
  refine ⟨state, same, boundary, ?_, ?_, contract.1, contract.2.2.2 (Or.inl boundary)⟩
  · rw [facts]
    decide
  · rw [facts]
    decide

end WebTsToolkit.AccessRouter
