import WebTsToolkit.AccessRouter.PublicationCoherence

set_option autoImplicit false

namespace WebTsToolkit.AccessRouter

open Js Library

namespace Publication

variable {calls : Calls} {state : Publication} {callbacks : List Activation}

theorem lookup_filter_ne {decisions : List (String × FieldDecision)} {key other : String}
    (apart : other ≠ key) :
    (decisions.filter fun entry => entry.1 != key).lookup other = decisions.lookup other := by
  induction decisions with
  | nil => rfl
  | cons entry decisions ih =>
    rw [List.filter_cons]
    by_cases here : entry.1 = key
    · have away : (other == entry.1) = false := by
        rw [here]
        exact beq_false_of_ne apart
      have dropped : (entry.1 != key) = false := by simp [here]
      rw [dropped, List.lookup_cons, away]
      exact ih
    · have kept : (entry.1 != key) = true := bne_iff_ne.mpr here
      rw [if_pos kept, List.lookup_cons, List.lookup_cons, ih]

@[simp] theorem lookup_setDecision_self (contents : StageContents) (key : String)
    (decision : FieldDecision) :
    (setDecision contents key decision).decisions.lookup key = some decision :=
  List.lookup_cons_self

theorem lookup_setDecision_ne (contents : StageContents) {key other : String}
    (decision : FieldDecision) (apart : other ≠ key) :
    (setDecision contents key decision).decisions.lookup other =
      contents.decisions.lookup other := by
  unfold setDecision
  rw [List.lookup_cons, beq_false_of_ne apart]
  exact lookup_filter_ne apart

variable {contents : StageContents} {key : String} {decision : FieldDecision}
  {binding : AuthorizationBinding} {number generation : Nat}

/-- A change of one decision, with facts and a callback of its own. -/
theorem StageOk.setDecision {facts new : List PublicationFact} {others : List Activation}
    {number : Nat} (ok : StageOk facts callbacks number contents)
    (own : ∀ fact ∈ new, fact.slot = none ∨ fact.slot = some (.predicate number key) ∨
      fact.slot = some (.decision number key)) (fewer : ∀ callback ∈ others, callback ∈ callbacks ∨
      callback.subject = some (number, some key))
    (decided : ∀ value, .decided number key value ∈ facts ++ new →
      decision.state = .fulfilled ∧ decision.value = some value)
    (fulfilled : decision.state = .fulfilled → ∃ value, decision.value = some value ∧
      .decided number key value ∈ facts ++ new)
    (deciding : ∀ binding generation, .deciding number binding key generation ∈ others →
      decision.state = .pending) :
    StageOk (facts ++ new) others number (setDecision contents key decision) := by
  have before {fact : PublicationFact} (slotted : fact.slot.isSome = true)
      (apart : fact.slot ≠ some (.predicate number key) ∧
        fact.slot ≠ some (.decision number key)) (happened : fact ∈ facts ++ new) :
      fact ∈ facts := by
    rcases List.mem_append.mp happened with earlier | now
    · exact earlier
    · rcases own fact now with none_ | here | here
      · rw [none_] at slotted
        contradiction
      · exact absurd here apart.1
      · exact absurd here apart.2
  constructor
  · intro happened
    exact ok.started (before rfl (by simp [PublicationFact.slot]) happened)
  · intro happened
    exact ok.committed (before rfl (by simp [PublicationFact.slot]) happened)
  · exact ok.granted
  · intro other happened
    by_cases same : other = key
    · rw [same, lookup_setDecision_self]
      rfl
    · rw [lookup_setDecision_ne contents decision same]
      exact ok.predicate other (before rfl (by simp [PublicationFact.slot, same]) happened)
  · intro other value happened
    by_cases same : other = key
    · rw [same] at happened ⊢
      exact ⟨decision, lookup_setDecision_self contents key decision, decided value happened⟩
    · rw [lookup_setDecision_ne contents decision same]
      exact ok.decided other value (before rfl (by simp [PublicationFact.slot, same]) happened)
  · intro other found lookup isFulfilled
    by_cases same : other = key
    · rw [same] at lookup ⊢
      rw [lookup_setDecision_self] at lookup
      rw [← Option.some.inj lookup] at isFulfilled ⊢
      exact fulfilled isFulfilled
    · rw [lookup_setDecision_ne contents decision same] at lookup
      obtain ⟨value, isValue, happened⟩ := ok.fulfilled other found lookup isFulfilled
      exact ⟨value, isValue, List.mem_append_left _ happened⟩
  · intro generation member
    rcases fewer _ member with before | now
    · exact ok.resolving generation before
    · exact absurd now (by simp [Activation.subject])
  · intro binding other generation member
    by_cases same : other = key
    · rw [same] at member ⊢
      exact ⟨decision, lookup_setDecision_self contents key decision,
        deciding binding generation member⟩
    · rw [lookup_setDecision_ne contents decision same]
      rcases fewer _ member with before | now
      · exact ok.deciding binding other generation before
      · exact absurd (Option.some.inj (Prod.mk.inj (Option.some.inj now)).2) same

/-- The stages in which one decision of one stage is set. -/
def decisionSet (state : Publication) (number : Nat) (key : String) (decision : FieldDecision) :
    List StageRecord :=
  state.stages.modify number fun record =>
    { record with
      contents := record.contents.map fun contents => setDecision contents key decision }

/-- A decision changes, with at most one fact that takes a slot. -/
theorem Agrees.decisionSet (agrees : state.Agrees callbacks) {number : Nat}
    (held : state.contentsOf number = some contents) {new : List PublicationFact}
    {others : List Activation}
    (own : ∀ fact ∈ new, ∀ other, fact.stage = some other → other = number)
    (once : ((state.facts ++ new).filterMap PublicationFact.slot).Nodup)
    (fewer : ∀ callback ∈ others, callback ∈ callbacks ∨
      callback.subject = some (number, some key))
    (distinct : (others.filterMap Activation.subject).Nodup)
    (ok : StageOk (state.facts ++ new) others number (setDecision contents key decision))
    (silent : ∀ number key value, .answered number key value ∉ new) :
    Coherent (state.decisionSet number key decision) (state.facts ++ new) others := by
  obtain ⟨record, listed, here⟩ := of_contentsOf held
  unfold Publication.decisionSet
  rw [modify_eq_set listed, here]
  apply Coherent.change agrees listed own once
  · intro callback member
    rcases fewer callback member with before | now
    · exact Or.inl before
    · obtain ⟨binding, generation, isDeciding⟩ := eq_deciding now
      rw [isDeciding]
      exact Or.inr rfl
  · exact distinct
  · intro created found isNext
    have fresh := agrees.fresh record (List.mem_of_getElem? listed) created contents here
    rw [← Option.some.inj isNext]
    exact { fresh with }
  · intro found isNext
    rw [← Option.some.inj isNext]
    exact ok
  · exact silent

/-- A decision that keeps its state and its value. -/
theorem StageOk.keep {facts : List PublicationFact} {number : Nat}
    (ok : StageOk facts callbacks number contents) {decision next : FieldDecision}
    (found : contents.decisions.lookup key = some decision) (state_ : next.state = decision.state)
    (value_ : next.value = decision.value) :
    StageOk facts callbacks number (Publication.setDecision contents key next) := by
  have nothing : facts ++ [] = facts := List.append_nil facts
  rw [← nothing]
  apply ok.setDecision
  · intro fact member
    exact absurd member List.not_mem_nil
  · exact fun _ member => Or.inl member
  · intro value happened
    rw [nothing] at happened
    obtain ⟨other, lookup, fulfilled, isValue⟩ := ok.decided key value happened
    rw [found] at lookup
    rw [state_, value_, Option.some.inj lookup]
    exact ⟨fulfilled, isValue⟩
  · intro fulfilled
    rw [state_] at fulfilled
    rw [nothing, value_]
    exact ok.fulfilled key decision found fulfilled
  · intro binding generation member
    obtain ⟨other, lookup, pending⟩ := ok.deciding binding key generation member
    rw [found] at lookup
    rw [state_, Option.some.inj lookup]
    exact pending

/-- A reader of a decision. -/
theorem Agrees.readExisting (agrees : state.Agrees callbacks) {number : Nat}
    (held : state.contentsOf number = some contents)
    (found : contents.decisions.lookup key = some decision) :
    (state.readExisting number key decision).Agrees callbacks := by
  unfold Publication.readExisting
  split
  · next value isFulfilled isValue =>
    apply Coherent.notes agrees
    · exact List.forall_mem_singleton.mpr rfl
    · intro fact member other about
      rw [List.mem_singleton.mp member] at about
      obtain ⟨record, listed, _⟩ := of_contentsOf held
      rw [← Option.some.inj about]
      exact (List.getElem?_eq_some_iff.mp listed).1
    · intro other key' value' member
      obtain ⟨isStage, isKey, same⟩ :=
        PublicationFact.answered.inj (List.mem_singleton.mp member)
      obtain ⟨decided, there, happened⟩ :=
        (agrees.stageOk held).fulfilled key decision found isFulfilled
      rw [isValue] at there
      rw [isStage, isKey, same, Option.some.inj there]
      exact happened
  · apply agrees.modifyContents number (fun _ member => member) agrees.distinct
    intro record other listed here ok
    have same : other = contents := Option.some.inj ((contentsOf_eq listed here).symm.trans held)
    rw [same] at here ok ⊢
    refine ⟨?_, ok.keep found rfl rfl⟩
    intro created
    have fresh := agrees.fresh record (List.mem_of_getElem? listed) created contents here
    exact { fresh with }

theorem OpenStage.held {number : Nat} (isOpen : state.OpenStage number contents) :
    state.contentsOf number = some contents := by
  obtain ⟨record, listed, _, held, _⟩ := isOpen.record
  exact contentsOf_eq listed held

theorem Agrees.readStageFieldDecision (agrees : state.Agrees callbacks) (number : Nat)
    (binding : AuthorizationBinding) (key : String) :
    (state.readStageFieldDecision calls number binding key).Agrees callbacks := by
  unfold Publication.readStageFieldDecision
  split
  · next view read =>
    split
    · next decision found => exact agrees.readExisting (openStage_of_read read).held found
    · exact agrees
  · exact agrees

/-- The predicate of a key is called for the first time. -/
theorem Agrees.memoizeStageFieldDecision (agrees : state.Agrees state.inProgress) (number : Nat)
    (binding : AuthorizationBinding) (key : String) (refused : Option Failure) :
    (state.memoizeStageFieldDecision calls number binding key refused).Agrees
      (state.memoizeStageFieldDecision calls number binding key refused).inProgress := by
  unfold Publication.memoizeStageFieldDecision
  split
  · next view record read listed =>
    have held := (openStage_of_read read).held
    have ok := agrees.stageOk held
    split
    · next decision found =>
      have same : (state.readExisting number key decision).inProgress = state.inProgress := by
        unfold Publication.readExisting
        split
        · rfl
        · rfl
      rw [same]
      exact agrees.readExisting held found
    · next unset =>
      rcases debit_cases state refused with ⟨_, debited⟩ | ⟨failure, debited⟩
      · rw [debited]
        have idle (other : Activation) (member : other ∈ state.inProgress) :
            other.subject ≠ some (number, some key) := by
          intro same
          obtain ⟨found, generation, isDeciding⟩ := eq_deciding same
          rw [isDeciding] at member
          obtain ⟨decision, lookup, _⟩ := ok.deciding found key generation member
          rw [unset] at lookup
          contradiction
        have undecided (value : Bool) :
            .decided number key value ∉ state.facts ++ [.predicateStarted number key] := by
          intro happened
          rcases List.mem_append.mp happened with before | now
          · obtain ⟨decision, lookup, _⟩ := ok.decided key value before
            rw [unset] at lookup
            contradiction
          · exact absurd (List.mem_singleton.mp now) (by simp)
        apply agrees.decisionSet held
        · exact noted_about rfl
        · apply once_append agrees.once rfl
          intro old member slotted
          rw [eq_predicateStarted slotted] at member
          have some_ := ok.predicate key member
          rw [unset] at some_
          contradiction
        · intro callback member
          rcases List.mem_cons.mp member with same | before
          · rw [same]
            exact Or.inr rfl
          · exact Or.inl before
        · exact distinct_cons agrees.distinct rfl idle
        · apply ok.setDecision
          · exact List.forall_mem_singleton.mpr (Or.inr (Or.inl rfl))
          · intro callback member
            rcases List.mem_cons.mp member with same | before
            · rw [same]
              exact Or.inr rfl
            · exact Or.inl before
          · exact fun value happened => absurd happened (undecided value)
          · intro fulfilled
            contradiction
          · exact fun _ _ _ => rfl
        · exact not_answered fun _ _ _ => PublicationFact.noConfusion
      · rw [debited]
        dsimp only
        rw [inProgress_fail]
        exact agrees.fail (some failure)
  · exact agrees

/-- A decision of a callback that is over, and is not fulfilled. -/
theorem Agrees.modifyDecision
    (agrees : state.Agrees (.deciding number binding key generation :: callbacks))
    {change : FieldDecision → FieldDecision} (unfulfilled : ∀ decision,
      (change decision).state ≠ .fulfilled) :
    (state.modifyDecision number key change).Agrees callbacks := by
  have nothing : state.facts ++ [] = state.facts := List.append_nil state.facts
  apply agrees.modifyContents number (fun _ member => List.mem_cons_of_mem _ member)
    (distinct_tail agrees.distinct)
  intro record contents listed held ok
  obtain ⟨decision, lookup, pending⟩ := ok.deciding binding key generation List.mem_cons_self
  rw [lookup]
  refine ⟨?_, ?_⟩
  · intro created
    have fresh := agrees.fresh record (List.mem_of_getElem? listed) created contents held
    exact { fresh with }
  · dsimp only
    rw [← nothing]
    apply ok.setDecision
    · intro fact member
      exact absurd member List.not_mem_nil
    · exact fun _ member => Or.inl (List.mem_cons_of_mem _ member)
    · intro value happened
      rw [nothing] at happened
      obtain ⟨other, found, fulfilled, _⟩ := ok.decided key value happened
      rw [lookup] at found
      rw [← Option.some.inj found, pending] at fulfilled
      contradiction
    · exact fun fulfilled => absurd fulfilled (unfulfilled decision)
    · intro other later member
      exact absurd rfl (subject_over agrees.distinct rfl member)

theorem Agrees.failDecision
    (agrees : state.Agrees (.deciding number binding key generation :: callbacks))
    (failure : Failure) : (state.failDecision number key failure).Agrees callbacks := by
  apply Agrees.fail
  apply agrees.modifyDecision
  intro decision fulfilled
  contradiction

/-- The decision of a key is committed for the first time. -/
theorem Agrees.decide
    (agrees : state.Agrees (.deciding number binding key generation :: callbacks))
    (held : state.contentsOf number = some contents) (value : Bool) :
    ((state.modifyDecision number key (fulfilledWith value)).note
      (.decided number key value :: state.answers number key value)).Agrees callbacks := by
  have ok := agrees.stageOk held
  obtain ⟨decision, lookup, pending⟩ := ok.deciding binding key generation List.mem_cons_self
  obtain ⟨record, listed, here⟩ := of_contentsOf held
  have stages : (state.modifyDecision number key (fulfilledWith value)).stages =
      state.decisionSet number key (fulfilledWith value decision) := by
    unfold Publication.modifyDecision Publication.modifyContents Publication.decisionSet
    dsimp only
    rw [modify_eq_set listed, modify_eq_set listed, here]
    dsimp only [Option.map]
    rw [lookup]
  have undecided (other : Bool) : .decided number key other ∉ state.facts := by
    intro happened
    obtain ⟨found, there, fulfilled, _⟩ := ok.decided key other happened
    rw [lookup] at there
    rw [← Option.some.inj there, pending] at fulfilled
    contradiction
  have decided : Coherent (state.decisionSet number key (fulfilledWith value decision))
      (state.facts ++ [.decided number key value]) callbacks := by
    apply agrees.decisionSet held
    · exact noted_about rfl
    · apply once_append agrees.once rfl
      intro old member slotted
      obtain ⟨other, isDecided⟩ := eq_decided slotted
      rw [isDecided] at member
      exact undecided other member
    · exact fun _ member => Or.inl (List.mem_cons_of_mem _ member)
    · exact distinct_tail agrees.distinct
    · apply ok.setDecision
      · exact List.forall_mem_singleton.mpr (Or.inr (Or.inr rfl))
      · exact fun _ member => Or.inl (List.mem_cons_of_mem _ member)
      · intro other happened
        rcases List.mem_append.mp happened with before | now
        · exact absurd before (undecided other)
        · have same : other = value :=
            (PublicationFact.decided.inj (List.mem_singleton.mp now)).2.2
          rw [same]
          exact ⟨rfl, rfl⟩
      · exact fun _ => ⟨value, rfl, List.mem_append_right _ List.mem_cons_self⟩
      · intro other later member
        exact absurd rfl (subject_over agrees.distinct rfl member)
    · exact not_answered fun _ _ _ => PublicationFact.noConfusion
  unfold Agrees note
  dsimp only
  rw [stages, ← List.singleton_append, ← List.append_assoc]
  apply decided.notes
  · intro fact member
    unfold answers at member
    split at member
    · rw [List.mem_singleton.mp member]
      rfl
    · exact absurd member List.not_mem_nil
  · intro fact member other about
    unfold answers at member
    split at member
    · rw [List.mem_singleton.mp member] at about
      rw [← Option.some.inj about]
      unfold Publication.decisionSet
      rw [List.length_modify]
      exact (List.getElem?_eq_some_iff.mp listed).1
    · exact absurd member List.not_mem_nil
  · intro other key' value' member
    unfold answers at member
    split at member
    · obtain ⟨isStage, isKey, same⟩ := PublicationFact.answered.inj (List.mem_singleton.mp member)
      rw [isStage, isKey, same]
      exact List.mem_append_right _ List.mem_cons_self
    · exact absurd member List.not_mem_nil

/-- A predicate is over. -/
theorem Agrees.settleDecision
    (agrees : state.Agrees (.deciding number binding key generation :: callbacks))
    (outcome : Except Failure Value) :
    (state.settleDecision calls number binding key generation outcome).Agrees callbacks := by
  unfold Publication.settleDecision
  split
  · next failure => exact agrees.failDecision failure
  · split
    · next failure _ => exact agrees.failDecision failure
    · next contents opened =>
      split
      · exact agrees.failDecision _
      · next value _ => exact agrees.decide (openStage_of_assertGeneration opened).held value
      · exact agrees.failDecision _

/-- The promise of a predicate that is not over is made. -/
theorem Agrees.promised {number : Nat} (agrees : state.Agrees callbacks) :
    ((state.modifyDecision number key pendingFieldDecision).track
      (.decision number key)).Agrees callbacks := by
  have modified : (state.modifyDecision number key pendingFieldDecision).Agrees callbacks := by
    apply agrees.modifyContents number (fun _ member => member) agrees.distinct
    intro record contents listed held ok
    split
    · next decision found =>
      refine ⟨?_, ok.keep found rfl rfl⟩
      intro created
      have fresh := agrees.fresh record (List.mem_of_getElem? listed) created contents held
      exact { fresh with }
    · exact ⟨fun created => agrees.fresh record (List.mem_of_getElem? listed) created contents held,
        ok⟩
  apply Coherent.notes modified
  · exact List.forall_mem_singleton.mpr rfl
  · intro fact member other about
    rw [List.mem_singleton.mp member] at about
    contradiction
  · intro other key' value member
    exact absurd member (not_answered (fun _ _ _ => PublicationFact.noConfusion) other key' value)

end Publication

end WebTsToolkit.AccessRouter
