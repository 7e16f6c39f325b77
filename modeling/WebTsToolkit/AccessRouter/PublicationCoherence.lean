import WebTsToolkit.AccessRouter.PublicationStages

set_option autoImplicit false

namespace WebTsToolkit.AccessRouter

open Js Library

namespace Publication

variable {calls : Calls} {state : Publication} {callbacks : List Activation}

/-- The callbacks that are not over. -/
def inProgress (state : Publication) : List Activation :=
  state.running ++ state.awaiting

/-- Stages, facts and callbacks of a state agree. -/
def Agrees (state : Publication) (callbacks : List Activation) : Prop :=
  Coherent state.stages state.facts callbacks

theorem Agrees.closeStages (agrees : state.Agrees callbacks) (error : Option Failure)
    (clear : Bool) : (state.closeStages error clear).Agrees callbacks := by
  apply Coherent.closes agrees List.length_mapIdx
  intro number next listed
  rw [List.getElem?_mapIdx] at listed
  obtain ⟨record, before, same⟩ := Option.map_eq_some_iff.mp listed
  refine ⟨record, before, ?_⟩
  rw [← same]
  split
  · refine ⟨Or.inr rfl, ?_⟩
    cases clear with
    | true => exact Or.inr rfl
    | false => exact Or.inl rfl
  · exact ⟨Or.inl rfl, Or.inl rfl⟩

@[simp] theorem inProgress_fail (error : Option Failure) :
    (state.fail error).inProgress = state.inProgress := by
  unfold Publication.fail
  split
  · rfl
  · rfl

@[simp] theorem inProgress_failStage (number : Nat) (error : Failure) :
    (state.failStage number error).inProgress = state.inProgress :=
  inProgress_fail (some error)

@[simp] theorem inProgress_setResult (number : Nat) (result : Settlement DocumentGrants) :
    (state.setResult number result).inProgress = state.inProgress := rfl

theorem Agrees.fail (agrees : state.Agrees callbacks) (error : Option Failure) :
    (state.fail error).Agrees callbacks := by
  unfold Publication.fail
  split
  · exact agrees
  · have failed (owner : PublicationRecord) : Agrees { state with owner } callbacks := agrees
    exact (failed _).closeStages _ _

/-- A change of a record that keeps its contents. -/
theorem Agrees.modifyRecord (agrees : state.Agrees callbacks) (number : Nat)
    {change : StageRecord → StageRecord}
    (kept : ∀ record, (change record).contents = record.contents)
    (notCreated : ∀ record, (change record).state = .created → record.state = .created) :
    Coherent (state.stages.modify number change) state.facts callbacks := by
  cases listed : state.stages[number]? with
  | none =>
    rw [List.modify_eq_self (List.getElem?_eq_none_iff.mp listed)]
    exact agrees
  | some record =>
    rw [modify_eq_set listed]
    apply Coherent.changeSilent agrees listed (fun _ member => Or.inl member) agrees.distinct
    · intro created contents held
      rw [kept] at held
      exact agrees.fresh record (List.mem_of_getElem? listed) (notCreated record created)
        contents held
    · intro contents held
      rw [kept] at held
      exact agrees.each number record contents listed held

theorem Agrees.failStage (agrees : state.Agrees callbacks) (number : Nat) (error : Failure) :
    (state.failStage number error).Agrees callbacks := by
  have failed : Agrees { state with
      stages := state.stages.modify number fun record => { record with failure := some error } }
      callbacks :=
    agrees.modifyRecord number (fun _ => rfl) fun _ created => created
  exact failed.fail _

/-- A change of contents that concerns no fact. -/
theorem Agrees.modifyContents (agrees : state.Agrees callbacks) (number : Nat)
    {change : StageContents → StageContents} {others : List Activation}
    (fewer : ∀ callback ∈ others, callback ∈ callbacks)
    (distinct : (others.filterMap Activation.subject).Nodup)
    (ok : ∀ record contents, state.stages[number]? = some record →
      record.contents = some contents → StageOk state.facts callbacks number contents →
      (record.state = .created → FreshContents (change contents)) ∧
        StageOk state.facts others number (change contents)) :
    (state.modifyContents number change).Agrees others := by
  have agrees' : Coherent state.stages state.facts others := Coherent.callbacks agrees fewer distinct
  unfold Agrees Publication.modifyContents
  dsimp only
  cases listed : state.stages[number]? with
  | none =>
    rw [List.modify_eq_self (List.getElem?_eq_none_iff.mp listed)]
    exact agrees'
  | some record =>
    rw [modify_eq_set listed]
    apply Coherent.changeSilent agrees' listed (fun _ member => Or.inl member) distinct
    · intro created contents held
      obtain ⟨before, was, same⟩ := Option.map_eq_some_iff.mp held
      rw [← same]
      exact (ok record before listed was (agrees.each number record before listed was)).1 created
    · intro contents held
      obtain ⟨before, was, same⟩ := Option.map_eq_some_iff.mp held
      rw [← same]
      exact (ok record before listed was (agrees.each number record before listed was)).2

variable {fact : PublicationFact} {number : Nat} {key : String} {callback : Activation}
  {contents : StageContents} {record : StageRecord}

/-- A slot that is free is used once. -/
theorem once_append {facts : List PublicationFact} {slot : Slot}
    (once : (facts.filterMap PublicationFact.slot).Nodup) (slotted : fact.slot = some slot)
    (unused : ∀ old ∈ facts, old.slot ≠ some slot) :
    ((facts ++ [fact]).filterMap PublicationFact.slot).Nodup := by
  have single : [fact].filterMap PublicationFact.slot = [slot] := by
    rw [List.filterMap_cons_some slotted, List.filterMap_nil]
  rw [List.filterMap_append, single]
  apply List.nodup_append.mpr
  refine ⟨once, List.nodup_singleton slot, ?_⟩
  intro other before found now same
  obtain ⟨old, member, here⟩ := List.mem_filterMap.mp before
  rw [same, List.mem_singleton.mp now] at here
  exact unused old member here

/-- A noted fact is about its own stage only. -/
theorem noted_about (mine : fact.stage = some number) :
    ∀ noted ∈ [fact], ∀ other, noted.stage = some other → other = number := by
  intro noted member other about
  rw [List.mem_singleton.mp member, mine] at about
  exact (Option.some.inj about).symm

/-- A fact of another slot than the noted one was there before. -/
theorem mem_of_noted {facts : List PublicationFact} {old : PublicationFact}
    (apart : old.slot ≠ fact.slot) (happened : old ∈ facts ++ [fact]) : old ∈ facts := by
  rcases List.mem_append.mp happened with earlier | now
  · exact earlier
  · rw [List.mem_singleton.mp now] at apart
    exact absurd rfl apart

theorem eq_resolverStarted (slotted : fact.slot = some (.resolver number)) :
    fact = .resolverStarted number := by
  cases fact <;> simp_all [PublicationFact.slot]

theorem eq_factsCommitted (slotted : fact.slot = some (.commitment number)) :
    fact = .factsCommitted number := by
  cases fact <;> simp_all [PublicationFact.slot]

theorem eq_predicateStarted (slotted : fact.slot = some (.predicate number key)) :
    fact = .predicateStarted number key := by
  cases fact <;> simp_all [PublicationFact.slot]

theorem eq_decided (slotted : fact.slot = some (.decision number key)) :
    ∃ value, fact = .decided number key value := by
  cases fact <;> simp_all [PublicationFact.slot]

/-- A subject that is over has no other callback. -/
theorem subject_over {callback other : Activation} {rest : List Activation}
    {subject : Nat × Option String}
    (distinct : ((callback :: rest).filterMap Activation.subject).Nodup)
    (mine : callback.subject = some subject) (member : other ∈ rest) :
    other.subject ≠ some subject := by
  rw [List.filterMap_cons_some mine] at distinct
  intro same
  exact (List.nodup_cons.mp distinct).1 (List.mem_filterMap.mpr ⟨other, member, same⟩)

theorem distinct_tail {rest : List Activation}
    (distinct : ((callback :: rest).filterMap Activation.subject).Nodup) :
    (rest.filterMap Activation.subject).Nodup :=
  distinct.sublist ((List.sublist_cons_self callback rest).filterMap Activation.subject)

/-- The contents of a stage that is not cleared. -/
def contentsOf (state : Publication) (number : Nat) : Option StageContents :=
  (state.stages[number]?).bind StageRecord.contents

theorem contentsOf_eq (listed : state.stages[number]? = some record)
    (held : record.contents = some contents) : state.contentsOf number = some contents := by
  unfold contentsOf
  rw [listed]
  exact held

theorem of_contentsOf (held : state.contentsOf number = some contents) :
    ∃ record, state.stages[number]? = some record ∧ record.contents = some contents :=
  Option.bind_eq_some_iff.mp held

theorem contentsOf_closeStages (error : Option Failure) (number : Nat) :
    (state.closeStages error false).contentsOf number = state.contentsOf number := by
  unfold contentsOf closeStages
  dsimp only
  rw [List.getElem?_mapIdx]
  cases state.stages[number]? with
  | none => rfl
  | some record =>
    show (if number ∈ state.owner.stages then record.close error false else record).contents =
      record.contents
    split
    · rfl
    · rfl

theorem contentsOf_fail (error : Option Failure) (number : Nat) :
    (state.fail error).contentsOf number = state.contentsOf number := by
  unfold Publication.fail
  split
  · rfl
  · exact contentsOf_closeStages _ number

theorem contentsOf_failStage (failing : Nat) (error : Failure) (number : Nat) :
    (state.failStage failing error).contentsOf number = state.contentsOf number := by
  unfold failStage
  rw [contentsOf_fail]
  unfold contentsOf
  dsimp only
  rw [List.getElem?_modify]
  cases state.stages[number]? with
  | none => rfl
  | some record =>
    show (if failing = number then { record with failure := some error } else record).contents =
      record.contents
    split
    · rfl
    · rfl

theorem Agrees.stageOk (agrees : state.Agrees callbacks)
    (held : state.contentsOf number = some contents) :
    StageOk state.facts callbacks number contents := by
  obtain ⟨record, listed, here⟩ := of_contentsOf held
  exact agrees.each number record contents listed here

/-- A result of a stage that is past its creation. -/
theorem Agrees.setResult (agrees : state.Agrees callbacks) (result : Settlement DocumentGrants)
    (past : ∀ contents, state.contentsOf number = some contents → ¬ FreshContents contents) :
    (state.setResult number result).Agrees callbacks := by
  apply agrees.modifyContents number (fun _ member => member) agrees.distinct
  intro record contents listed held ok
  refine ⟨?_, ?_⟩
  · intro created
    have fresh := agrees.fresh record (List.mem_of_getElem? listed) created contents held
    exact absurd fresh (past contents (contentsOf_eq listed held))
  · exact {
      started := fun _ => rfl
      committed := ok.committed
      granted := fun _ => Or.inl rfl
      predicate := ok.predicate
      decided := ok.decided
      fulfilled := ok.fulfilled
      resolving := fun generation member => ⟨rfl, (ok.resolving generation member).2⟩
      deciding := ok.deciding }

/-- The callbacks that are left. -/
theorem Agrees.pop (agrees : state.Agrees (callback :: callbacks)) : state.Agrees callbacks :=
  Coherent.callbacks agrees (fun _ member => List.mem_cons_of_mem callback member)
    (distinct_tail agrees.distinct)

/-- The record of a stage whose facts are committed. -/
def committedRecord (grants : DocumentGrants) (record : StageRecord) : StageRecord :=
  { record with
    state := .ready
    contents := record.contents.map (withGrants · grants) }

theorem debit_cases (state : Publication) (refused : Option Failure) :
    (refused = none ∧ state.debit refused = (state, .ok ())) ∨
      ∃ failure, state.debit refused = (state.fail (some failure), .error failure) := by
  cases refused with
  | none => exact Or.inl ⟨rfl, rfl⟩
  | some failure => exact Or.inr ⟨failure, rfl⟩

/-- Facts are committed to an open stage, or nothing but a failure of the owner happens. -/
theorem commit_cases (calls : Calls) (state : Publication) (number generation : Nat)
    (value : Value) (refused : Option Failure) :
    (∃ failure, state.commitDocumentStageFacts calls number generation value refused =
        (state, .error failure) ∨
      state.commitDocumentStageFacts calls number generation value refused =
        (state.fail (some failure), .error failure)) ∨
    ∃ contents grants, state.OpenStage number contents ∧
      state.commitDocumentStageFacts calls number generation value refused =
        (({ state with stages := state.stages.modify number (committedRecord grants) }).note
          [.factsCommitted number], .ok grants) := by
  unfold commitDocumentStageFacts
  split
  · next failure refusal => exact Or.inl ⟨failure, Or.inl rfl⟩
  · next contents opened =>
    have isOpen := openStage_of_assertGeneration opened
    split
    · next checked found =>
      rcases debit_cases state refused with ⟨_, debited⟩ | ⟨failure, debited⟩
      · rw [debited]
        dsimp only
        split
        · next fault refusal => exact Or.inl ⟨.controlled fault, Or.inl rfl⟩
        · next grants normalized => exact Or.inr ⟨contents, grants, isOpen, rfl⟩
      · rw [debited]
        exact Or.inl ⟨failure, Or.inr rfl⟩
    · exact Or.inl ⟨_, Or.inl rfl⟩
    · exact Or.inl ⟨_, Or.inl rfl⟩

/-- Facts of a stage that has none, and whose other callbacks do not resolve it. -/
theorem Agrees.commit {others : List Activation} (agrees : state.Agrees callbacks)
    (none_ : contents.grants = none) (next : StageContents)
    (listed : state.stages[number]? = some record) (held : record.contents = some contents)
    (grants : DocumentGrants) (same : next.grants = some grants)
    (result : next.result = contents.result) (decisions : next.decisions = contents.decisions)
    (granted : contents.result.isSome = true ∨ next.emptyHelperFacts = true)
    (fewer : ∀ callback ∈ others, callback ∈ callbacks)
    (distinct : (others.filterMap Activation.subject).Nodup)
    (resolved : ∀ generation, .resolving number generation ∉ others) :
    Coherent (state.stages.set number { record with state := .ready, contents := some next })
      (state.facts ++ [.factsCommitted number]) others := by
  have ok := agrees.each number record contents listed held
  apply Coherent.change agrees listed
  · exact noted_about rfl
  · apply once_append agrees.once rfl
    intro old member slotted
    rw [eq_factsCommitted slotted] at member
    have some_ := ok.committed member
    rw [none_] at some_
    contradiction
  · exact fun callback member => Or.inl (fewer callback member)
  · exact distinct
  · intro created
    contradiction
  · intro found isNext
    rw [← Option.some.inj isNext]
    constructor
    · intro happened
      rw [result]
      exact ok.started (mem_of_noted (by simp [PublicationFact.slot]) happened)
    · intro _
      rw [same]
      rfl
    · intro _
      rw [result]
      exact granted
    · intro key happened
      rw [decisions]
      exact ok.predicate key (mem_of_noted (by simp [PublicationFact.slot]) happened)
    · intro key value happened
      rw [decisions]
      exact ok.decided key value (mem_of_noted (by simp [PublicationFact.slot]) happened)
    · intro key decision lookup fulfilled
      rw [decisions] at lookup
      obtain ⟨value, isValue, happened⟩ := ok.fulfilled key decision lookup fulfilled
      exact ⟨value, isValue, List.mem_append_left _ happened⟩
    · intro generation member
      exact absurd member (resolved generation)
    · intro binding key generation member
      rw [decisions]
      exact ok.deciding binding key generation (fewer _ member)
  · exact not_answered fun _ _ _ => PublicationFact.noConfusion

theorem not_fresh_of_result (some_ : contents.result.isSome = true) : ¬ FreshContents contents := by
  intro fresh
  rw [fresh.result] at some_
  contradiction

theorem not_fresh_of_grants (some_ : contents.grants.isSome = true) : ¬ FreshContents contents := by
  intro fresh
  rw [fresh.grants] at some_
  contradiction

theorem committed_eq_set (listed : state.stages[number]? = some record)
    (held : record.contents = some contents) (grants : DocumentGrants) :
    state.stages.modify number (committedRecord grants) = state.stages.set number
      { record with state := .ready, contents := some (withGrants contents grants) } := by
  rw [modify_eq_set listed]
  unfold committedRecord
  rw [held]
  rfl

/-- A resolution that fails its stage. -/
theorem Agrees.rejected {number generation : Nat}
    (agrees : state.Agrees (.resolving number generation :: callbacks)) (failure : Failure) :
    ((state.failStage number failure).setResult number (.rejected failure)).Agrees callbacks := by
  have failed := agrees.failStage number failure
  refine Agrees.pop (?_ : Agrees _ (.resolving number generation :: callbacks))
  apply failed.setResult
  intro contents held
  exact not_fresh_of_result
    ((failed.stageOk held).resolving generation List.mem_cons_self).1

/-- A resolution is over. -/
theorem Agrees.settleResolution {number generation : Nat}
    (agrees : state.Agrees (.resolving number generation :: callbacks))
    (outcome : Except Failure Value) (refused : Option Failure) :
    (state.settleResolution calls number generation outcome refused).Agrees callbacks := by
  unfold Publication.settleResolution
  cases outcome with
  | error failure => exact agrees.rejected failure
  | ok value =>
    dsimp only
    rcases commit_cases calls state number generation value refused with
      ⟨failure, kept | failed⟩ | ⟨contents, grants, isOpen, committed⟩
    · rw [kept]
      exact agrees.rejected failure
    · rw [failed]
      exact (agrees.fail (some failure)).rejected failure
    · rw [committed]
      obtain ⟨record, listed, _, held, _⟩ := isOpen.record
      obtain ⟨resolving, unset⟩ :=
        (agrees.each number record contents listed held).resolving generation List.mem_cons_self
      have idle (other : Nat) : .resolving number other ∉ callbacks := fun member =>
        subject_over agrees.distinct rfl member rfl
      have coherent := Agrees.commit agrees unset (withGrants contents grants) listed held grants
        rfl rfl rfl (Or.inl resolving)
        (fun _ member => List.mem_cons_of_mem _ member) (distinct_tail agrees.distinct) idle
      rw [← committed_eq_set listed held grants] at coherent
      have after : (({ state with
          stages := state.stages.modify number (committedRecord grants) }).note
            [.factsCommitted number]).Agrees callbacks := coherent
      apply after.setResult
      intro found here
      exact not_fresh_of_grants ((after.stageOk here).committed
        (List.mem_append_right _ List.mem_cons_self))

/-- A stage of an output helper, whose facts are empty. -/
theorem Agrees.resolveEmptyOutputHelperStage (agrees : state.Agrees callbacks) (number : Nat)
    (binding : AuthorizationBinding) (refused : Option Failure) :
    (state.resolveEmptyOutputHelperStage calls number binding refused).Agrees callbacks := by
  unfold Publication.resolveEmptyOutputHelperStage
  split
  · next contents record opened listed =>
    split
    · split
      · exact agrees
      · next refusal =>
        rcases commit_cases calls state number record.generation
          (.object []) refused with ⟨failure, kept | failed⟩ | ⟨contents, grants, isOpen, committed⟩
        · rw [kept]
          exact agrees.failStage number failure
        · rw [failed]
          exact (agrees.fail (some failure)).failStage number failure
        · rw [committed]
          obtain ⟨found, here, _, held, _⟩ := isOpen.record
          have same : found = record := Option.some.inj (here.symm.trans listed)
          rw [same] at held
          have created : record.state = .created := by
            apply Decidable.byContradiction
            intro other
            exact refusal (Or.inr other)
          have fresh := agrees.fresh record (List.mem_of_getElem? listed) created contents held
          have idle (other : Nat) : .resolving number other ∉ callbacks := by
            intro member
            have some_ := ((agrees.each number record contents listed held).resolving other
              member).1
            rw [fresh.result] at some_
            contradiction
          have coherent := Agrees.commit agrees fresh.grants
            { withGrants contents grants with emptyHelperFacts := true } listed held grants
            rfl rfl rfl (Or.inr rfl) (fun _ member => member) agrees.distinct idle
          unfold Agrees Publication.modifyContents note
          dsimp only
          rw [committed_eq_set listed held grants, modify_eq_set (List.getElem?_set_self
            (List.getElem?_eq_some_iff.mp listed).1), List.set_set]
          exact coherent
    · exact agrees
  · exact agrees

theorem set_self {stages : List StageRecord} (listed : stages[number]? = some record) :
    stages.set number record = stages := by
  have same := modify_eq_set listed id
  rw [List.modify_id] at same
  exact same.symm

/-- A callback of a subject that is not in progress. -/
theorem distinct_cons {callbacks : List Activation} {subject : Nat × Option String}
    (distinct : (callbacks.filterMap Activation.subject).Nodup)
    (mine : callback.subject = some subject)
    (idle : ∀ other ∈ callbacks, other.subject ≠ some subject) :
    ((callback :: callbacks).filterMap Activation.subject).Nodup := by
  rw [List.filterMap_cons_some mine]
  apply List.nodup_cons.mpr
  refine ⟨?_, distinct⟩
  intro found
  obtain ⟨other, member, same⟩ := List.mem_filterMap.mp found
  exact idle other member same

theorem eq_resolving (same : callback.subject = some (number, none)) :
    ∃ generation, callback = .resolving number generation := by
  cases callback <;> simp_all [Activation.subject]

theorem eq_deciding (same : callback.subject = some (number, some key)) :
    ∃ binding generation, callback = .deciding number binding key generation := by
  cases callback <;> simp_all [Activation.subject]

/-- The promise of a result is made and tracked. -/
theorem Agrees.starting (agrees : state.Agrees callbacks)
    (listed : state.stages[number]? = some record) (held : record.contents = some contents) :
    Coherent (state.stages.set number { record with
        state := .resolving, contents := some { contents with result := some .pending } })
      (state.facts ++ [.tracked (.result number)]) callbacks := by
  have ok := agrees.each number record contents listed held
  have changed : Coherent (state.stages.set number { record with
      state := .resolving, contents := some { contents with result := some .pending } })
      state.facts callbacks := by
    apply Coherent.changeSilent agrees listed (fun _ member => Or.inl member) agrees.distinct
    · intro created
      contradiction
    · intro found isNext
      rw [← Option.some.inj isNext]
      exact {
        started := fun _ => rfl
        committed := ok.committed
        granted := fun _ => Or.inl rfl
        predicate := ok.predicate
        decided := ok.decided
        fulfilled := ok.fulfilled
        resolving := fun generation member => ⟨rfl, (ok.resolving generation member).2⟩
        deciding := ok.deciding }
  apply changed.notes
  · exact List.forall_mem_singleton.mpr rfl
  · intro fact member other about
    rw [List.mem_singleton.mp member] at about
    contradiction
  · intro other key value member
    exact absurd member (not_answered (fun _ _ _ => PublicationFact.noConfusion) other key value)

/-- The resolver of a stage is called for the first time. -/
theorem Agrees.resolving (agrees : state.Agrees callbacks)
    (held : state.contentsOf number = some contents) (set_ : contents.result.isSome = true)
    (unset : contents.grants = none) (unused : .resolverStarted number ∉ state.facts)
    (idle : ∀ generation, .resolving number generation ∉ callbacks) (generation : Nat) :
    Coherent state.stages (state.facts ++ [.resolverStarted number])
      (.resolving number generation :: callbacks) := by
  obtain ⟨record, listed, here⟩ := of_contentsOf held
  have ok := agrees.each number record contents listed here
  have changed : Coherent (state.stages.set number record)
      (state.facts ++ [.resolverStarted number]) (.resolving number generation :: callbacks) := by
    apply Coherent.change agrees listed
    · exact noted_about rfl
    · apply once_append agrees.once rfl
      intro old member slotted
      rw [eq_resolverStarted slotted] at member
      exact unused member
    · intro callback member
      rcases List.mem_cons.mp member with same | before
      · rw [same]
        exact Or.inr rfl
      · exact Or.inl before
    · apply distinct_cons agrees.distinct rfl
      intro other member same
      obtain ⟨later, isResolving⟩ := eq_resolving same
      rw [isResolving] at member
      exact idle later member
    · exact agrees.fresh record (List.mem_of_getElem? listed)
    · intro found isNext
      rw [here] at isNext
      rw [← Option.some.inj isNext]
      constructor
      · exact fun _ => set_
      · exact fun happened => ok.committed (mem_of_noted (by simp [PublicationFact.slot]) happened)
      · exact ok.granted
      · exact fun key happened =>
          ok.predicate key (mem_of_noted (by simp [PublicationFact.slot]) happened)
      · exact fun key value happened =>
          ok.decided key value (mem_of_noted (by simp [PublicationFact.slot]) happened)
      · intro key decision lookup fulfilled
        obtain ⟨value, isValue, happened⟩ := ok.fulfilled key decision lookup fulfilled
        exact ⟨value, isValue, List.mem_append_left _ happened⟩
      · exact fun _ _ => ⟨set_, unset⟩
      · intro binding key later member
        rcases List.mem_cons.mp member with same | member
        · contradiction
        · exact ok.deciding binding key later member
    · exact not_answered fun _ _ _ => PublicationFact.noConfusion
  rw [set_self listed] at changed
  exact changed

/-- A stage starts to resolve: the activation is added in front. -/
theorem Agrees.resolveDocumentStage (agrees : state.Agrees state.inProgress)
    (number : Nat) (copied : Except Failure Unit) :
    (state.resolveDocumentStage calls number copied).Agrees
      (state.resolveDocumentStage calls number copied).inProgress := by
  unfold Publication.resolveDocumentStage
  split
  · next contents record opened listed =>
    obtain ⟨found, here, _, held, _⟩ := (openStage_of_assertOpen opened).record
    have same : found = record := Option.some.inj (here.symm.trans listed)
    rw [same] at held
    have ok := agrees.each number record contents listed held
    split
    · exact agrees
    · next unset =>
      split
      · next empty =>
        apply agrees.setResult
        intro other isOther fresh
        rw [contentsOf_eq listed held] at isOther
        rw [Option.some.inj isOther, fresh.emptyHelperFacts] at empty
        contradiction
      · next notEmpty =>
        have inside := (List.getElem?_eq_some_iff.mp listed).1
        have stages : (state.stages.set number { record with state := .resolving }).modify
            number (fun record => { record with
              contents := record.contents.map fun contents =>
                { contents with result := some .pending } }) =
            state.stages.set number { record with
              state := .resolving
              contents := some { contents with result := some .pending } } := by
          rw [modify_eq_set (List.getElem?_set_self inside), List.set_set, held]
          rfl
        have started : Agrees ((({ state with
            stages := state.stages.set number { record with state := .resolving } }).setResult
              number .pending).track (.result number)) state.inProgress := by
          unfold Agrees Publication.setResult Publication.modifyContents track
          dsimp only
          rw [stages]
          exact agrees.starting listed held
        have begun : Publication.contentsOf ((({ state with
            stages := state.stages.set number { record with state := .resolving } }).setResult
              number .pending).track (.result number)) number =
            some { contents with result := some .pending } := by
          unfold contentsOf Publication.setResult Publication.modifyContents track
          dsimp only
          rw [stages, List.getElem?_set_self inside]
          rfl
        have notStarted : .resolverStarted number ∉
            state.facts ++ [.tracked (.result number)] := by
          intro happened
          rcases List.mem_append.mp happened with before | now
          · have some_ := ok.started before
            rw [unset] at some_
            contradiction
          · exact absurd (List.mem_singleton.mp now) (by simp)
        have ungranted : contents.grants = none := by
          cases grants : contents.grants with
          | none => rfl
          | some value =>
            rcases ok.granted (by rw [grants]; rfl) with some_ | some_
            · rw [unset] at some_
              contradiction
            · exact absurd some_ notEmpty
        have idle (generation : Nat) : .resolving number generation ∉ state.inProgress := by
          intro member
          have some_ := (ok.resolving generation member).1
          rw [unset] at some_
          contradiction
        cases copied with
        | error failure =>
          dsimp only
          have failed := started.failStage number failure
          rw [inProgress_setResult, inProgress_failStage]
          apply failed.setResult
          intro other isOther
          rw [contentsOf_failStage, begun] at isOther
          rw [← Option.some.inj isOther]
          exact not_fresh_of_result rfl
        | ok _ =>
          exact started.resolving begun rfl ungranted notStarted idle record.generation
  · exact agrees

/-- An output begins for a stage with facts. -/
theorem Agrees.beginDocumentStageOutput (agrees : state.Agrees callbacks) (number : Nat)
    (binding : AuthorizationBinding) :
    (state.beginDocumentStageOutput calls number binding).Agrees callbacks := by
  unfold Publication.beginDocumentStageOutput
  split
  · have kept (record : StageRecord) :
        StageRecord.contents { record with state := .building } = record.contents := rfl
    apply agrees.modifyRecord number kept
    intro record created
    contradiction
  · exact agrees

end Publication

end WebTsToolkit.AccessRouter
