import WebTsToolkit.OidcVault.AuthenticatorInvariant

set_option autoImplicit false

namespace WebTsToolkit.OidcVault

open Js Library

/-- A fact that neither attaches anything nor lets the request go on without an error. -/
def AuthFact.isQuiet : AuthFact → Bool
  | .reserved _ _ => true
  | .refused _ _ => true
  | .poisoned => true
  | .forwarded _ => true
  | .proceeded .requireAuth _ _ => true
  | .proceeded .requireDeviceBinding _ _ => true
  | _ => false

namespace AuthState

variable {environment : ProofEnvironment} {configuration : Nat → AuthenticatorOptions}
  {state next : AuthState}

/-- A step that changes neither the record, nor what happened, nor the work. -/
theorem Inv.frame (inv : Inv environment configuration state)
    (evidence : next.evidence = state.evidence) (facts : next.facts = state.facts)
    (work : next.work = state.work) (paused : Paused next)
    (notices : state.evidence = none → next.notices = []) :
    Inv environment configuration next where
  fresh := by
    rw [evidence, facts, work]
    exact fun none_ => ⟨(inv.fresh none_).1, (inv.fresh none_).2.1, notices none_⟩
  poisoned := by
    rw [evidence, facts]
    exact inv.poisoned
  working := by
    rw [facts, work]
    exact inv.working
  paused := paused
  attached := by
    rw [facts]
    exact inv.attached
  completed := by
    rw [facts]
    exact inv.completed
  authenticated := by
    rw [evidence, facts]
    exact inv.authenticated
  permitted := by
    rw [evidence, facts]
    exact inv.permitted
  entered := by
    rw [evidence, facts]
    exact inv.entered
  enteredOnce := by
    rw [facts]
    exact inv.enteredOnce
  outcomeOnce := by
    rw [facts]
    exact inv.outcomeOnce
  undecided := by
    rw [facts, work]
    exact inv.undecided

theorem countP_quiet {new : List AuthFact} (quiet : ∀ fact ∈ new, fact.isQuiet = true) :
    new.countP AuthFact.isEntered = 0 ∧ new.countP AuthFact.isOutcome = 0 := by
  constructor
  · apply List.countP_eq_zero.mpr
    intro fact member
    have here := quiet fact member
    cases fact <;> simp_all [AuthFact.isQuiet, AuthFact.isEntered]
  · apply List.countP_eq_zero.mpr
    intro fact member
    have here := quiet fact member
    cases fact with
    | proceeded handler owner res =>
      cases handler <;> simp_all [AuthFact.isQuiet, AuthFact.isOutcome]
    | entered credentials owner res | reserved replayKey answer => simp [AuthFact.isOutcome]
    | attached validated object fields => simp [AuthFact.isOutcome]
    | completed validated object fields => simp [AuthFact.isOutcome]
    | refused stage fault | poisoned | forwarded fault => simp [AuthFact.isOutcome]

/-- A step with quiet facts. -/
theorem Inv.quiet (inv : Inv environment configuration state) (new : List AuthFact)
    {record later : RequestAuthentication} (was : state.evidence = some record)
    (becomes : next.evidence = some later) (owner : later.owner = record.owner)
    (res : later.res = record.res) (facts : next.facts = state.facts ++ new)
    (quiet : ∀ fact ∈ new, fact.isQuiet = true)
    (poisoned : .poisoned ∈ state.facts ++ new → later.status = .failed)
    (working : WorkOk environment configuration (state.facts ++ new) next.work)
    (paused : Paused next) (authenticated : later.status = .authenticated → later = record)
    (permitted : Permitted configuration (state.facts ++ new) later)
    (undecided : next.work ≠ .ended → state.work ≠ .ended) :
    Inv environment configuration next := by
  obtain ⟨entered, outcome⟩ := countP_quiet quiet
  apply inv.change new was becomes owner res facts poisoned working paused
  · intro validated number object happened
    exact absurd (quiet _ happened) Bool.false_ne_true
  · intro validated number object happened
    exact absurd (quiet _ happened) Bool.false_ne_true
  · intro status
    have same := authenticated status
    rw [same] at status ⊢
    obtain ⟨validated, number, object, auth, snapshot, happened⟩ :=
      inv.authenticated record was status
    exact ⟨validated, number, object, auth, snapshot, List.mem_append_left new happened⟩
  · exact permitted
  · exact entered
  · rw [List.countP_append, outcome]
    exact inv.outcomeOnce
  · intro working_
    rw [List.countP_append, outcome]
    exact inv.undecided (undecided working_)

variable {record : RequestAuthentication}

theorem isPending_iff (was : state.evidence = some record) :
    state.isPending = true ↔ record.status = .pending := by
  unfold isPending
  rw [was]
  simp

/-- A pending request is not poisoned. -/
theorem Inv.unpoisoned (inv : Inv environment configuration state)
    (pending : state.isPending = true) : .poisoned ∉ state.facts := by
  intro happened
  obtain ⟨record, was, status⟩ := exists_of_isPending pending
  have failed := inv.poisoned record was happened
  rw [status] at failed
  contradiction

theorem Inv.deleteAuth (inv : Inv environment configuration state)
    (deleted : state.deleteAuth = some next) : Inv environment configuration next := by
  rw [deleteAuth_eq deleted]
  refine inv.frame rfl rfl rfl ?_ ?_
  · exact fun unchecked => ⟨(inv.paused unchecked).1, fun _ => rfl⟩
  · exact fun none_ => (inv.fresh none_).2.2

theorem abandon_shape (state : AuthState) :
    state.abandon.evidence = state.evidence ∧ state.abandon.facts = state.facts := by
  unfold AuthState.abandon
  cases deleted : state.deleteAuth with
  | none => exact ⟨rfl, rfl⟩
  | some next =>
    rw [deleteAuth_eq deleted]
    exact ⟨rfl, rfl⟩

/-- An authentication that is no longer pending ends. -/
theorem Inv.abandon (inv : Inv environment configuration state)
    (was : state.evidence = some record) : Inv environment configuration state.abandon := by
  have nothing : state.facts ++ [] = state.facts := List.append_nil state.facts
  have same := abandon_shape state
  apply inv.quiet [] was (same.1.trans was) rfl rfl
  · rw [nothing]
    exact same.2
  · exact fun fact member => absurd member List.not_mem_nil
  · rw [nothing]
    exact inv.poisoned record was
  · exact trivial
  · exact paused_of_checked rfl
  · exact fun _ => rfl
  · rw [nothing]
    exact inv.permitted record was
  · exact fun active => absurd rfl active

/-- What `fail` makes of a record. -/
def failedStatus (options : AuthenticatorOptions) (stage : Stage) (fault : Fault)
    (challenge : Bool) : AuthenticationStatus :=
  if (options.optional && options.anonymous && isRejection stage fault && !challenge) = true then
    .invalid
  else if challenge = true then .challenged else .failed

theorem failedStatus_ne (options : AuthenticatorOptions) (stage : Stage) (fault : Fault)
    (challenge : Bool) : failedStatus options stage fault challenge ≠ .authenticated ∧
      failedStatus options stage fault challenge ≠ .missing := by
  unfold failedStatus
  split
  · exact ⟨AuthenticationStatus.noConfusion, AuthenticationStatus.noConfusion⟩
  · split
    · exact ⟨AuthenticationStatus.noConfusion, AuthenticationStatus.noConfusion⟩
    · exact ⟨AuthenticationStatus.noConfusion, AuthenticationStatus.noConfusion⟩

theorem fail_shape (options : AuthenticatorOptions) (state : AuthState) (stage : Stage)
    (fault : Fault) (challenge : Bool) :
    (state.fail options stage fault challenge).evidence = state.evidence.map (fun record =>
      { record with status := failedStatus options stage fault challenge }) ∧
    (state.fail options stage fault challenge).facts = state.facts ++ [.refused stage fault] ∧
    ((state.fail options stage fault challenge).work = .ended ∨
      (state.fail options stage fault challenge).work = .notifying fault
        (options.optional && options.anonymous && isRejection stage fault && !challenge)) := by
  unfold fail
  dsimp only
  split
  · next deleted same =>
    rw [deleteAuth_eq same]
    exact ⟨rfl, rfl, Or.inr rfl⟩
  · exact ⟨rfl, rfl, Or.inl rfl⟩

/-- A pending authentication fails. -/
theorem Inv.fail (inv : Inv environment configuration state) (pending : state.isPending = true)
    (was : state.evidence = some record) (active : state.work ≠ .ended) (stage : Stage)
    (fault : Fault) (challenge : Bool) :
    Inv environment configuration
      (state.fail (configuration record.owner) stage fault challenge) := by
  obtain ⟨evidence, facts, work⟩ :=
    fail_shape (configuration record.owner) state stage fault challenge
  obtain ⟨notAuthenticated, notMissing⟩ :=
    failedStatus_ne (configuration record.owner) stage fault challenge
  rw [was, Option.map_some] at evidence
  apply inv.quiet [.refused stage fault] was evidence rfl rfl facts
  · exact List.forall_mem_singleton.mpr rfl
  · intro happened
    rcases List.mem_append.mp happened with before | now
    · exact absurd before (inv.unpoisoned pending)
    · exact absurd (List.mem_singleton.mp now) AuthFact.noConfusion
  · rcases work with over_ | notifying
    · rw [over_]
      exact trivial
    · rw [notifying]
      exact trivial
  · apply paused_of_checked
    rcases work with over_ | notifying
    · rw [over_]
      rfl
    · rw [notifying]
      rfl
  · exact fun status => absurd status notAuthenticated
  · refine ⟨fun status => absurd status notMissing, ?_⟩
    intro status
    have invalid : failedStatus (configuration record.owner) stage fault challenge = .invalid :=
      status
    unfold failedStatus at invalid
    split at invalid
    · next condition =>
      simp only [Bool.and_eq_true] at condition
      exact ⟨condition.1.1.2, stage, fault, List.mem_append_right _ List.mem_cons_self,
        condition.1.2⟩
    · split at invalid
      · contradiction
      · contradiction
  · exact fun _ => active

theorem veto_shape (fault : Fault) (pending : state.isPending = true) :
    (state.veto fault).evidence = state.evidence.map (fun record =>
      { record with status := .failed }) ∧
    (state.veto fault).facts = state.facts ∧
    ((state.veto fault).work = .ended ∨ (state.veto fault).work = .notifying fault false) := by
  unfold veto
  dsimp only
  rw [if_neg (by simpa using pending)]
  split
  · next deleted same =>
    rw [deleteAuth_eq same]
    exact ⟨rfl, rfl, Or.inr rfl⟩
  · exact ⟨rfl, rfl, Or.inl rfl⟩

/-- The hook refuses a pending authentication. -/
theorem Inv.veto (inv : Inv environment configuration state) (was : state.evidence = some record)
    (pending : state.isPending = true) (active : state.work ≠ .ended) (fault : Fault) :
    Inv environment configuration (state.veto fault) := by
  have nothing : state.facts ++ [] = state.facts := List.append_nil state.facts
  obtain ⟨evidence, facts, work⟩ := veto_shape fault pending
  rw [was, Option.map_some] at evidence
  apply inv.quiet [] was evidence rfl rfl
  · rw [nothing]
    exact facts
  · exact fun fact member => absurd member List.not_mem_nil
  · exact fun _ => rfl
  · rcases work with over_ | notifying
    · rw [over_]
      exact trivial
    · rw [notifying]
      exact trivial
  · apply paused_of_checked
    rcases work with over_ | notifying
    · rw [over_]
      rfl
    · rw [notifying]
      rfl
  · intro status
    contradiction
  · constructor
    · intro status
      contradiction
    · intro status
      contradiction
  · exact fun _ => active

/-- Nothing is let pass. -/
def Grown (state next : AuthState) : Prop :=
  ∃ new, next.facts = state.facts ++ new ∧
    ∀ fact ∈ new, ∀ handler owner res, fact ≠ .proceeded handler owner res

theorem Grown.refl : Grown state state := by
  refine ⟨[], (List.append_nil _).symm, ?_⟩
  intro fact member
  exact absurd member List.not_mem_nil

theorem Grown.of_facts {middle : AuthState} (grown : Grown middle next)
    (facts : middle.facts = state.facts) : Grown state next := by
  obtain ⟨new, same, own⟩ := grown
  exact ⟨new, same.trans (by rw [facts]), own⟩

theorem grown_fail (options : AuthenticatorOptions) (stage : Stage) (fault : Fault)
    (challenge : Bool) : Grown state (state.fail options stage fault challenge) := by
  refine ⟨[.refused stage fault], (fail_shape options state stage fault challenge).2.1, ?_⟩
  intro fact member handler owner res same
  rw [List.mem_singleton.mp member] at same
  contradiction

theorem grown_veto (fault : Fault) (pending : state.isPending = true) :
    Grown state (state.veto fault) := by
  obtain ⟨new, same, own⟩ : Grown state state := Grown.refl
  exact ⟨new, (veto_shape fault pending).2.1.trans same, own⟩

theorem grown_abandon : Grown state state.abandon := by
  obtain ⟨new, same, own⟩ : Grown state state := Grown.refl
  exact ⟨new, (abandon_shape state).2.trans same, own⟩

structure Goes (environment : ProofEnvironment) (configuration : Nat → AuthenticatorOptions)
    (state next : AuthState) : Prop where
  inv : Inv environment configuration next
  grown : Grown state next

/-- A pending authentication of a record. -/
structure Active (environment : ProofEnvironment) (configuration : Nat → AuthenticatorOptions)
    (state : AuthState) (record : RequestAuthentication) : Prop where
  inv : Inv environment configuration state
  pending : state.isPending = true
  was : state.evidence = some record
  active : state.work ≠ .ended

theorem Active.fail (active : Active environment configuration state record) (stage : Stage)
    (fault : Fault) (challenge : Bool) : Goes environment configuration state
      (state.fail (configuration record.owner) stage fault challenge) :=
  ⟨active.inv.fail active.pending active.was active.active stage fault challenge,
    grown_fail _ stage fault challenge⟩

theorem Active.veto (active : Active environment configuration state record) (fault : Fault) :
    Goes environment configuration state (state.veto fault) :=
  ⟨active.inv.veto active.was active.pending active.active fault, grown_veto fault active.pending⟩

theorem Active.deleteAuth (active : Active environment configuration state record)
    (deleted : state.deleteAuth = some next) : Active environment configuration next record := by
  have inv := active.inv.deleteAuth deleted
  have same := deleteAuth_eq deleted
  subst same
  exact ⟨inv, active.pending, active.was, active.active⟩

theorem Active.alloc (active : Active environment configuration state record)
    (object : AuthObject) :
    Active environment configuration (state.alloc object) record where
  __ := active
  inv := active.inv.frame rfl rfl rfl active.inv.paused fun none_ => (active.inv.fresh none_).2.2

/-- The authentication waits for other code. -/
theorem Active.await (active : Active environment configuration state record) {work : Work}
    (ok : WorkOk environment configuration state.facts work) (going : work.isMissing = false) :
    Goes environment configuration state { state with work } := by
  have nothing : state.facts ++ [] = state.facts := List.append_nil state.facts
  have evidence : AuthState.evidence { state with work } = some record := active.was
  have facts : AuthState.facts { state with work } = state.facts ++ [] := nothing.symm
  refine ⟨?_, Grown.refl⟩
  apply active.inv.quiet [] active.was evidence rfl rfl facts
  · exact fun fact member => absurd member List.not_mem_nil
  · rw [nothing]
    exact active.inv.poisoned record active.was
  · rw [nothing]
    exact ok
  · intro _
    refine ⟨active.pending, fun missing => ?_⟩
    have isMissing : work.isMissing = true := missing
    rw [going] at isMissing
    contradiction
  · exact fun _ => rfl
  · rw [nothing]
    exact active.inv.permitted record active.was
  · exact fun _ => active.active

/-- Something is thrown while the authentication is pending. -/
theorem Active.caught (active : Active environment configuration state record) (stage : Stage)
    (fault : Fault) (challenge : Bool) :
    Goes environment configuration state (state.caught stage fault challenge) := by
  unfold AuthState.caught
  rw [if_pos active.pending]
  exact active.await trivial rfl

/-- The context of a credential that may be attached is attached, and the hook is called. -/
theorem Active.hooking (active : Active environment configuration state record)
    {validated : Validated} (ok : AttachedOk environment configuration state.facts validated)
    {number : Nat} (evidence : next.evidence = some record) (facts : next.facts =
      state.facts ++ [.attached validated number (validated.object validated.fields)])
    (work : next.work = .hooking validated number) : Goes environment configuration state next := by
  have unchanged := active.inv.undecided active.active
  refine ⟨?_, _, facts, ?_⟩
  · apply active.inv.change _ active.was evidence rfl rfl facts
    · intro happened
      rcases List.mem_append.mp happened with before | now
      · exact absurd before (active.inv.unpoisoned active.pending)
      · exact absurd (List.mem_singleton.mp now) AuthFact.noConfusion
    · rw [work]
      exact ok.mono _
    · apply paused_of_checked
      rw [work]
      rfl
    · intro validated' number object happened
      obtain ⟨sameValidated, _, sameObject⟩ :=
        AuthFact.attached.inj (List.mem_singleton.mp happened)
      rw [sameValidated, sameObject]
      exact ⟨ok.mono _, validated.fields, rfl⟩
    · intro validated' number object happened
      exact absurd (List.mem_singleton.mp happened) AuthFact.noConfusion
    · intro status
      have pending := (isPending_iff active.was).mp active.pending
      rw [pending] at status
      contradiction
    · exact (active.inv.permitted record active.was).mono _
    · rfl
    · rw [List.countP_append, unchanged]
      exact Nat.zero_le 1
    · intro _
      rw [List.countP_append, unchanged]
      rfl
  · intro fact member handler owner res proceeds
    rw [List.mem_singleton.mp member] at proceeds
    contradiction

theorem Active.attach (active : Active environment configuration state record)
    {validated : Validated} (ok : AttachedOk environment configuration state.facts validated) :
    Goes environment configuration state (state.attach validated) := by
  have allocated := active.alloc (validated.object validated.fields)
  unfold AuthState.attach
  dsimp only
  split
  · split
    · next assigned same =>
      obtain ⟨slot, isAssigned, _⟩ := assignAuth_eq same
      rw [isAssigned]
      exact active.hooking ok active.was rfl rfl
    · obtain ⟨inv, grown⟩ := allocated.caught .proof .typeError false
      exact ⟨inv, grown.of_facts rfl⟩
  · have waiting : WorkOk environment configuration state.facts
        (.assigning validated state.objects.length) := trivial
    obtain ⟨inv, grown⟩ := allocated.await waiting rfl
    exact ⟨inv, grown.of_facts rfl⟩

/-- The credential of the request is that of its record. -/
theorem Inv.owner (inv : Inv environment configuration state) (was : state.evidence = some record)
    {credential : Credential} (ok : CredentialOk configuration state.facts credential) :
    credential.owner = record.owner ∧ credential.res = record.res := by
  obtain ⟨found, same, owner, res⟩ := inv.entered _ _ _ ok.entered
  rw [was] at same
  rw [Option.some.inj same]
  exact ⟨owner.symm, res.symm⟩

theorem Active.presentProof (active : Active environment configuration state record)
    {validated : Validated} (ok : ValidatedOk configuration state.facts validated)
    (unbound : validated.deviceBinding = none) :
    Goes environment configuration state (state.presentProof validated) := by
  unfold AuthState.presentProof
  split
  · exact active.await trivial rfl
  · split
    · exact active.caught .proof _ false
    · next unconfirmed =>
      refine active.await ?_ rfl
      refine ⟨ok, ?_, fun _ => unbound⟩
      intro jkt confirmed
      rw [confirmed] at unconfirmed
      exact absurd rfl unconfirmed
  · next proof presented => exact active.await ⟨ok, unbound, presented⟩ rfl

theorem Active.checkConfirmation (active : Active environment configuration state record)
    {validated : Validated}
    (credential : CredentialOk configuration state.facts validated.credential)
    (unbound : validated.deviceBinding = none) :
    Goes environment configuration state
      (state.checkConfirmation (configuration record.owner) validated) := by
  have owner := (active.inv.owner active.was credential).1
  unfold AuthState.checkConfirmation
  split
  · next unconfigured =>
    split
    · exact active.caught .proof _ false
    · next unconfirmed =>
      have absent : validated.confirmation.join = none := by
        cases found : validated.confirmation.join with
        | none => rfl
        | some jkt =>
          rw [found] at unconfirmed
          exact absurd rfl unconfirmed
      have bearer : validated.credential.scheme = .bearer := by
        have read := credential.read
        rw [owner] at read
        unfold readCredential at read
        rw [unconfigured] at read
        dsimp only at read
        split at read
        · contradiction
        · obtain ⟨token, _, same⟩ := map_eq_ok read
          exact (Prod.mk.inj same).1.symm
      refine active.await ?_ rfl
      refine ⟨⟨credential, ?_, ?_⟩, ?_, fun _ => unbound⟩
      · rw [absent, bearer]
        exact ⟨fun some_ => absurd some_ Bool.false_ne_true, Scheme.noConfusion⟩
      · rw [absent]
        exact fun some_ => absurd some_ Bool.false_ne_true
      · intro jkt confirmed
        rw [absent] at confirmed
        contradiction
  · next policy configured =>
    have hasPolicy : (configuration validated.credential.owner).policy.isSome = true := by
      rw [owner, configured]
      rfl
    split
    · exact active.caught .proof _ false
    · exact active.caught .proof _ false
    · next absent bearer =>
      split
      · exact active.caught .proof _ false
      · apply active.presentProof ⟨credential, ?_, fun _ => hasPolicy⟩ unbound
        rw [absent, bearer]
        exact ⟨fun some_ => absurd some_ Bool.false_ne_true, Scheme.noConfusion⟩
    · next jkt confirmed dpop =>
      apply active.presentProof ⟨credential, ?_, fun _ => hasPolicy⟩ unbound
      rw [confirmed, dpop]
      exact ⟨fun _ => rfl, fun _ => rfl⟩

/-- The validator is over. -/
theorem Inv.validated (inv : Inv environment configuration state)
    (was : state.evidence = some record) {credential : Credential}
    (working : state.work = .validating credential)
    (outcome : Except (Fault × Bool) ValidationResult) :
    Goes environment configuration state
      (state.validated (configuration credential.owner) credential outcome) := by
  have ok : CredentialOk configuration state.facts credential := by
    have working_ := inv.working
    rw [working] at working_
    exact working_
  have owner := (inv.owner was ok).1
  rw [owner]
  unfold AuthState.validated
  split
  · exact ⟨inv.abandon was, grown_abandon⟩
  · next pending =>
    have active : Active environment configuration state record := {
      inv := inv
      pending := by simpa using pending
      was := was
      active := by
        rw [working]
        exact Work.noConfusion }
    split
    · exact active.caught _ _ false
    · split
      · exact active.caught _ _ false
      · next cleared deleted =>
        have later := active.deleteAuth deleted
        have facts : cleared.facts = state.facts := by rw [deleteAuth_eq deleted]
        split
        · next fault _ =>
          have failed := later.caught .result fault false
          exact ⟨failed.inv, failed.grown.of_facts facts⟩
        · next read _ =>
          have kept : CredentialOk configuration cleared.facts credential := by
            rw [facts]
            exact ok
          let found : Validated :=
            { credential, fields := read.1, confirmation := read.2, deviceBinding := none }
          have credentialOk : CredentialOk configuration cleared.facts found.credential :=
            kept
          have goes := later.checkConfirmation credentialOk rfl
          exact ⟨goes.inv, goes.grown.of_facts facts⟩

end AuthState

end WebTsToolkit.OidcVault
