import WebTsToolkit.OidcVault.AuthenticatorProof

set_option autoImplicit false

namespace WebTsToolkit.OidcVault

open Js Library

namespace AuthState

variable {environment : ProofEnvironment} {configuration : Nat → AuthenticatorOptions}
  {state next : AuthState}

/-- What a guard has seen where it lets a request pass. -/
structure Passed (state : AuthState) (owner res : Nat) (bound : Bool) (validated : Validated)
    (object : AuthObject) : Prop where
  authenticated : ∃ record, state.evidence = some record ∧ record.status = .authenticated
  completed : ∃ number slot fields, .completed validated number object ∈ state.facts ∧
    state.slot = some slot ∧ slot.held = .auth number ∧ state.objects[number]? = some fields ∧
    fields = object ∧ ∀ field, fields field ≠ some .accessor
  owner : validated.credential.owner = owner
  res : validated.credential.res = res
  bound : bound = true → validated.confirmation.join.isSome = true ∧
    validated.deviceBinding.isSome = true

/-- What may happen to a request. -/
def Allowed (state : AuthState) : AuthFact → Prop
  | .attached _ _ _ => state.isPending = true
  | .completed _ _ _ => state.isPending = true
  | .proceeded .authenticate _ _ => state.evidence = none ∨
      ∃ record, state.evidence = some record ∧ record.status ≠ .failed
  | .proceeded .requireAuth owner res =>
    ∃ validated object, Passed state owner res false validated object
  | .proceeded .requireDeviceBinding owner res =>
    ∃ validated object, Passed state owner res true validated object
  | _ => True

/-- How a request goes on from its authentication. -/
def GoesOn (next : AuthState) (owner res : Nat) : Prop :=
  ∃ record, next.evidence = some record ∧ record.owner = owner ∧ record.res = res ∧
    ((record.status = .authenticated ∧ ∃ number slot, record.auth = some number ∧
        next.slot = some slot ∧ slot.held = .auth number) ∨
      (record.status = .missing ∧ next.slot = none) ∨
      (record.status = .invalid ∧ next.slot = none))

/-- What one step does. -/
structure StepOk (environment : ProofEnvironment) (configuration : Nat → AuthenticatorOptions)
    (state next : AuthState) : Prop where
  inv : Inv environment configuration next
  facts : ∃ new, next.facts = state.facts ++ new ∧ (∀ fact ∈ new, state.Allowed fact) ∧
    ∀ owner res, .proceeded .authenticate owner res ∈ new → GoesOn next owner res

/-- Quiet facts may always happen. -/
theorem allowed_of_quiet {fact : AuthFact} (quiet : fact.isQuiet = true)
    (unguarded : ∀ handler owner res, fact ≠ .proceeded handler owner res) :
    state.Allowed fact := by
  cases fact with
  | entered credentials owner res | reserved replayKey answer => exact trivial
  | attached validated object fields | completed validated object fields => contradiction
  | refused stage fault | poisoned => exact trivial
  | proceeded handler owner res => exact absurd rfl (unguarded handler owner res)
  | forwarded fault => exact trivial

/-- A step of the authentication that lets nothing pass. -/
theorem stepOk_of_goes (goes : Goes environment configuration state next)
    (unchanged : next.facts = state.facts ∨ state.isPending = true ∨
      ∃ fact, next.facts = state.facts ++ [fact] ∧ fact.isQuiet = true) :
    StepOk environment configuration state next := by
  obtain ⟨new, same, silent⟩ := goes.grown
  refine ⟨goes.inv, new, same, ?_, ?_⟩
  · intro fact member
    rcases unchanged with kept | pending | ⟨quiet, appended, isQuiet⟩
    · have none_ : new = [] := by
        have lengths := congrArg List.length (same.symm.trans kept)
        rw [List.length_append] at lengths
        apply List.eq_nil_of_length_eq_zero
        omega
      rw [none_] at member
      exact absurd member List.not_mem_nil
    · cases fact with
      | entered credentials owner res | reserved replayKey answer => exact trivial
      | attached validated object fields | completed validated object fields => exact pending
      | refused stage fault | poisoned => exact trivial
      | proceeded handler owner res => exact absurd rfl (silent _ member handler owner res)
      | forwarded fault => exact trivial
    · have only : new = [quiet] := List.append_cancel_left (same.symm.trans appended)
      rw [only] at member
      rw [List.mem_singleton.mp member]
      apply allowed_of_quiet isQuiet
      intro handler owner res proceeds
      exact silent quiet (by rw [only]; exact List.mem_cons_self) handler owner res proceeds
  · intro owner res member
    exact absurd rfl (silent _ member .authenticate owner res)

/-- A guard or a second authentication fails the request. -/
theorem poison_shape (state : AuthState) (fault : Fault) :
    (state.poison fault).evidence = state.evidence.map (fun record =>
      { record with status := .failed }) ∧
    (state.poison fault).facts = state.facts ++ [.poisoned] ∧
    (state.poison fault).work = state.work := by
  unfold poison
  dsimp only
  split
  · next cleared same =>
    rw [deleteAuth_eq same]
    exact ⟨rfl, rfl, rfl⟩
  · exact ⟨rfl, rfl, rfl⟩

variable {record : RequestAuthentication}

theorem Inv.poison (inv : Inv environment configuration state)
    (was : state.evidence = some record) (checked : state.work.isUnchecked = false)
    (fault : Fault) : Inv environment configuration (state.poison fault) := by
  obtain ⟨evidence, facts, work⟩ := poison_shape state fault
  rw [was, Option.map_some] at evidence
  apply inv.quiet [.poisoned] was evidence rfl rfl facts
  · exact List.forall_mem_singleton.mpr rfl
  · exact fun _ => rfl
  · rw [work]
    exact inv.working.mono _
  · apply paused_of_checked
    rw [work]
    exact checked
  · intro status
    contradiction
  · constructor
    · intro status
      contradiction
    · intro status
      contradiction
  · rw [work]
    exact id

/-- A step with one quiet fact that no handler lets pass. -/
theorem stepOk_of_quiet (fact : AuthFact) (inv : Inv environment configuration next)
    (facts : next.facts = state.facts ++ [fact]) (quiet : fact.isQuiet = true)
    (silent : ∀ handler owner res, fact ≠ .proceeded handler owner res) :
    StepOk environment configuration state next := by
  refine ⟨inv, [fact], facts, ?_, ?_⟩
  · exact List.forall_mem_singleton.mpr (allowed_of_quiet quiet silent)
  · intro owner res member
    exact absurd (List.mem_singleton.mp member).symm (silent .authenticate owner res)

theorem stepOk_of_same (inv : Inv environment configuration next)
    (facts : next.facts = state.facts) : StepOk environment configuration state next := by
  refine ⟨inv, [], ?_, ?_, ?_⟩
  · rw [List.append_nil]
    exact facts
  · exact fun fact member => absurd member List.not_mem_nil
  · exact fun owner res member => absurd member List.not_mem_nil

theorem stepOk_poison (inv : Inv environment configuration state)
    (was : state.evidence = some record) (checked : state.work.isUnchecked = false)
    (fault : Fault) : StepOk environment configuration state (state.poison fault) :=
  stepOk_of_quiet .poisoned (inv.poison was checked fault) (poison_shape state fault).2.1 rfl
    fun _ _ _ => AuthFact.noConfusion

/-- A guard rejects a request that nothing has authenticated. -/
theorem stepOk_rejectFirst (inv : Inv environment configuration state)
    (absent : state.evidence = none) (owner res : Nat) (fault : Fault) :
    StepOk environment configuration state ({ state with
      evidence := some { owner, res, status := .failed, auth := none, snapshot := none } }.poison
        fault) := by
  obtain ⟨evidence, facts, work⟩ := poison_shape { state with
    evidence := some { owner, res, status := .failed, auth := none, snapshot := none } } fault
  obtain ⟨noFacts, idle, _⟩ := inv.fresh absent
  have only : (AuthState.poison { state with
      evidence := some { owner, res, status := .failed, auth := none, snapshot := none } }
        fault).facts = [.poisoned] := by
    rw [facts]
    show state.facts ++ [.poisoned] = [AuthFact.poisoned]
    rw [noFacts]
    rfl
  have isIdle : (AuthState.poison { state with
      evidence := some { owner, res, status := .failed, auth := none, snapshot := none } }
        fault).work = .idle := work.trans idle
  refine stepOk_of_quiet .poisoned ?_ facts rfl fun _ _ _ => AuthFact.noConfusion
  constructor
  · intro none_
    rw [evidence] at none_
    contradiction
  · intro record same _
    rw [evidence] at same
    rw [← Option.some.inj same]
  · rw [isIdle]
    exact trivial
  · apply paused_of_checked
    rw [isIdle]
    rfl
  · intro validated number object happened
    rw [only] at happened
    exact absurd (List.mem_singleton.mp happened) AuthFact.noConfusion
  · intro validated number object happened
    rw [only] at happened
    exact absurd (List.mem_singleton.mp happened) AuthFact.noConfusion
  · intro record same status
    rw [evidence] at same
    rw [← Option.some.inj same] at status
    contradiction
  · intro record same
    rw [evidence] at same
    rw [← Option.some.inj same]
    constructor
    · intro status
      contradiction
    · intro status
      contradiction
  · intro presented owner_ res_ happened
    rw [only] at happened
    exact absurd (List.mem_singleton.mp happened) AuthFact.noConfusion
  · rw [only]
    exact Nat.zero_le 1
  · rw [only]
    exact Nat.zero_le 1
  · intro _
    rw [only]
    rfl

theorem stepOk_rejectGuard (inv : Inv environment configuration state)
    (checked : state.work.isUnchecked = false) (owner res : Nat) :
    StepOk environment configuration state (state.rejectGuard owner res) := by
  unfold rejectGuard
  split
  · next record was => exact stepOk_poison inv was checked _
  · next absent => exact stepOk_rejectFirst inv absent owner res _

theorem sameField_iff {expected found : Option FieldProperty} :
    sameField expected found = true ↔ found = expected ∧ found ≠ some .accessor := by
  unfold sameField
  cases expected with
  | none =>
    dsimp only
    rw [beq_iff_eq]
    constructor
    · intro absent
      rw [absent]
      exact ⟨rfl, by simp⟩
    · exact fun same => same.1
  | some property =>
    dsimp only
    rw [Bool.and_eq_true, beq_iff_eq, bne_iff_ne]
    constructor
    · intro same
      rw [same.1]
      exact ⟨rfl, by simpa using same.2⟩
    · intro same
      obtain ⟨equal, plain⟩ := same
      rw [equal] at plain
      exact ⟨equal, by simpa using plain⟩

/-- What is attached is there, unchanged. -/
theorem intact_iff (intact : state.intact record = true) :
    ∃ number snapshot slot object, record.auth = some number ∧ record.snapshot = some snapshot ∧
      state.slot = some slot ∧ slot.held = .auth number ∧ state.objects[number]? = some object ∧
      object = snapshot ∧ ∀ field, object field ≠ some .accessor := by
  unfold AuthState.intact at intact
  split at intact
  · next number snapshot slot auth taken held =>
    rw [Bool.and_eq_true] at intact
    obtain ⟨same, fields⟩ := intact
    split at fields
    · next object found =>
      have each (field : AuthField) : object field = snapshot field ∧
          object field ≠ some .accessor := by
        apply sameField_iff.mp
        apply List.all_eq_true.mp fields
        cases field <;> simp [authFields]
      refine ⟨number, snapshot, slot, object, auth, taken, held, by simpa using same, found,
        ?_, fun field => (each field).2⟩
      funext field
      exact (each field).1
    · contradiction
  · contradiction

theorem deviceBinding_isSome {validated : Validated} (fields : MappedFields)
    (bound : ((validated.object fields) .deviceBinding).isSome = true) :
    validated.deviceBinding.isSome = true := by
  cases found : validated.deviceBinding with
  | some binding => rfl
  | none =>
    have none_ : (validated.object fields) .deviceBinding = none := by
      show validated.deviceBindingValue.map FieldProperty.data = none
      unfold Validated.deviceBindingValue
      rw [found]
      rfl
    rw [none_] at bound
    contradiction

/-- A guard lets only what it has seen pass. -/
theorem stepOk_guard (inv : Inv environment configuration state)
    (checked : state.work.isUnchecked = false) (owner res : Nat) (bound : Bool) :
    StepOk environment configuration state (state.guard owner res bound) := by
  unfold AuthState.guard
  split
  · next record was =>
    split
    · next condition =>
      simp only [Bool.and_eq_true, decide_eq_true_eq, beq_iff_eq] at condition
      obtain ⟨⟨⟨status, isOwner⟩, isRes⟩, intact⟩ := condition
      split
      · exact stepOk_poison inv was checked _
      · next allowed =>
        obtain ⟨number, snapshot, slot, object, auth, taken, held, isHeld, found, same,
          plain⟩ := intact_iff intact
        obtain ⟨validated, number', object', auth', taken', happened⟩ :=
          inv.authenticated record was status
        have sameNumber : number' = number := Option.some.inj (auth'.symm.trans auth)
        have sameObject : object' = snapshot := Option.some.inj (taken'.symm.trans taken)
        rw [sameNumber, sameObject] at happened
        obtain ⟨ok, fields, shape⟩ :=
          inv.attached _ _ _ (inv.completed _ _ _ happened)
        obtain ⟨itsOwner, itsRes⟩ := inv.owner was ok.credential
        have passed : Passed state owner res bound validated object := {
          authenticated := ⟨record, was, status⟩
          completed := ⟨number, slot, object, by rw [same]; exact happened, held, isHeld,
            found, rfl, plain⟩
          owner := itsOwner.trans isOwner
          res := itsRes.trans isRes
          bound := by
            intro isBound
            have binding : validated.deviceBinding.isSome = true := by
              apply deviceBinding_isSome fields
              rw [← shape]
              rw [isBound, taken] at allowed
              cases binding : snapshot .deviceBinding with
              | some property => rfl
              | none => exact absurd (by simp [binding]) allowed
            refine ⟨?_, binding⟩
            cases confirmed : validated.confirmation.join with
            | some jkt => rfl
            | none =>
              rw [ok.unbound confirmed] at binding
              contradiction }
        have noted : Inv environment configuration (state.note (.proceeded
            (if bound = true then .requireDeviceBinding else .requireAuth) owner res)) := by
          apply inv.noteQuiet was
          · cases bound with
            | true | false => rfl
          · exact AuthFact.noConfusion
        refine ⟨noted, _, rfl, ?_, ?_⟩
        · intro fact member
          rw [List.mem_singleton.mp member]
          cases bound with
          | true | false => exact ⟨validated, object, passed⟩
        · intro owner_ res_ member
          have equal := List.mem_singleton.mp member
          cases bound with
          | true | false => exact absurd (AuthFact.proceeded.inj equal).1 Handler.noConfusion
    · exact stepOk_rejectGuard inv checked owner res
  · exact stepOk_rejectGuard inv checked owner res

theorem deleteAuth_facts (deleted : state.deleteAuth = some next) :
    next.facts = state.facts ∧ next.evidence = state.evidence ∧ next.work = state.work ∧
      next.slot = none := by
  rw [deleteAuth_eq deleted]
  exact ⟨rfl, rfl, rfl, rfl⟩

/-- The observer of a guard or of a second authentication is over. -/
theorem stepOk_noticed (inv : Inv environment configuration state)
    (was : state.evidence = some record) (notices : List Fault) (fault : Fault)
    (headersSent : Bool) : StepOk environment configuration state
      ({ state with notices }.noticed fault headersSent) := by
  have framed : Inv environment configuration { state with notices } :=
    inv.frame rfl rfl rfl inv.paused fun none_ => by
      rw [was] at none_
      contradiction
  unfold AuthState.noticed
  split
  · exact stepOk_of_same framed rfl
  · next cleared deleted =>
    have later := framed.deleteAuth deleted
    obtain ⟨facts, evidence, _, _⟩ := deleteAuth_facts deleted
    cases headersSent with
    | true =>
      refine stepOk_of_quiet (.forwarded fault) (later.noteQuiet (evidence.trans was) rfl
        AuthFact.noConfusion) ?_ rfl fun _ _ _ => AuthFact.noConfusion
      show cleared.facts ++ [.forwarded fault] = state.facts ++ [.forwarded fault]
      rw [facts]
    | false => exact stepOk_of_same later facts

/-- A request goes on without authentication. -/
theorem stepOk_goesOn (inv : Inv environment configuration state)
    {record later : RequestAuthentication} (was : state.evidence = some record)
    (active : state.work ≠ .ended) (becomes : next.evidence = some later)
    (owner : later.owner = record.owner) (res : later.res = record.res)
    (facts : next.facts = state.facts ++ [.proceeded .authenticate record.owner record.res])
    (over_ : next.work = .ended) (slot : next.slot = none) (notFailed : record.status ≠ .failed)
    (status : later.status = .missing ∨ later.status = .invalid)
    (permitted : Permitted configuration
      (state.facts ++ [.proceeded .authenticate record.owner record.res]) later) :
    StepOk environment configuration state next := by
  have unchanged := inv.undecided active
  refine ⟨?_, _, facts, ?_, ?_⟩
  · apply inv.change _ was becomes owner res facts
    · intro happened
      rcases List.mem_append.mp happened with before | now
      · exact absurd (inv.poisoned record was before) notFailed
      · exact absurd (List.mem_singleton.mp now) AuthFact.noConfusion
    · rw [over_]
      exact trivial
    · apply paused_of_checked
      rw [over_]
      rfl
    · intro validated number object happened
      exact absurd (List.mem_singleton.mp happened) AuthFact.noConfusion
    · intro validated number object happened
      exact absurd (List.mem_singleton.mp happened) AuthFact.noConfusion
    · intro authenticated
      rcases status with missing | invalid
      · rw [missing] at authenticated
        contradiction
      · rw [invalid] at authenticated
        contradiction
    · exact permitted
    · rfl
    · rw [List.countP_append, unchanged]
      exact Nat.le_refl 1
    · exact fun notOver => absurd over_ notOver
  · exact List.forall_mem_singleton.mpr (Or.inr ⟨record, was, notFailed⟩)
  · intro owner_ res_ member
    obtain ⟨_, isOwner, isRes⟩ := AuthFact.proceeded.inj (List.mem_singleton.mp member)
    exact ⟨later, becomes, owner.trans isOwner.symm, res.trans isRes.symm,
      Or.inr (status.imp (fun missing => ⟨missing, slot⟩) fun invalid => ⟨invalid, slot⟩)⟩

/-- The error observer of the authentication is over. -/
theorem stepOk_notified (inv : Inv environment configuration state)
    (was : state.evidence = some record) {fault : Fault} {anonymous : Bool}
    (working : state.work = .notifying fault anonymous) (headersSent : Bool) :
    StepOk environment configuration state (state.notified fault anonymous headersSent) := by
  have nothing : state.facts ++ [] = state.facts := List.append_nil state.facts
  have active : state.work ≠ .ended := by
    rw [working]
    exact Work.noConfusion
  have ended {middle : AuthState} (evidence : middle.evidence = state.evidence)
      (facts : middle.facts = state.facts) (work : middle.work = .ended) :
      Inv environment configuration middle := by
    apply inv.quiet [] was (evidence.trans was) rfl rfl (facts.trans nothing.symm)
    · exact fun fact member => absurd member List.not_mem_nil
    · rw [nothing]
      exact inv.poisoned record was
    · rw [work]
      exact trivial
    · apply paused_of_checked
      rw [work]
      rfl
    · exact fun _ => rfl
    · rw [nothing]
      exact inv.permitted record was
    · exact fun active => absurd work active
  unfold AuthState.notified
  split
  · exact stepOk_of_same (ended rfl rfl rfl) rfl
  · next cleared deleted =>
    obtain ⟨facts, evidence, _, slot⟩ := deleteAuth_facts deleted
    have done : Inv environment configuration { cleared with work := .ended } :=
      ended evidence facts rfl
    cases headersSent with
    | true =>
      refine stepOk_of_quiet (.forwarded fault) (done.noteQuiet (evidence.trans was) rfl
        AuthFact.noConfusion) ?_ rfl fun _ _ _ => AuthFact.noConfusion
      show cleared.facts ++ [.forwarded fault] = state.facts ++ [.forwarded fault]
      rw [facts]
    | false =>
      rw [was]
      dsimp only
      rw [if_neg Bool.false_ne_true]
      split
      · next condition =>
        simp only [Bool.and_eq_true, decide_eq_true_eq] at condition
        refine stepOk_goesOn inv was active (evidence.trans was) rfl rfl ?_ rfl slot ?_
          (Or.inr condition.2) ((inv.permitted record was).mono _)
        · show cleared.facts ++ _ = _
          rw [facts]
        · rw [condition.2]
          exact AuthenticationStatus.noConfusion
      · exact stepOk_of_same done facts

/-- The first fact of a request. -/
theorem stepOk_first (inv : Inv environment configuration state) (absent : state.evidence = none)
    (record : RequestAuthentication) (presented : Presented)
    (becomes : next.evidence = some record) (pending : record.status = .pending)
    (facts : next.facts = [.entered presented record.owner record.res])
    (working : WorkOk environment configuration next.facts next.work)
    (missing : next.work.isMissing = true → next.slot = none) :
    StepOk environment configuration state next := by
  have only {fact : AuthFact} (member : fact ∈ next.facts) :
      fact = .entered presented record.owner record.res := by
    rw [facts] at member
    exact List.mem_singleton.mp member
  have noOutcome : next.facts.countP AuthFact.isOutcome = 0 := by
    rw [facts]
    rfl
  refine ⟨?_, [.entered presented record.owner record.res], ?_, ?_, ?_⟩
  · constructor
    · intro none_
      rw [becomes] at none_
      contradiction
    · exact fun _ _ happened => absurd (only happened) AuthFact.noConfusion
    · exact working
    · exact fun _ => ⟨(isPending_iff becomes).mpr pending, missing⟩
    · exact fun _ _ _ happened => absurd (only happened) AuthFact.noConfusion
    · exact fun _ _ _ happened => absurd (only happened) AuthFact.noConfusion
    · intro found same status
      rw [becomes] at same
      rw [← Option.some.inj same, pending] at status
      contradiction
    · intro found same
      rw [becomes] at same
      rw [← Option.some.inj same]
      constructor
      · intro status
        rw [pending] at status
        contradiction
      · intro status
        rw [pending] at status
        contradiction
    · intro presented' owner res happened
      obtain ⟨_, isOwner, isRes⟩ := AuthFact.entered.inj (only happened)
      exact ⟨record, becomes, isOwner.symm, isRes.symm⟩
    · rw [facts]
      exact Nat.le_refl 1
    · rw [noOutcome]
      exact Nat.zero_le 1
    · exact fun _ => noOutcome
  · rw [facts, (inv.fresh absent).1]
    rfl
  · exact List.forall_mem_singleton.mpr trivial
  · intro owner res member
    exact absurd (List.mem_singleton.mp member) AuthFact.noConfusion

end AuthState

end WebTsToolkit.OidcVault
