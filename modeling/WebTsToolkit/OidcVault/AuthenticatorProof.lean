import WebTsToolkit.OidcVault.AuthenticatorSteps

set_option autoImplicit false

namespace WebTsToolkit.OidcVault

open Js Library

variable {signed : SignedProof} {policy : ResolvedDeviceBindingOptions}

/-- What the checks of a proof have shown where they pass. -/
theorem verifyDpopProof_eq_ok {environment : ProofEnvironment} {policy : DeviceBindingPolicy}
    {proof method originalUrl token : String} {expectedJkt : Option String}
    (verified : verifyDpopProof environment policy proof method originalUrl token expectedJkt =
      .ok signed) :
    environment.signed proof = some signed ∧
      signed.hashes environment.digest token = true ∧
      policy.algorithms.contains signed.alg = true ∧
      ∀ jkt, expectedJkt = some jkt → signed.jkt = jkt := by
  unfold verifyDpopProof at verified
  split at verified
  · contradiction
  · next found known =>
    split at verified
    · contradiction
    · next shaped =>
      split at verified
      · contradiction
      · split at verified
        · contradiction
        · split at verified
          · contradiction
          · next hashed =>
            split at verified
            · contradiction
            · next expected =>
              have same := Except.ok.inj verified
              rw [← same]
              simp only [Bool.or_eq_true, Bool.not_eq_true', not_or,
                Bool.not_eq_false] at shaped hashed
              refine ⟨known, hashed.2, shaped.1, ?_⟩
              intro jkt isExpected
              rw [isExpected, Option.any_some] at expected
              simp only [Bool.or_eq_true, not_or, bne_iff_ne, ne_eq,
                Decidable.not_not] at expected
              exact expected.2.symm

/-- The claims that are read back from a verified proof are its own. -/
theorem readClaims_verified {claims : DpopClaims}
    (read : policy.readClaims signed.verified = .ok claims) :
    claims.jkt = signed.jkt ∧ claims.alg = signed.alg ∧ signed.jti = .string claims.jti := by
  have binding : readProperty signed.verified "binding" = .object [("type", .string "dpop"),
      ("jkt", .string signed.jkt), ("alg", .string signed.alg)] := rfl
  have jti : readProperty signed.verified "jti" = signed.jti := rfl
  unfold ResolvedDeviceBindingOptions.readClaims at read
  rw [if_neg (by exact Bool.false_ne_true)] at read
  rw [binding] at read
  dsimp only at read
  rw [if_neg (by exact Bool.false_ne_true)] at read
  split at read
  · next type jkt alg found iat isType isJkt isAlg isJti isIat =>
    split at read
    · contradiction
    · have same := Except.ok.inj read
      rw [← same]
      rw [jti] at isJti
      have jktSame : Value.string signed.jkt = .string jkt := isJkt
      have algSame : Value.string signed.alg = .string alg := isAlg
      exact ⟨(Value.string.inj jktSame).symm, (Value.string.inj algSame).symm, isJti⟩
  · contradiction

/-- An admission is asked for with the claims of the proof. -/
theorem checkProof_eq_reserve {digest : String → String} {effectiveNamespace : List String}
    {readings : Readings} {request : ReplayRequest}
    (checked : policy.checkProof digest effectiveNamespace readings signed.verified =
      .ok (.reserve request)) :
    request.claims.jkt = signed.jkt ∧ request.claims.alg = signed.alg ∧
      signed.jti = .string request.claims.jti ∧
      request.replayKey = createDpopReplayKey digest effectiveNamespace signed.jkt
        request.claims.jti := by
  obtain ⟨claims, read, checked⟩ := bind_eq_ok checked
  obtain ⟨now, _, checked⟩ := bind_eq_ok checked
  obtain ⟨expiresAt, _, checked⟩ := bind_eq_ok checked
  obtain ⟨nonce, _, checked⟩ := bind_eq_ok checked
  obtain ⟨jkt, alg, jti⟩ := readClaims_verified read
  cases nonce with
  | some challenge =>
    have same := Except.ok.inj checked
    contradiction
  | none =>
    have same := Checked.reserve.inj (Except.ok.inj checked)
    rw [← same, ← jkt]
    exact ⟨rfl, alg, jti, rfl⟩

theorem conclude_eq_accepted {request : ReplayRequest} {answer : Option Bool} {jkt alg : String}
    {expiresAt : Int}
    (concluded : policy.conclude request answer = .ok (.accepted jkt alg expiresAt)) :
    jkt = request.claims.jkt ∧ alg = request.claims.alg ∧
      (answer = some true ∨ policy.ignoreReplayFailure = true) := by
  unfold ResolvedDeviceBindingOptions.conclude at concluded
  dsimp only at concluded
  split at concluded
  · obtain ⟨isJkt, isAlg, _⟩ := DpopReplayResult.accepted.inj (Except.ok.inj concluded)
    exact ⟨isJkt.symm, isAlg.symm, Or.inl rfl⟩
  · split at concluded
    · next ignored =>
      obtain ⟨isJkt, isAlg, _⟩ := DpopReplayResult.accepted.inj (Except.ok.inj concluded)
      exact ⟨isJkt.symm, isAlg.symm, Or.inr ignored⟩
    · contradiction
  · split at concluded
    · next ignored =>
      obtain ⟨isJkt, isAlg, _⟩ := DpopReplayResult.accepted.inj (Except.ok.inj concluded)
      exact ⟨isJkt.symm, isAlg.symm, Or.inr ignored⟩
    · contradiction

namespace AuthState

variable {environment : ProofEnvironment} {configuration : Nat → AuthenticatorOptions}
  {state next : AuthState} {record : RequestAuthentication} {validated : Validated}

/-- A quiet fact of a request with a record. -/
theorem Inv.noteQuiet (inv : Inv environment configuration state)
    (was : state.evidence = some record) {fact : AuthFact} (quiet : fact.isQuiet = true)
    (harmless : fact ≠ .poisoned) : Inv environment configuration (state.note fact) := by
  have evidence : (state.note fact).evidence = some record := was
  have facts : (state.note fact).facts = state.facts ++ [fact] := rfl
  apply inv.quiet [fact] was evidence rfl rfl facts
  · exact List.forall_mem_singleton.mpr quiet
  · intro happened
    rcases List.mem_append.mp happened with before | now
    · exact inv.poisoned record was before
    · exact absurd (List.mem_singleton.mp now).symm harmless
  · exact inv.working.mono _
  · exact inv.paused
  · exact fun _ => rfl
  · exact (inv.permitted record was).mono _
  · exact id

theorem Grown.after {middle : AuthState} (grown : Grown middle next) {fact : AuthFact}
    (facts : middle.facts = state.facts ++ [fact])
    (own : ∀ handler owner res, fact ≠ .proceeded handler owner res) : Grown state next := by
  obtain ⟨new, same, each⟩ := grown
  refine ⟨fact :: new, ?_, ?_⟩
  · rw [same, facts, List.append_assoc]
    rfl
  · intro other member handler owner res proceeds
    rcases List.mem_cons.mp member with here | later
    · rw [here] at proceeds
      exact absurd proceeds (own handler owner res)
    · exact each other later handler owner res proceeds

/-- The store has answered, or failed. -/
theorem Inv.admitted (inv : Inv environment configuration state)
    (was : state.evidence = some record) {proof : String}
    (working : state.work = .reserving validated proof) {policy : DeviceBindingPolicy}
    (configured : (configuration record.owner).policy = some policy) {signed : SignedProof}
    {readings : Readings} {request : ReplayRequest}
    (verified : verifyDpopProof environment policy proof validated.credential.presented.method
      validated.credential.presented.originalUrl validated.credential.token
        validated.confirmation.join = .ok signed)
    (checked : policy.checkProof environment.digest policy.effectiveNamespace readings
      signed.verified = .ok (.reserve request)) (answer : Option Bool) :
    Goes environment configuration state (state.admitted policy validated request answer) := by
  have ok : WorkOk environment configuration state.facts (.reserving validated proof) := by
    rw [← working]
    exact inv.working
  have noted : Inv environment configuration (state.note (.reserved request.replayKey answer)) :=
    inv.noteQuiet was rfl AuthFact.noConfusion
  have notProceeding (handler : Handler) (owner res : Nat) :
      AuthFact.reserved request.replayKey answer ≠ .proceeded handler owner res :=
    AuthFact.noConfusion
  unfold AuthState.admitted
  dsimp only
  split
  · exact ⟨noted.abandon was, grown_abandon.after rfl notProceeding⟩
  · next pending =>
    have active : Active environment configuration
        (state.note (.reserved request.replayKey answer)) record := {
      inv := noted
      pending := by
        have pending_ : state.isPending = true := by simpa using pending
        exact pending_
      was := was
      active := by
        show state.work ≠ .ended
        rw [working]
        exact Work.noConfusion }
    split
    · next jkt alg expiresAt concluded =>
      obtain ⟨isJkt, isAlg, reserved_⟩ := conclude_eq_accepted concluded
      obtain ⟨claimsJkt, claimsAlg, jti, key⟩ := checkProof_eq_reserve checked
      obtain ⟨known, hashed, allowed, expected⟩ := verifyDpopProof_eq_ok verified
      have owner := (inv.owner was ok.1.credential).1
      have valid := ok.1.mono [.reserved request.replayKey answer]
      let proven : Validated := { validated with
        deviceBinding := if validated.confirmation.join.isSome then some (jkt, alg) else none }
      have attachable : AttachedOk environment configuration
          (state.note (.reserved request.replayKey answer)).facts proven := by
        refine ⟨{ valid with }, ?_, ?_⟩
        · intro confirmed isConfirmed
          have same : signed.jkt = confirmed := expected confirmed isConfirmed
          have isSome : validated.confirmation.join.isSome = true := by
            have confirmed_ : validated.confirmation.join = some confirmed := isConfirmed
            rw [confirmed_]
            rfl
          refine ⟨policy, proof, signed, request.claims.jti, answer, ?_, ok.2.2, known, same,
            hashed, jti, allowed, ?_, ?_, reserved_⟩
          · show (configuration validated.credential.owner).policy = some policy
            rw [owner]
            exact configured
          · show (if validated.confirmation.join.isSome = true then some (jkt, alg) else none) =
              some (confirmed, signed.alg)
            rw [if_pos isSome, isJkt, isAlg, claimsJkt, claimsAlg, same]
          · rw [← same, ← key]
            exact List.mem_append_right _ List.mem_cons_self
        · intro absent
          have absent_ : validated.confirmation.join = none := absent
          show (if validated.confirmation.join.isSome = true then some (jkt, alg) else none) =
            none
          rw [absent_]
          rfl
      have goes := active.attach attachable
      exact ⟨goes.inv, goes.grown.after rfl notProceeding⟩
    · have failed := active.caught .proof .useDpopNonce true
      exact ⟨failed.inv, failed.grown.after rfl notProceeding⟩
    · next failure _ =>
      have failed := active.caught .proof failure.fault false
      exact ⟨failed.inv, failed.grown.after rfl notProceeding⟩

/-- Something is thrown, while the authentication is pending or later. -/
theorem Inv.caught (inv : Inv environment configuration state)
    (was : state.evidence = some record) (active : state.work ≠ .ended) (stage : Stage)
    (fault : Fault) (challenge : Bool) :
    Goes environment configuration state (state.caught stage fault challenge) := by
  by_cases pending : state.isPending = true
  · exact Active.caught ⟨inv, pending, was, active⟩ stage fault challenge
  · unfold AuthState.caught
    rw [if_neg pending]
    exact ⟨inv.abandon was, grown_abandon⟩

/-- The verification and the admission of a proof are over. -/
theorem Inv.reserved (inv : Inv environment configuration state)
    (was : state.evidence = some record) {proof : String}
    (working : state.work = .reserving validated proof) {policy : DeviceBindingPolicy}
    (configured : (configuration record.owner).policy = some policy) (readings : Readings)
    (answer : Option Bool) :
    Goes environment configuration state
      (state.reserved environment policy validated proof readings answer) := by
  have active : state.work ≠ .ended := by
    rw [working]
    exact Work.noConfusion
  unfold AuthState.reserved
  dsimp only
  split
  · exact inv.caught was active .proof _ false
  · next signed verified =>
    split
    · exact inv.caught was active .proof _ false
    · exact inv.caught was active .proof _ true
    · next request checked =>
      exact inv.admitted was working configured verified checked answer

/-- The context that the hook may have changed is restored, with what was proven. -/
theorem Inv.complete (inv : Inv environment configuration state)
    (was : state.evidence = some record) (pending : state.isPending = true)
    (active : state.work ≠ .ended)
    (ok : AttachedOk environment configuration state.facts validated) (number : Nat)
    (fields : MappedFields) :
    Inv environment configuration (state.complete validated number (validated.object fields)) := by
  have unchanged := inv.undecided active
  have evidence : (state.complete validated number (validated.object fields)).evidence =
      some { record with
        status := .authenticated, auth := some number
        snapshot := some (validated.object fields) } := by
    unfold AuthState.complete
    dsimp only
    rw [was]
    rfl
  apply inv.change [.attached validated number (validated.object fields),
    .completed validated number (validated.object fields),
    .proceeded .authenticate validated.credential.owner validated.credential.res] was evidence
    rfl rfl rfl
  · intro happened
    rcases List.mem_append.mp happened with before | now
    · exact absurd before (inv.unpoisoned pending)
    · simp at now
  · exact trivial
  · exact paused_of_checked rfl
  · intro validated' number' object happened
    have same : AuthFact.attached validated' number' object =
        .attached validated number (validated.object fields) := by
      simpa using happened
    obtain ⟨sameValidated, _, sameObject⟩ := AuthFact.attached.inj same
    rw [sameValidated, sameObject]
    exact ⟨ok.mono _, fields, rfl⟩
  · intro validated' number' object happened
    have same : AuthFact.completed validated' number' object =
        .completed validated number (validated.object fields) := by
      simpa using happened
    obtain ⟨sameValidated, sameNumber, sameObject⟩ := AuthFact.completed.inj same
    rw [sameValidated, sameNumber, sameObject]
    exact List.mem_append_right _ List.mem_cons_self
  · intro _
    exact ⟨validated, number, validated.object fields, rfl, rfl,
      List.mem_append_right _ (List.mem_cons_of_mem _ List.mem_cons_self)⟩
  · constructor
    · intro status
      contradiction
    · intro status
      contradiction
  · rfl
  · rw [List.countP_append, unchanged]
    exact Nat.le_refl 1
  · intro notOver
    exact absurd rfl notOver

/-- The request goes on as authenticated. -/
def Completes (state next : AuthState) (record : RequestAuthentication) : Prop :=
  ∃ validated number object slot,
    next.facts = state.facts ++ [.attached validated number object,
      .completed validated number object, .proceeded .authenticate record.owner record.res] ∧
      next.evidence = some { record with
        status := .authenticated, auth := some number, snapshot := some object } ∧
      next.slot = some slot ∧ slot.held = .auth number

/-- The context is restored, or refused. -/
theorem Active.restore (active : Active environment configuration state record)
    (ok : AttachedOk environment configuration state.facts validated)
    (checked : state.work.isUnchecked = false) (fields : MappedFields) :
    Inv environment configuration (state.restore validated fields) ∧
      (Grown state (state.restore validated fields) ∨
        Completes state (state.restore validated fields) record) := by
  have allocated := active.alloc (validated.object fields)
  obtain ⟨owner, res⟩ := active.inv.owner active.was ok.credential
  unfold AuthState.restore
  dsimp only
  split
  · next assigned same =>
    obtain ⟨slot, isAssigned, held⟩ := assignAuth_eq same
    have later : Inv environment configuration assigned := by
      rw [isAssigned]
      refine allocated.inv.frame rfl rfl rfl ?_ ?_
      · exact paused_of_checked checked
      · exact fun none_ => (active.inv.fresh none_).2.2
    rw [isAssigned] at later ⊢
    refine ⟨later.complete active.was active.pending active.active ok state.objects.length fields,
      Or.inr ⟨validated, state.objects.length, validated.object fields, slot, ?_, ?_, rfl, held⟩⟩
    · rw [← owner, ← res]
      rfl
    · unfold AuthState.complete
      dsimp only
      show state.evidence.map _ = _
      rw [active.was]
      rfl
  · have failed := allocated.veto .typeError
    exact ⟨failed.inv, Or.inl (failed.grown.of_facts rfl)⟩

/-- The hook is over. -/
theorem Inv.hooked (inv : Inv environment configuration state)
    (was : state.evidence = some record) {object : Nat}
    (working : state.work = .hooking validated object) (outcome : Option Fault) :
    Inv environment configuration (state.hooked validated object outcome) ∧
      (Grown state (state.hooked validated object outcome) ∨
        Completes state (state.hooked validated object outcome) record) := by
  have ok : AttachedOk environment configuration state.facts validated := by
    have working_ := inv.working
    rw [working] at working_
    exact working_
  unfold AuthState.hooked
  split
  · exact ⟨inv.abandon was, Or.inl grown_abandon⟩
  · next pending =>
    have active : Active environment configuration state record := {
      inv := inv
      pending := by simpa using pending
      was := was
      active := by
        rw [working]
        exact Work.noConfusion }
    have waits : Goes environment configuration state { state with work := .storing validated } :=
      active.await trivial rfl
    split
    · exact ⟨(active.veto _).inv, Or.inl (active.veto _).grown⟩
    · split
      · exact ⟨waits.inv, Or.inl waits.grown⟩
      · split
        · apply active.restore ok
          rw [working]
          rfl
        · exact ⟨waits.inv, Or.inl waits.grown⟩

end AuthState

end WebTsToolkit.OidcVault
