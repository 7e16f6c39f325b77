import WebTsToolkit.Library.Outcome
import WebTsToolkit.OidcVault.Authenticator

set_option autoImplicit false

namespace WebTsToolkit.OidcVault

open Js Library

section

variable (environment : ProofEnvironment) (configuration : Nat → AuthenticatorOptions)

/-- The credential that the one authentication has read from the request. -/
structure CredentialOk (facts : List AuthFact) (credential : Credential) : Prop where
  entered : .entered credential.presented credential.owner credential.res ∈ facts
  read : readCredential (configuration credential.owner) credential.presented =
    .ok (credential.scheme, credential.token)

/-- A confirmation goes with the DPoP scheme, and with a policy. -/
structure ValidatedOk (facts : List AuthFact) (validated : Validated) : Prop where
  credential : CredentialOk configuration facts validated.credential
  scheme : validated.confirmation.join.isSome = true ↔ validated.credential.scheme = .dpop
  policy : validated.confirmation.join.isSome = true →
    (configuration validated.credential.owner).policy.isSome = true

/-- The proof that a confirmed token comes with: signed by the confirmed key for this token, and
reserved, unless the policy lets a failed admission pass. -/
def ProvenBy (facts : List AuthFact) (validated : Validated) (jkt : String) : Prop :=
  ∃ policy proof signed jti answer,
    (configuration validated.credential.owner).policy = some policy ∧
      extractDpopProof validated.credential.presented.rawProof = .ok (some proof) ∧
      environment.signed proof = some signed ∧ signed.jkt = jkt ∧
      signed.hashes environment.digest validated.credential.token = true ∧
      signed.jti = .string jti ∧ policy.algorithms.contains signed.alg = true ∧
      validated.deviceBinding = some (jkt, signed.alg) ∧
      .reserved (createDpopReplayKey environment.digest policy.effectiveNamespace jkt jti) answer ∈
        facts ∧
      (answer = some true ∨ policy.ignoreReplayFailure = true)

structure AttachedOk (facts : List AuthFact) (validated : Validated) : Prop
    extends ValidatedOk configuration facts validated where
  bound : ∀ jkt, validated.confirmation.join = some jkt →
    ProvenBy environment configuration facts validated jkt
  unbound : validated.confirmation.join = none → validated.deviceBinding = none

def WorkOk (facts : List AuthFact) : Work → Prop
  | .diagnosing .missing => ∃ presented owner res, .entered presented owner res ∈ facts ∧
      (configuration owner).optional = true ∧ presented.rawAuthorization.count = 0 ∧
      presented.rawProof.count = 0
  | .diagnosing (.attaching validated) => AttachedOk environment configuration facts validated
  | .validating credential => CredentialOk configuration facts credential
  | .reserving validated proof => ValidatedOk configuration facts validated ∧
      validated.deviceBinding = none ∧
      extractDpopProof validated.credential.presented.rawProof = .ok (some proof)
  | .hooking validated _ => AttachedOk environment configuration facts validated
  | _ => True

end

/-- How a request without authentication may go on. -/
structure Permitted (configuration : Nat → AuthenticatorOptions) (facts : List AuthFact)
    (record : RequestAuthentication) : Prop where
  missing : record.status = .missing → (configuration record.owner).optional = true ∧
    ∃ presented, .entered presented record.owner record.res ∈ facts ∧
      presented.rawAuthorization.count = 0 ∧ presented.rawProof.count = 0
  invalid : record.status = .invalid → (configuration record.owner).anonymous = true ∧
    ∃ stage fault, .refused stage fault ∈ facts ∧ isRejection stage fault = true

def AuthFact.isEntered : AuthFact → Bool
  | .entered _ _ _ => true
  | _ => false

def AuthFact.isOutcome : AuthFact → Bool
  | .proceeded .authenticate _ _ => true
  | _ => false

namespace AuthState

variable (environment : ProofEnvironment) (configuration : Nat → AuthenticatorOptions)

/-- Where no test of the record follows, it is pending. -/
def Paused (state : AuthState) : Prop :=
  state.work.isUnchecked = true →
    state.isPending = true ∧ (state.work.isMissing = true → state.slot = none)

structure Inv (state : AuthState) : Prop where
  fresh : state.evidence = none → state.facts = [] ∧ state.work = .idle ∧ state.notices = []
  poisoned : ∀ record, state.evidence = some record → .poisoned ∈ state.facts →
    record.status = .failed
  working : WorkOk environment configuration state.facts state.work
  paused : Paused state
  attached : ∀ validated number object, .attached validated number object ∈ state.facts →
    AttachedOk environment configuration state.facts validated ∧
      ∃ fields, object = validated.object fields
  completed : ∀ validated number object, .completed validated number object ∈ state.facts →
    .attached validated number object ∈ state.facts
  authenticated : ∀ record, state.evidence = some record → record.status = .authenticated →
    ∃ validated number object, record.auth = some number ∧ record.snapshot = some object ∧
      .completed validated number object ∈ state.facts
  permitted : ∀ record, state.evidence = some record →
    Permitted configuration state.facts record
  entered : ∀ presented owner res, .entered presented owner res ∈ state.facts →
    ∃ record, state.evidence = some record ∧ record.owner = owner ∧ record.res = res
  enteredOnce : state.facts.countP AuthFact.isEntered ≤ 1
  outcomeOnce : state.facts.countP AuthFact.isOutcome ≤ 1
  undecided : state.work ≠ .ended → state.facts.countP AuthFact.isOutcome = 0

variable {environment configuration} {state next : AuthState}

theorem deleteAuth_eq (deleted : state.deleteAuth = some next) :
    next = { state with slot := none } := by
  unfold deleteAuth at deleted
  split at deleted
  · split at deleted
    · exact (Option.some.inj deleted).symm
    · contradiction
  · next absent =>
    rw [← Option.some.inj deleted, ← absent]

theorem assignAuth_eq {object : Nat} (assigned : state.assignAuth object = some next) :
    ∃ slot : Slot, next = { state with slot := some slot } ∧ slot.held = .auth object := by
  unfold assignAuth at assigned
  split at assigned
  · split at assigned
    · exact ⟨_, (Option.some.inj assigned).symm, rfl⟩
    · contradiction
  · split at assigned
    · exact ⟨_, (Option.some.inj assigned).symm, rfl⟩
    · contradiction

theorem exists_of_isPending (pending : state.isPending = true) :
    ∃ record, state.evidence = some record ∧ record.status = .pending := by
  unfold isPending at pending
  cases found : state.evidence with
  | none =>
    rw [found] at pending
    contradiction
  | some record =>
    rw [found] at pending
    exact ⟨record, rfl, by simpa using pending⟩

end AuthState

theorem Permitted.mono {configuration : Nat → AuthenticatorOptions} {facts : List AuthFact}
    {record : RequestAuthentication} (ok : Permitted configuration facts record)
    (new : List AuthFact) : Permitted configuration (facts ++ new) record where
  missing := by
    intro missing
    obtain ⟨optional, presented, happened, absent⟩ := ok.missing missing
    exact ⟨optional, presented, List.mem_append_left new happened, absent⟩
  invalid := by
    intro invalid
    obtain ⟨anonymous, stage, fault, happened, rejection⟩ := ok.invalid invalid
    exact ⟨anonymous, stage, fault, List.mem_append_left new happened, rejection⟩

theorem CredentialOk.mono {configuration : Nat → AuthenticatorOptions} {facts : List AuthFact}
    {credential : Credential} (ok : CredentialOk configuration facts credential)
    (new : List AuthFact) : CredentialOk configuration (facts ++ new) credential :=
  ⟨List.mem_append_left new ok.entered, ok.read⟩

theorem ValidatedOk.mono {configuration : Nat → AuthenticatorOptions} {facts : List AuthFact}
    {validated : Validated} (ok : ValidatedOk configuration facts validated)
    (new : List AuthFact) : ValidatedOk configuration (facts ++ new) validated :=
  ⟨ok.credential.mono new, ok.scheme, ok.policy⟩

section

variable {environment : ProofEnvironment} {configuration : Nat → AuthenticatorOptions}
  {facts : List AuthFact}

theorem AttachedOk.mono {validated : Validated}
    (ok : AttachedOk environment configuration facts validated) (new : List AuthFact) :
    AttachedOk environment configuration (facts ++ new) validated where
  toValidatedOk := ok.toValidatedOk.mono new
  bound := by
    intro jkt confirmed
    obtain ⟨policy, proof, signed, jti, answer, configured, presented, verified, key, hashed, id,
      allowed, binding, happened, reserved⟩ := ok.bound jkt confirmed
    exact ⟨policy, proof, signed, jti, answer, configured, presented, verified, key, hashed, id,
      allowed, binding, List.mem_append_left new happened, reserved⟩
  unbound := ok.unbound

theorem WorkOk.mono {work : Work} (ok : WorkOk environment configuration facts work)
    (new : List AuthFact) : WorkOk environment configuration (facts ++ new) work := by
  cases work with
  | idle | assigning validated object => exact trivial
  | diagnosing diagnosis =>
    cases diagnosis with
    | missing =>
      obtain ⟨presented, owner, res, happened, absent⟩ := ok
      exact ⟨presented, owner, res, List.mem_append_left new happened, absent⟩
    | malformed fault | failing stage fault challenge => exact trivial
    | attaching validated => exact AttachedOk.mono ok new
  | validating credential => exact CredentialOk.mono ok new
  | reserving validated proof => exact ⟨ValidatedOk.mono ok.1 new, ok.2⟩
  | hooking validated object => exact AttachedOk.mono ok new
  | storing validated | notifying fault anonymous | ended => exact trivial

end

namespace AuthState

variable {environment : ProofEnvironment} {configuration : Nat → AuthenticatorOptions}
  {state next : AuthState}

theorem paused_of_checked (checked : state.work.isUnchecked = false) : Paused state := by
  intro unchecked
  rw [checked] at unchecked
  contradiction

/-- A step of a request with a record. -/
theorem Inv.change (inv : Inv environment configuration state) (new : List AuthFact)
    {record later : RequestAuthentication} (was : state.evidence = some record)
    (becomes : next.evidence = some later) (owner : later.owner = record.owner)
    (res : later.res = record.res) (facts : next.facts = state.facts ++ new)
    (poisoned : .poisoned ∈ state.facts ++ new → later.status = .failed)
    (working : WorkOk environment configuration (state.facts ++ new) next.work)
    (paused : Paused next)
    (attached : ∀ validated number object, .attached validated number object ∈ new →
      AttachedOk environment configuration (state.facts ++ new) validated ∧
        ∃ fields, object = validated.object fields)
    (completed : ∀ validated number object, .completed validated number object ∈ new →
      .attached validated number object ∈ state.facts ++ new)
    (authenticated : later.status = .authenticated →
      ∃ validated number object, later.auth = some number ∧ later.snapshot = some object ∧
        .completed validated number object ∈ state.facts ++ new)
    (permitted : Permitted configuration (state.facts ++ new) later)
    (entered : new.countP AuthFact.isEntered = 0)
    (outcome : (state.facts ++ new).countP AuthFact.isOutcome ≤ 1)
    (undecided : next.work ≠ .ended → (state.facts ++ new).countP AuthFact.isOutcome = 0) :
    Inv environment configuration next where
  fresh := by
    intro none_
    rw [becomes] at none_
    contradiction
  poisoned := by
    intro found same happened
    rw [becomes] at same
    rw [facts] at happened
    rw [← Option.some.inj same]
    exact poisoned happened
  working := by
    rw [facts]
    exact working
  paused := paused
  attached := by
    intro validated number object happened
    rw [facts] at happened ⊢
    rcases List.mem_append.mp happened with before | now
    · obtain ⟨ok, shape⟩ := inv.attached validated number object before
      exact ⟨ok.mono new, shape⟩
    · exact attached validated number object now
  completed := by
    intro validated number object happened
    rw [facts] at happened ⊢
    rcases List.mem_append.mp happened with before | now
    · exact List.mem_append_left new (inv.completed validated number object before)
    · exact completed validated number object now
  authenticated := by
    intro found same status
    rw [becomes] at same
    rw [← Option.some.inj same] at status ⊢
    rw [facts]
    exact authenticated status
  permitted := by
    intro found same
    rw [becomes] at same
    rw [facts, ← Option.some.inj same]
    exact permitted
  entered := by
    intro presented owner_ res_ happened
    rw [facts] at happened
    rcases List.mem_append.mp happened with before | now
    · obtain ⟨found, same, isOwner, isRes⟩ := inv.entered presented owner_ res_ before
      rw [was] at same
      rw [← Option.some.inj same] at isOwner isRes
      exact ⟨later, becomes, owner.trans isOwner, res.trans isRes⟩
    · exact absurd rfl (List.countP_eq_zero.mp entered _ now)
  enteredOnce := by
    rw [facts, List.countP_append, entered]
    exact inv.enteredOnce
  outcomeOnce := by
    rw [facts]
    exact outcome
  undecided := by
    rw [facts]
    exact undecided

end AuthState

end WebTsToolkit.OidcVault
