import WebTsToolkit.OidcVault.AuthenticatorSafety

set_option autoImplicit false

namespace WebTsToolkit.OidcVault

open Js Library

/-- A context is attached, or the request goes on without an error. -/
def AuthFact.isGrant : AuthFact → Bool
  | .attached _ _ _ => true
  | .completed _ _ _ => true
  | .proceeded _ _ _ => true
  | _ => false

namespace AuthState

variable {environment : ProofEnvironment} {configuration : Nat → AuthenticatorOptions}
  {state next : AuthState}

/-- The first authentication of a request begins. -/
theorem stepOk_start (inv : Inv environment configuration state)
    (absent : state.evidence = none) (owner res : Nat) (presented : Presented) :
    StepOk environment configuration state
      (state.startAuthentication (configuration owner) owner res presented) := by
  have noFacts := (inv.fresh absent).1
  let first : RequestAuthentication :=
    { owner := owner, res := res, status := .pending, auth := none, snapshot := none }
  have begins {next : AuthState} (becomes : next.evidence = some first)
      (facts : next.facts = state.facts ++ [.entered presented owner res])
      (working : WorkOk environment configuration [.entered presented owner res] next.work)
      (missing : next.work.isMissing = true → next.slot = none) :
      StepOk environment configuration state next := by
    rw [noFacts, List.nil_append] at facts
    apply stepOk_first inv absent first presented becomes rfl facts
    · rw [facts]
      exact working
    · exact missing
  unfold startAuthentication
  dsimp only
  split
  · exact begins rfl rfl trivial fun missing => absurd missing Bool.false_ne_true
  · next cleared deleted =>
    obtain ⟨facts, evidence, _, slot⟩ := deleteAuth_facts deleted
    split
    · next condition =>
      simp only [Bool.and_eq_true, beq_iff_eq] at condition
      obtain ⟨⟨optional, noCredential⟩, noProof⟩ := condition
      refine begins evidence facts ?_ fun _ => slot
      exact ⟨presented, owner, res, List.mem_cons_self, optional, noCredential, noProof⟩
    · split
      · exact begins evidence facts trivial fun missing => absurd missing Bool.false_ne_true
      · next read readOk =>
        refine begins evidence facts ⟨List.mem_cons_self, readOk⟩ ?_
        exact fun missing => absurd missing Bool.false_ne_true

/-- A request that something works on has a record. -/
theorem Inv.recorded (inv : Inv environment configuration state) (busy : state.work ≠ .idle) :
    ∃ record, state.evidence = some record := by
  cases found : state.evidence with
  | none => exact absurd (inv.fresh found).2.1 busy
  | some record => exact ⟨record, rfl⟩

/-- A validator, or the check of a proof, that ends after the authentication does nothing. -/
theorem validated_late {options : AuthenticatorOptions} {credential : Credential}
    {outcome : Except (Fault × Bool) ValidationResult} (late : state.isPending ≠ true) :
    (state.validated options credential outcome).facts = state.facts := by
  unfold AuthState.validated
  rw [if_pos (by simpa using late), (abandon_shape _).2]

theorem caught_late {stage : Stage} {fault : Fault} {challenge : Bool}
    (late : state.isPending ≠ true) :
    (state.caught stage fault challenge).facts = state.facts := by
  unfold AuthState.caught
  rw [if_neg late, (abandon_shape _).2]

theorem reserved_late {policy : DeviceBindingPolicy} {validated : Validated} {proof : String}
    {readings : Readings} {answer : Option Bool} (late : state.isPending ≠ true) :
    (state.reserved environment policy validated proof readings answer).facts = state.facts ∨
      ∃ fact, (state.reserved environment policy validated proof readings answer).facts =
        state.facts ++ [fact] ∧ fact.isQuiet = true := by
  unfold AuthState.reserved
  dsimp only
  split
  · exact Or.inl (caught_late late)
  · split
    · exact Or.inl (caught_late late)
    · exact Or.inl (caught_late late)
    · next request _ =>
      refine Or.inr ⟨.reserved request.replayKey answer, ?_, rfl⟩
      unfold AuthState.admitted
      dsimp only
      rw [if_pos (by simpa using late), (abandon_shape _).2]
      rfl

/-- The hook is over. -/
theorem stepOk_hooked (inv : Inv environment configuration state) {validated : Validated}
    {object : Nat} (working : state.work = .hooking validated object) (outcome : Option Fault) :
    StepOk environment configuration state (state.hooked validated object outcome) := by
  obtain ⟨record, was⟩ := inv.recorded (by rw [working]; exact Work.noConfusion)
  by_cases pending : state.isPending = true
  · obtain ⟨later, grown | ⟨proven, number, context, slot, facts, becomes, there, held⟩⟩ :=
      inv.hooked was working outcome
    · exact stepOk_of_goes ⟨later, grown⟩ (Or.inr (Or.inl pending))
    · refine ⟨later, _, facts, ?_, ?_⟩
      · intro fact member
        have status := (isPending_iff was).mp pending
        simp only [List.mem_cons, List.not_mem_nil, or_false] at member
        rcases member with same | same | same
        · rw [same]
          exact pending
        · rw [same]
          exact pending
        · rw [same]
          refine Or.inr ⟨record, was, ?_⟩
          rw [status]
          exact AuthenticationStatus.noConfusion
      · intro owner res member
        have same : AuthFact.proceeded .authenticate owner res =
            .proceeded .authenticate record.owner record.res := by
          simpa using member
        obtain ⟨_, isOwner, isRes⟩ := AuthFact.proceeded.inj same
        exact ⟨_, becomes, isOwner.symm, isRes.symm, Or.inl ⟨rfl, number, slot, rfl, there, held⟩⟩
  · unfold AuthState.hooked
    rw [if_pos (by simpa using pending)]
    exact stepOk_of_same (inv.abandon was) (abandon_shape state).2

/-- The observer of a diagnostic is over. -/
theorem stepOk_diagnosed (inv : Inv environment configuration state)
    {record : RequestAuthentication} (was : state.evidence = some record) {diagnosis : Diagnosis}
    (working : state.work = .diagnosing diagnosis) (headersSent : Bool) :
    StepOk environment configuration state
      (state.diagnosed (configuration record.owner) record diagnosis headersSent) := by
  have busy : state.work ≠ .ended := by
    rw [working]
    exact Work.noConfusion
  have ok : WorkOk environment configuration state.facts (.diagnosing diagnosis) := by
    rw [← working]
    exact inv.working
  have going (pending : state.isPending = true) :
      Active environment configuration state record := ⟨inv, pending, was, busy⟩
  have goes {next : AuthState} (pending : state.isPending = true)
      (goes : Goes environment configuration state next) :
      StepOk environment configuration state next := stepOk_of_goes goes (Or.inr (Or.inl pending))
  have paused (unchecked : (Work.diagnosing diagnosis).isUnchecked = true) :
      state.isPending = true ∧ (state.work.isMissing = true → state.slot = none) := by
    rw [← working] at unchecked
    exact inv.paused unchecked
  cases diagnosis with
  | missing =>
    obtain ⟨pending, cleared⟩ := paused rfl
    have status := (isPending_iff was).mp pending
    have noAuth : state.slot = none := cleared (by rw [working]; rfl)
    have becomes : (state.setStatus .missing).evidence =
        some { record with status := .missing } := by
      show state.evidence.map _ = _
      rw [was]
      rfl
    obtain ⟨presented, owner, res, entered, optional, noCredential, noProof⟩ := ok
    have permitted : Permitted configuration state.facts { record with status := .missing } := by
      obtain ⟨found, same, isOwner, isRes⟩ := inv.entered presented owner res entered
      rw [was] at same
      obtain rfl := Option.some.inj same
      rw [← isOwner] at entered optional
      rw [← isRes] at entered
      exact ⟨fun _ => ⟨optional, presented, entered, noCredential, noProof⟩,
        fun invalid => nomatch invalid⟩
    unfold AuthState.diagnosed
    dsimp only
    split
    · have nothing : state.facts ++ [] = state.facts := List.append_nil state.facts
      obtain ⟨sameEvidence, sameFacts⟩ := abandon_shape (state.setStatus .missing)
      refine stepOk_of_same ?_ sameFacts
      apply inv.quiet [] was (sameEvidence.trans becomes) rfl rfl (sameFacts.trans nothing.symm)
      · exact fun fact member => absurd member List.not_mem_nil
      · rw [nothing]
        exact fun happened => absurd happened (inv.unpoisoned pending)
      · exact trivial
      · exact paused_of_checked rfl
      · exact fun authenticated => nomatch authenticated
      · rw [nothing]
        exact permitted
      · exact fun active => absurd rfl active
    · refine stepOk_goesOn inv was busy becomes rfl rfl rfl rfl noAuth ?_ (Or.inl rfl)
        (permitted.mono _)
      rw [status]
      exact AuthenticationStatus.noConfusion
  | malformed fault =>
    unfold AuthState.diagnosed
    dsimp only
    split
    · next pending => exact goes pending ((going pending).fail .proof fault false)
    · exact stepOk_of_same (inv.abandon was) (abandon_shape state).2
  | attaching validated =>
    have pending := (paused rfl).1
    exact goes pending ((going pending).attach ok)
  | failing stage fault challenge =>
    have pending := (paused rfl).1
    exact goes pending ((going pending).fail stage fault challenge)

/-- What other code does to the request changes no record. -/
theorem stepOk_other (inv : Inv environment configuration state)
    (evidence : next.evidence = state.evidence) (facts : next.facts = state.facts)
    (work : next.work = state.work) (paused : Paused next)
    (notices : next.notices = state.notices) :
    StepOk environment configuration state next := by
  refine stepOk_of_same (inv.frame evidence facts work paused ?_) facts
  intro absent
  rw [notices]
  exact (inv.fresh absent).2.2

theorem stepOk_step (inv : Inv environment configuration state) {event : AuthEvent}
    (undisturbed : state.Undisturbed event)
    (taken : state.step environment configuration event = some next) :
    StepOk environment configuration state next := by
  cases event with
  | authenticate owner res presented =>
    unfold AuthState.step at taken
    dsimp only at taken
    split at taken
    · next record was =>
      rw [← Option.some.inj taken]
      exact stepOk_poison inv was undisturbed .authenticationReentry
    · next absent =>
      rw [← Option.some.inj taken]
      exact stepOk_start inv absent owner res presented
  | guard owner res bound =>
    rw [← Option.some.inj taken]
    exact stepOk_guard inv undisturbed owner res bound
  | diagnosed headersSent =>
    unfold AuthState.step at taken
    dsimp only at taken
    split at taken
    · next record diagnosis was working =>
      rw [← Option.some.inj taken]
      exact stepOk_diagnosed inv was working headersSent
    · contradiction
  | validated outcome =>
    unfold AuthState.step at taken
    dsimp only at taken
    split at taken
    · next credential working =>
      rw [← Option.some.inj taken]
      obtain ⟨record, was⟩ := inv.recorded (by rw [working]; exact Work.noConfusion)
      have goes := inv.validated was working outcome
      by_cases pending : state.isPending = true
      · exact stepOk_of_goes goes (Or.inr (Or.inl pending))
      · exact stepOk_of_goes goes (Or.inl (validated_late pending))
    · contradiction
  | reserved readings answer =>
    unfold AuthState.step at taken
    dsimp only at taken
    split at taken
    · next validated proof working =>
      obtain ⟨policy, configured, same⟩ := Option.map_eq_some_iff.mp taken
      rw [← same]
      obtain ⟨record, was⟩ := inv.recorded (by rw [working]; exact Work.noConfusion)
      have ok : WorkOk environment configuration state.facts (.reserving validated proof) := by
        rw [← working]
        exact inv.working
      rw [(inv.owner was ok.1.credential).1] at configured
      have goes := inv.reserved was working configured readings answer
      by_cases pending : state.isPending = true
      · exact stepOk_of_goes goes (Or.inr (Or.inl pending))
      · rcases reserved_late pending with kept | quiet
        · exact stepOk_of_goes goes (Or.inl kept)
        · exact stepOk_of_goes goes (Or.inr (Or.inr quiet))
    · contradiction
  | assigned outcome | stored outcome => exact undisturbed.elim
  | hooked outcome =>
    unfold AuthState.step at taken
    dsimp only at taken
    split at taken
    · next validated object working =>
      rw [← Option.some.inj taken]
      exact stepOk_hooked inv working outcome
    · contradiction
  | notified headersSent =>
    unfold AuthState.step at taken
    dsimp only at taken
    split at taken
    · next fault anonymous working =>
      obtain ⟨record, was⟩ := inv.recorded (by rw [working]; exact Work.noConfusion)
      rw [← Option.some.inj taken]
      exact stepOk_notified inv was working headersSent
    · contradiction
  | noticed position headersSent =>
    unfold AuthState.step at taken
    dsimp only at taken
    split at taken
    · next fault found =>
      rw [← Option.some.inj taken]
      rcases Option.eq_none_or_eq_some state.evidence with absent | recorded
      · rw [(inv.fresh absent).2.2] at found
        contradiction
      · obtain ⟨record, was⟩ := recorded
        exact stepOk_noticed inv was _ fault headersSent
    · contradiction
  | putSlot slot =>
    rw [← Option.some.inj taken]
    refine stepOk_other inv rfl rfl rfl ?_ rfl
    intro unchecked
    refine ⟨(inv.paused unchecked).1, fun missing => ?_⟩
    have going : state.work.isMissing = false := undisturbed
    rw [show state.work.isMissing = true from missing] at going
    contradiction
  | mutate object fields | allocate fields | preventExtensions =>
    rw [← Option.some.inj taken]
    exact stepOk_other inv rfl rfl rfl inv.paused rfl

theorem inv_start : Inv environment configuration (authentication environment configuration).start
    where
  fresh := fun _ => ⟨rfl, rfl, rfl⟩
  poisoned := fun _ _ member => absurd member List.not_mem_nil
  working := trivial
  paused := paused_of_checked rfl
  attached := fun _ _ _ member => absurd member List.not_mem_nil
  completed := fun _ _ _ member => absurd member List.not_mem_nil
  authenticated := fun _ same => Option.noConfusion rfl (heq_of_eq same)
  permitted := fun _ same => Option.noConfusion rfl (heq_of_eq same)
  entered := fun _ _ _ member => absurd member List.not_mem_nil
  enteredOnce := Nat.zero_le 1
  outcomeOnce := Nat.zero_le 1
  undecided := fun _ => rfl

theorem inv_of_reachable
    (reached : (authentication environment configuration).ReachableWhen Undisturbed state) :
    Inv environment configuration state := by
  apply reached.invariant inv_start
  intro before event after inv undisturbed taken
  exact (stepOk_step inv undisturbed taken).inv

variable {environment : ProofEnvironment} {configuration : Nat → AuthenticatorOptions}
  {state next : AuthState}

/-- Nothing is granted to a poisoned request. -/
theorem Inv.refuses (inv : Inv environment configuration state)
    (poisoned : .poisoned ∈ state.facts) {fact : AuthFact} (allowed : state.Allowed fact) :
    fact.isGrant = false := by
  have failed {record : RequestAuthentication} (was : state.evidence = some record) :
      record.status = .failed := inv.poisoned record was poisoned
  have notPassed {owner res : Nat} {bound : Bool} : ¬ ∃ validated object,
      Passed state owner res bound validated object := by
    intro passes
    obtain ⟨validated, object, passed⟩ := passes
    obtain ⟨record, was, status⟩ := passed.authenticated
    rw [failed was] at status
    contradiction
  cases fact with
  | entered credentials owner res | reserved replayKey answer => rfl
  | attached validated object fields => exact absurd poisoned (inv.unpoisoned allowed)
  | completed validated object fields => exact absurd poisoned (inv.unpoisoned allowed)
  | refused stage fault | poisoned => rfl
  | proceeded handler owner res =>
    cases handler with
    | authenticate =>
      rcases allowed with absent | pending
      · rw [(inv.fresh absent).1] at poisoned
        exact absurd poisoned List.not_mem_nil
      · obtain ⟨record, was, notFailed⟩ := pending
        exact absurd (failed was) notFailed
    | requireAuth | requireDeviceBinding => exact absurd allowed notPassed
  | forwarded fault => rfl

/-- Whatever happens after a second authentication or the rejection of a guard. -/
theorem Inv.halted (inv : Inv environment configuration state)
    (poisoned : .poisoned ∈ state.facts) {later : AuthState}
    (reached : ((authentication environment configuration).since state).ReachableWhen Undisturbed
      later) :
    Inv environment configuration later ∧
      ∃ new, later.facts = state.facts ++ new ∧ ∀ fact ∈ new, fact.isGrant = false := by
  apply reached.invariant
  · exact ⟨inv, [], (List.append_nil _).symm, fun fact member => absurd member List.not_mem_nil⟩
  · intro before event after held undisturbed taken
    obtain ⟨invBefore, before_, same, refused⟩ := held
    have ok := stepOk_step invBefore undisturbed taken
    obtain ⟨now, sameNow, allowed, _⟩ := ok.facts
    have still : .poisoned ∈ before.facts := by
      rw [same]
      exact List.mem_append_left before_ poisoned
    refine ⟨ok.inv, before_ ++ now, ?_, ?_⟩
    · rw [sameNow, same, List.append_assoc]
    · intro fact member
      rcases List.mem_append.mp member with earlier | latest
      · exact refused fact earlier
      · exact invBefore.refuses still (allowed fact latest)

end AuthState

/-- What was granted, at any time. -/
structure Granted (environment : ProofEnvironment) (configuration : Nat → AuthenticatorOptions)
    (state : AuthState) : Prop where
  attached : ∀ validated number object, .attached validated number object ∈ state.facts →
    AttachedOk environment configuration state.facts validated ∧
      object .token = some (.data (.text validated.credential.token))
  completed : ∀ validated number object, .completed validated number object ∈ state.facts →
    .attached validated number object ∈ state.facts
  enteredOnce : state.facts.countP AuthFact.isEntered ≤ 1
  outcomeOnce : state.facts.countP AuthFact.isOutcome ≤ 1

theorem granted_of_inv {environment : ProofEnvironment}
    {configuration : Nat → AuthenticatorOptions} {state : AuthState}
    (inv : state.Inv environment configuration) : Granted environment configuration state where
  __ := inv
  attached := by
    intro validated number object happened
    obtain ⟨ok, fields, shape⟩ := inv.attached validated number object happened
    refine ⟨ok, ?_⟩
    rw [shape]
    rfl

def boundKey : String := "AAAAAAAAAAAAAAAAAAAAAAAAAAAAAAAAAAAAAAAAAAA"

def boundProof : SignedProof where
  alg := "ES256"
  jkt := boundKey
  htm := .string "GET"
  htu := .string "https://api.test/articles"
  iat := .number "1000"
  jti := .string "proof-1"
  nonce := .undefined
  ath := .string boundKey

def boundEnvironment : ProofEnvironment where
  signed := fun _ => some boundProof
  sameTarget := fun _ _ => true
  digest := fun _ => boundKey

def boundPolicy (ignoreReplayFailure : Bool) : DeviceBindingPolicy where
  algorithms := ["ES256"]
  proofMaxAgeSeconds := 120
  clockSkewSeconds := 10
  nonceVerify := none
  ignoreFreshnessFailure := false
  ignoreReplayFailure := ignoreReplayFailure
  maxAge_bounds := by decide
  clockSkew_bounds := by decide
  mode := .required
  ignoreTargetFailure := false
  effectiveNamespace := ["vault", "api"]

def boundOptions (ignoreReplayFailure : Bool) : AuthenticatorOptions where
  optional := false
  anonymous := false
  policy := some (boundPolicy ignoreReplayFailure)
  anonymous_optional := by decide

def boundRequest : Presented where
  rawHeaders := [("Authorization", "DPoP token-1"), ("DPoP", "aGVhZA.Ym9keQ.c2ln")]
  authorization := some "DPoP token-1"
  method := "GET"
  originalUrl := "/articles"

def boundResult : ValidationResult :=
  let fields : MappedFields := {
    subject := .text "alice"
    sessionId := .undefined
    scope := .undefined
    claims := .undefined }
  .record fields (.jkt boundKey)

def boundReadings : Readings where
  now := some (.number "1000000")
  fallbackNow := .undefined
  issuedNonce := none

/-- A bound token is accepted, a guard lets it pass, and the request is authenticated again. -/
def boundEvents (answer : Option Bool) : List AuthEvent :=
  [.authenticate 0 0 boundRequest, .validated (.ok boundResult), .reserved boundReadings answer,
    .hooked none, .guard 0 0 true, .authenticate 0 0 boundRequest]

def AuthFact.isBoundAttachment : AuthFact → Bool
  | .attached validated _ _ => validated.confirmation.join.isSome
  | _ => false

def AuthFact.isReservation : AuthFact → Bool
  | .reserved _ answer => answer == some true
  | _ => false

def AuthFact.passesBound : AuthFact → Bool
  | .proceeded .requireDeviceBinding _ _ => true
  | _ => false

def AuthFact.isPoisoned : AuthFact → Bool
  | .poisoned => true
  | _ => false

/-- A validator that throws `undefined` while a guard rejects the request. -/
def undefinedEvents : List AuthEvent :=
  [.authenticate 0 0 boundRequest, .validated (.error (.undefined, false)), .diagnosed false,
    .guard 0 0 false, .notified true]

end WebTsToolkit.OidcVault
