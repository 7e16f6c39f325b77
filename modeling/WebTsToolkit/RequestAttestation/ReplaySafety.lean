import WebTsToolkit.Library.TransitionSystem
import WebTsToolkit.RequestAttestation.MemoryLedger
import WebTsToolkit.RequestAttestation.MemoryStore
import WebTsToolkit.RequestAttestation.Verify

set_option autoImplicit false

namespace WebTsToolkit.RequestAttestation.Replay

open Library Library.Ledger

/-- One verification of a decoded envelope. The deadline is the one of its last check, none once
a check fails. -/
structure Verification (verifiers : Nat) where
  verifier : Fin verifiers
  replayNamespace : String
  publicOrigin : String
  policy : ResolvedTimePolicy
  envelope : TransactionIdFields
  proof : AttestationVerifiedProof
  retainUntilMs : Option Int

/-- One call of `reserve`, and its answer. -/
structure Attempt where
  verification : Nat
  replayKey : String
  retainUntilMs : Int
  answer : Except ReserveError ReserveResult

/-- Any number of verifiers with their clocks, and the store that they share with its own. -/
structure State (verifiers : Nat) where
  clock : Fin verifiers → Int
  storeClock : Int
  store : MemoryAttestationStore
  verifications : List (Verification verifiers)
  attempts : List Attempt

/-- A verification takes the reading of a clock from before it waited for its keys. -/
inductive Event (Request : Type) (verifiers : Nat) where
  | advance (clock : Fin verifiers → Int) (storeClock : Int)
  | verify (verifier : Fin verifiers) (input : AttestationVerifyInput Request)
      (envelope : TransactionIdFields)
  | recheck (verification : Nat)
  | reserve (verification : Nat)

namespace State

variable {Request : Type} {verifiers : Nat}

/-- Clocks never run backwards, and differ pairwise by the guard at most. -/
def CanAdvance (guard : Int) (state : State verifiers) (clock : Fin verifiers → Int)
    (storeClock : Int) : Prop :=
  (∀ verifier, state.clock verifier ≤ clock verifier) ∧ state.storeClock ≤ storeClock ∧
    (∀ verifier, clock verifier - storeClock ≤ guard ∧ storeClock - clock verifier ≤ guard) ∧
    ∀ verifier other, clock verifier - clock other ≤ guard

instance (guard : Int) (state : State verifiers) (clock : Fin verifiers → Int)
    (storeClock : Int) : Decidable (state.CanAdvance guard clock storeClock) :=
  inferInstanceAs (Decidable (_ ∧ _ ∧ _ ∧ _))

def verify (stages : Stages Request) (state : State verifiers) (verifier : Fin verifiers)
    (input : AttestationVerifyInput Request) (envelope : TransactionIdFields) : State verifiers :=
  match verifyDecodedAttestationProof stages input envelope with
  | .error _ => state
  | .ok proof =>
    let verification : Verification verifiers :=
      { verifier
        replayNamespace := input.replayNamespace
        publicOrigin := input.publicOrigin
        policy := input.policy
        envelope, proof
        retainUntilMs := some proof.retainUntilMs }
    { state with verifications := state.verifications ++ [verification] }

/-- The check of the timing that the middleware repeats. -/
def recheckAt (verification : Verification verifiers) (nowMs : Int) : Verification verifiers :=
  match checkProofTiming verification.proof.timestampMs nowMs verification.proof.keyEntry
      verification.policy with
  | .error _ => { verification with retainUntilMs := none }
  | .ok timing => { verification with retainUntilMs := timing.retainUntilMs }

def recheck (state : State verifiers) (number : Nat) (nowMs : Int) : State verifiers :=
  { state with
    verifications := state.verifications.modify number fun verification =>
      recheckAt verification nowMs }

def reserve (state : State verifiers) (number : Nat) (replayKey : String) (retainUntilMs : Int) :
    State verifiers :=
  let outcome := state.store.reserve replayKey (some retainUntilMs) none state.storeClock
  let attempt : Attempt :=
    { verification := number, replayKey, retainUntilMs, answer := outcome.2 }
  { state with store := outcome.1, attempts := state.attempts ++ [attempt] }

def step (stages : Stages Request) (guard : Int) (state : State verifiers)
    (event : Event Request verifiers) : Option (State verifiers) :=
  match event with
  | .advance clock storeClock =>
    if state.CanAdvance guard clock storeClock then some { state with clock, storeClock }
    else none
  | .verify verifier input envelope =>
    if input.nowMs ≤ state.clock verifier then
      some (state.verify stages verifier input envelope)
    else none
  | .recheck number =>
    match state.verifications[number]? with
    | none => none
    | some verification =>
      some (state.recheck number (state.clock verification.verifier))
  | .reserve number =>
    match state.verifications[number]? with
    | none => none
    | some verification =>
      verification.retainUntilMs.map fun retainUntilMs =>
        state.reserve number verification.proof.replayKey retainUntilMs

def start (verifiers : Nat) (store : MemoryAttestationStore) : State verifiers where
  clock := fun _ => 0
  storeClock := 0
  store := store
  verifications := []
  attempts := []

end State

/-- Verifiers and a new store, under any order of verifications, re-checks and reservations. -/
def system {Request : Type} (stages : Stages Request) (verifiers : Nat) (guard : Int)
    (store : MemoryAttestationStore) :
    TransitionSystem (State verifiers) (Event Request verifiers) where
  start := .start verifiers store
  step := State.step stages guard

variable {Request : Type} {stages : Stages Request} {verifiers : Nat} {guard : Int}

/-- The deadline of a proof, whatever clock finds it valid. -/
def Verification.retention (verification : Verification verifiers) : Option Int :=
  (timingInput verification.proof.timestampMs 0 verification.proof.keyEntry
    verification.policy).retention

/-- The same envelope, with the same window of its key and the same policy. -/
structure SameProof (one other : Verification verifiers) : Prop where
  replayNamespace : one.replayNamespace = other.replayNamespace
  publicOrigin : one.publicOrigin = other.publicOrigin
  keyId : one.envelope.keyId = other.envelope.keyId
  timestamp : one.envelope.timestampMs = other.envelope.timestampMs
  nonce : one.envelope.nonceHex = other.envelope.nonceHex
  acceptFrom : one.proof.keyEntry.acceptFrom = other.proof.keyEntry.acceptFrom
  acceptUntil : one.proof.keyEntry.acceptUntil = other.proof.keyEntry.acceptUntil
  policy : one.policy = other.policy

/-- Of all reservations of one proof, by any verifications, one is answered `reserved` at most. -/
def AtMostOneReserved (state : State verifiers) : Prop :=
  ∀ (first second : Nat) (one other : Attempt) (a b : Verification verifiers),
    state.attempts[first]? = some one → state.attempts[second]? = some other →
    state.verifications[one.verification]? = some a →
    state.verifications[other.verification]? = some b → SameProof a b →
    one.answer = .ok .reserved → other.answer = .ok .reserved → first = second

def Attempt.reservation (attempt : Attempt) : Option (String × Int) :=
  match attempt.answer with
  | .ok .reserved => some (attempt.replayKey, attempt.retainUntilMs)
  | _ => none

theorem Attempt.reservation_of_reserved {attempt : Attempt}
    (reserved : attempt.answer = .ok .reserved) :
    attempt.reservation = some (attempt.replayKey, attempt.retainUntilMs) := by
  rw [reservation, reserved]

/-- What a verification holds was computed from its envelope, its key and its policy. -/
structure VerificationOk (stages : Stages Request) (verification : Verification verifiers) :
    Prop where
  timestamp : verification.proof.timestampMs = verification.envelope.timestampMs
  key : deriveReplayKey stages verification.replayNamespace verification.publicOrigin
    verification.envelope.nonceHex = .ok verification.proof.replayKey
  retained : ∀ retainUntilMs, verification.retainUntilMs = some retainUntilMs →
    verification.retention = some retainUntilMs

/-- An attempt is one of its verification. -/
def AttemptOk (state : State verifiers) (attempt : Attempt) : Prop :=
  ∃ verification, state.verifications[attempt.verification]? = some verification ∧
    attempt.replayKey = verification.proof.replayKey ∧
    verification.retention = some attempt.retainUntilMs

structure Inv (stages : Stages Request) (state : State verifiers) : Prop where
  coherent : state.store.Coherent
  exact : Exact state.storeClock state.store.ledger
    (state.attempts.filterMap Attempt.reservation)
  verifications : ∀ verification ∈ state.verifications, VerificationOk stages verification
  attempts : ∀ attempt ∈ state.attempts, AttemptOk state attempt

theorem VerificationOk.of_verified (verifier : Fin verifiers)
    {input : AttestationVerifyInput Request} {envelope : TransactionIdFields}
    {proof : AttestationVerifiedProof}
    (verified : Verified stages input envelope proof) :
    VerificationOk stages
      { verifier
        replayNamespace := input.replayNamespace
        publicOrigin := input.publicOrigin
        policy := input.policy
        envelope, proof
        retainUntilMs := some proof.retainUntilMs } where
  __ := verified
  retained := by
    intro retainUntilMs same
    obtain ⟨evaluated, valid⟩ := checkProofTiming_ok verified.timed
    have timing := evaluateProofTiming_ok evaluated
    rw [timing] at valid
    have retained := verified.retained
    rw [timing, ((timingInput _ _ _ _).timing_valid valid).2] at retained
    rw [Verification.retention, verified.timestamp]
    exact retained.trans same

theorem VerificationOk.recheck {verification : Verification verifiers}
    (ok : VerificationOk stages verification) (nowMs : Int) :
    VerificationOk stages (State.recheckAt verification nowMs) := by
  rw [State.recheckAt]
  split
  · constructor
    · exact ok.timestamp
    · exact ok.key
    · intro retainUntilMs same
      contradiction
  · next timing checked =>
    constructor
    · exact ok.timestamp
    · exact ok.key
    · intro retainUntilMs same
      obtain ⟨evaluated, valid⟩ := checkProofTiming_ok checked
      have fromInput := evaluateProofTiming_ok evaluated
      rw [fromInput] at valid
      have retained : timing.retainUntilMs = some retainUntilMs := same
      rw [fromInput, ((timingInput _ _ _ _).timing_valid valid).2] at retained
      exact retained

theorem retention_recheckAt (verification : Verification verifiers) (nowMs : Int) :
    (State.recheckAt verification nowMs).proof = verification.proof ∧
      (State.recheckAt verification nowMs).retention = verification.retention := by
  rw [State.recheckAt]
  split
  · exact ⟨rfl, rfl⟩
  · exact ⟨rfl, rfl⟩

variable {state : State verifiers}

theorem inv_verify (inv : Inv stages state) (verifier : Fin verifiers)
    (input : AttestationVerifyInput Request) (envelope : TransactionIdFields) :
    Inv stages (state.verify stages verifier input envelope) := by
  delta State.verify
  split
  · exact inv
  · next proof verified =>
    have ok := VerificationOk.of_verified verifier (verifyDecodedAttestationProof_ok verified)
    constructor
    · exact inv.coherent
    · exact inv.exact
    · intro verification member
      rcases List.mem_append.mp member with member | last
      · exact inv.verifications verification member
      · rw [List.mem_singleton.mp last]
        exact ok
    · intro attempt member
      obtain ⟨verification, found, key, retained⟩ := inv.attempts attempt member
      refine ⟨verification, ?_, key, retained⟩
      have inside := (List.getElem?_eq_some_iff.mp found).1
      exact (List.getElem?_append_left inside).trans found

theorem inv_recheck (inv : Inv stages state) (number : Nat) (nowMs : Int) :
    Inv stages (state.recheck number nowMs) where
  __ := inv
  verifications := by
    intro verification member
    obtain ⟨index, found⟩ := List.mem_iff_getElem?.mp member
    rw [State.recheck, List.getElem?_modify] at found
    obtain ⟨before, listed, same⟩ := Option.map_eq_some_iff.mp found
    have ok := inv.verifications before (List.mem_of_getElem? listed)
    by_cases here : number = index
    · rw [if_pos here] at same
      rw [← same]
      exact ok.recheck nowMs
    · rw [if_neg here] at same
      rw [← same]
      exact ok
  attempts := by
    intro attempt member
    obtain ⟨verification, found, key, retained⟩ := inv.attempts attempt member
    have found' : (state.recheck number nowMs).verifications[attempt.verification]? =
        some (if number = attempt.verification then State.recheckAt verification nowMs
          else verification) := by
      rw [State.recheck, List.getElem?_modify, found]
      rfl
    refine ⟨_, found', ?_⟩
    obtain ⟨proof, retention⟩ := retention_recheckAt verification nowMs
    by_cases here : number = attempt.verification
    · rw [if_pos here, proof, retention]
      exact ⟨key, retained⟩
    · rw [if_neg here]
      exact ⟨key, retained⟩

theorem inv_reserve (inv : Inv stages state) {number : Nat}
    {verification : Verification verifiers}
    (found : state.verifications[number]? = some verification) {retainUntilMs : Int}
    (held : verification.retainUntilMs = some retainUntilMs) :
    Inv stages (state.reserve number verification.proof.replayKey retainUntilMs) := by
  have ok := inv.verifications verification (List.mem_of_getElem? found)
  obtain ⟨coherent, keeps, reserves⟩ := inv.coherent.reserve verification.proof.replayKey
    (some retainUntilMs) none state.storeClock
  constructor
  · exact coherent
  · show Exact state.storeClock _ ((state.attempts ++ [_]).filterMap Attempt.reservation)
    rw [List.filterMap_append, List.filterMap_cons, List.filterMap_nil]
    by_cases reserved : (state.store.reserve verification.proof.replayKey (some retainUntilMs) none
        state.storeClock).2 = .ok .reserved
    · obtain ⟨deadline, given, reserves⟩ := reserves reserved
      rw [Attempt.reservation_of_reserved reserved]
      have same : retainUntilMs = deadline := Option.some.inj given
      subst same
      exact inv.exact.reserves (Int.le_refl _) reserves
    · have none_ : Attempt.reservation
          { verification := number
            replayKey := verification.proof.replayKey
            retainUntilMs
            answer := (state.store.reserve verification.proof.replayKey (some retainUntilMs) none
              state.storeClock).2 } = none := by
        rw [Attempt.reservation]
        split
        · next answer => exact absurd answer reserved
        · rfl
      rw [none_]
      simp only [List.append_nil]
      exact inv.exact.keeps (Int.le_refl _) keeps
  · exact inv.verifications
  · intro attempt member
    rcases List.mem_append.mp member with member | last
    · exact inv.attempts attempt member
    · rw [List.mem_singleton.mp last]
      exact ⟨verification, found, rfl, ok.retained retainUntilMs held⟩

theorem inv_step (event : Event Request verifiers) {next : State verifiers}
    (inv : Inv stages state) (taken : state.step stages guard event = some next) :
    Inv stages next := by
  cases event with
  | advance clock storeClock =>
    rw [State.step] at taken
    split at taken
    · next allowed =>
      rw [← Option.some.inj taken]
      exact
        { coherent := inv.coherent
          exact := inv.exact.keeps allowed.2.1 fun _ _ found _ => found
          verifications := inv.verifications
          attempts := inv.attempts }
    · contradiction
  | verify verifier input envelope =>
    rw [State.step] at taken
    split at taken
    · rw [← Option.some.inj taken]
      exact inv_verify inv verifier input envelope
    · contradiction
  | recheck number =>
    rw [State.step] at taken
    split at taken
    · contradiction
    · rw [← Option.some.inj taken]
      exact inv_recheck inv number _
  | reserve number =>
    rw [State.step] at taken
    split at taken
    · contradiction
    · next verification found =>
      obtain ⟨retainUntilMs, held, same⟩ := Option.map_eq_some_iff.mp taken
      rw [← same]
      exact inv_reserve inv found held

theorem inv_reachable {maxEntries : Option Int} {store : MemoryAttestationStore}
    (made : MemoryAttestationStore.new maxEntries = .ok store)
    (reached : (system stages verifiers guard store).Reachable state) : Inv stages state := by
  apply reached.invariant
  · exact
      { coherent := MemoryAttestationStore.coherent_new made
        exact := Exact.start _ _
        verifications := by
          intro verification member
          cases member
        attempts := by
          intro attempt member
          cases member }
  · intro before event next inv taken
    exact inv_step event inv taken

theorem SameProof.retention {one other : Verification verifiers} (same : SameProof one other)
    (ok : VerificationOk stages one) (ok' : VerificationOk stages other) :
    one.retention = other.retention := by
  rw [Verification.retention, Verification.retention, ok.timestamp, ok'.timestamp]
  simp only [timingInput, ProofTimingInput.retention, ProofTimingInput.timeDeadlineMs,
    same.timestamp, same.acceptUntil, same.policy]

theorem SameProof.replayKey {one other : Verification verifiers} (same : SameProof one other)
    (ok : VerificationOk stages one) (ok' : VerificationOk stages other) :
    one.proof.replayKey = other.proof.replayKey := by
  have key := ok.key
  rw [same.replayNamespace, same.publicOrigin, same.nonce, ok'.key] at key
  exact (Except.ok.inj key).symm

theorem Inv.atMostOneReserved (inv : Inv stages state) : AtMostOneReserved state := by
  intro first second one other a b atFirst atSecond ofOne ofOther same reserved reserved'
  have okA := inv.verifications a (List.mem_of_getElem? ofOne)
  have okB := inv.verifications b (List.mem_of_getElem? ofOther)
  obtain ⟨a', ofOne', keyA, retainedA⟩ := inv.attempts one (List.mem_of_getElem? atFirst)
  obtain ⟨b', ofOther', keyB, retainedB⟩ := inv.attempts other (List.mem_of_getElem? atSecond)
  rw [ofOne, Option.some.injEq] at ofOne'
  rw [ofOther, Option.some.injEq] at ofOther'
  rw [← ofOne'] at keyA retainedA
  rw [← ofOther'] at keyB retainedB
  have keys : one.replayKey = other.replayKey := by
    rw [keyA, keyB]
    exact same.replayKey okA okB
  have deadlines : one.retainUntilMs = other.retainUntilMs := by
    rw [same.retention okA okB, retainedB] at retainedA
    exact (Option.some.inj retainedA).symm
  have pairs : one.reservation = other.reservation := by
    rw [one.reservation_of_reserved reserved, other.reservation_of_reserved reserved', keys,
      deadlines]
  have distinct := inv.exact.distinct
  rw [List.Nodup, List.pairwise_filterMap] at distinct
  by_contra apart
  have never (before after : Nat) (early late : Attempt) (ordered : before < after)
      (atBefore : state.attempts[before]? = some early)
      (atAfter : state.attempts[after]? = some late)
      (equal : early.reservation = late.reservation)
      (taken : early.answer = .ok .reserved) : False := by
    obtain ⟨insideBefore, rfl⟩ := List.getElem?_eq_some_iff.mp atBefore
    obtain ⟨insideAfter, rfl⟩ := List.getElem?_eq_some_iff.mp atAfter
    have differ := List.pairwise_iff_getElem.mp distinct before after insideBefore insideAfter
      ordered
    have found := Attempt.reservation_of_reserved taken
    exact differ _ found _ (equal ▸ found) rfl
  have order : first < second ∨ second < first := by omega
  rcases order with before | after
  · exact never first second one other before atFirst atSecond pairs reserved
  · exact never second first other one after atSecond atFirst pairs.symm reserved'

/-- A store clock within the guard of a verifier never finds the deadline of a valid proof too far
ahead. -/
def NeverOverlong : Prop :=
  ∀ (input : ProofTimingInput) (timing : ProofTiming) (retainUntilMs storeMs : Int),
    evaluateProofTiming input = .ok timing → timing.decision = .valid →
    timing.retainUntilMs = some retainUntilMs →
    input.nowMs - storeMs ≤ input.policy.clusterClockGuardMs →
    storeMs - input.nowMs ≤ input.policy.clusterClockGuardMs →
    checkRetentionAdmissible retainUntilMs storeMs input.policy ≠ .ok .overlong

theorem neverOverlong : NeverOverlong := by
  intro input timing retainUntilMs storeMs evaluated valid retained near _
  have fromInput := evaluateProofTiming_ok evaluated
  rw [fromInput] at valid retained
  apply checkRetentionAdmissible_ne_overlong
  exact remaining_le valid retained near

/-- No attestation proof is admitted twice, whatever the order of events, and no proof is kept
longer than a store admits. -/
theorem proof_admitted_once {maxEntries : Option Int} {store : MemoryAttestationStore}
    (made : MemoryAttestationStore.new maxEntries = .ok store)
    (reached : (system stages verifiers guard store).Reachable state) :
    AtMostOneReserved state ∧ NeverOverlong :=
  ⟨(inv_reachable made reached).atMostOneReserved, neverOverlong⟩

section Example

/-- The stages as they answer for one request: `GET /items` without a body. -/
def exampleStages : Stages Unit where
  sha256Hex := fun _ => "f7eaf8e99721f8b868176905cfb802a4bd21f7ac4f5de0371c87211c8e0bf576"
  hmacSha256 := fun _ _ => [121, 188, 184, 203, 207, 65, 107, 139, 0, 116, 91, 193, 79, 250, 150,
    117, 207, 41, 30, 225, 127, 80, 154, 93, 150, 50, 17, 193, 237, 78, 251, 20]
  base64urlDecode := fun _ => some [121, 188, 184, 203, 207, 65, 107, 139, 0, 116, 91, 193, 79,
    250, 150, 117, 207, 41, 30, 225, 127, 80, 154, 93, 150, 50, 17, 193, 237, 78, 251, 20]
  validatePublicOrigin := fun _ => .ok ()
  resolveRequestTarget := fun _ => .ok "/items"
  normalizeMethod := fun _ => .ok "GET"
  assertAllowedContentEncoding := fun _ => .ok ()
  resolveContentType := fun _ => .ok ""
  resolveBodyDigest := fun _ =>
    .ok "e3b0c44298fc1c149afbf4c8996fb92427ae41e4649b934ca495991b7852b855"
  buildMacInputBytes := fun _ => .ok []

def exampleInput : AttestationVerifyInput Unit where
  request := ()
  snapshot :=
    { currentKeyId := "k1"
      keys :=
        [{ keyId := "k1", key := List.replicate 32 0, acceptFrom := 0, acceptUntil := 600000 }] }
  nowMs := 1500
  policy :=
    { maxAgeMs := 30000
      clockSkewMs := 5000
      clusterClockGuardMs := 5000
      maxAge_bounds := by decide
      clockSkew_bounds := by decide
      clusterClockGuard_bounds := by decide }
  replayNamespace := "api"
  publicOrigin := "https://a.example"

def exampleEnvelope : TransactionIdFields where
  keyId := "k1"
  timestampMs := 1000
  nonceHex := "0123456789abcdef0123456789abcdef"
  mac := "eby4y89Ba4sAdFvBT_qWdc8pHuF_UJpdljIRwe1O-xQ"

def exampleStore : MemoryAttestationStore where
  reservations := ∅
  expiryHeap := .empty
  maxEntries := 50000
  made := 0

/-- Two verifiers take the same envelope at the same time. -/
def exampleRun : List (Event Unit 2) :=
  [.advance (fun _ => 2000) 1800, .verify 0 exampleInput exampleEnvelope,
    .verify 1 exampleInput exampleEnvelope, .recheck 1, .reserve 0, .reserve 1]

theorem proof_admitted_once_exampleRun : ∃ state : State 2,
    (system exampleStages 2 5000 exampleStore).run exampleRun = some state ∧
    state.attempts.map Attempt.answer = [.ok .reserved, .ok .duplicate] ∧
    AtMostOneReserved state ∧ NeverOverlong := by
  have ran : ((system exampleStages 2 5000 exampleStore).run exampleRun).map
      (fun state => state.attempts.map Attempt.answer) = some [.ok .reserved, .ok .duplicate] := by
    decide +kernel
  obtain ⟨state, ends, answers⟩ := Option.map_eq_some_iff.mp ran
  have made : MemoryAttestationStore.new none = .ok exampleStore := rfl
  exact ⟨state, ends, answers, proof_admitted_once made (.of_run ends)⟩

end Example

end WebTsToolkit.RequestAttestation.Replay
