import WebTsToolkit.Js.Double
import WebTsToolkit.Library.Outcome

set_option autoImplicit false

namespace WebTsToolkit.RequestAttestation

open Js

/-- Errors of malformed input, bounds and options. -/
structure AttestationProtocolError where
  message : String
  deriving DecidableEq, Repr

def protocolError (message : String) : AttestationProtocolError :=
  { message := "[express-request-attestation] " ++ message }

def minMaxAgeMs : Int := 1000
def maxMaxAgeMs : Int := 120000
def minClockSkewMs : Int := 0
def maxClockSkewMs : Int := 30000
def minClusterClockGuardMs : Int := 0
def maxClusterClockGuardMs : Int := 30000

/-- The global retention ceiling. -/
def globalMaxRetentionMs : Int := 240000

/-- Epoch milliseconds are non-negative safe integers. -/
def assertTimestampMs (name : String) (value : Int) : Except AttestationProtocolError Unit :=
  if isSafeInteger value && 0 ≤ value then .ok ()
  else .error (protocolError (name ++ " must be a non-negative safe integer"))

/-- A policy whose windows are within their bounds. -/
structure ResolvedTimePolicy where
  maxAgeMs : Int
  clockSkewMs : Int
  clusterClockGuardMs : Int
  maxAge_bounds : minMaxAgeMs ≤ maxAgeMs ∧ maxAgeMs ≤ maxMaxAgeMs
  clockSkew_bounds : minClockSkewMs ≤ clockSkewMs ∧ clockSkewMs ≤ maxClockSkewMs
  clusterClockGuard_bounds : minClusterClockGuardMs ≤ clusterClockGuardMs ∧
    clusterClockGuardMs ≤ maxClusterClockGuardMs
  deriving DecidableEq

inductive ProofTimingDecision where
  | valid
  | future
  | expired
  | staleKey
  deriving DecidableEq, Repr

structure ProofTiming where
  decision : ProofTimingDecision
  timeDeadlineMs : Option Int
  proofDeadlineMs : Option Int
  retainUntilMs : Option Int
  deriving DecidableEq, Repr

structure ProofTimingInput where
  timestampMs : Int
  nowMs : Int
  acceptFrom : Int
  acceptUntil : Int
  policy : ResolvedTimePolicy

def safeAdd (first second : Int) : Option Int :=
  let sum := first + second
  if isSafeInteger sum then some sum else none

def safeAdd3 (first second third : Int) : Option Int :=
  let sum := first + second + third
  if isSafeInteger sum then some sum else none

namespace ProofTimingInput

def timeDeadlineMs (input : ProofTimingInput) : Option Int :=
  safeAdd3 input.timestampMs input.policy.maxAgeMs input.policy.clockSkewMs

/-- The deadlines as an early decision reports them, without overflow. -/
def bounded (input : ProofTimingInput) (decision : ProofTimingDecision) : ProofTiming :=
  let proofDeadlineMs := match input.timeDeadlineMs with
    | none => input.acceptUntil
    | some timeDeadlineMs => min timeDeadlineMs input.acceptUntil
  { decision
    timeDeadlineMs := input.timeDeadlineMs
    proofDeadlineMs := some proofDeadlineMs
    retainUntilMs := safeAdd proofDeadlineMs input.policy.clusterClockGuardMs }

/-- `evaluateProofTiming` after its assertions. -/
def timing (input : ProofTimingInput) : ProofTiming :=
  if ¬(input.acceptFrom ≤ input.nowMs ∧ input.nowMs < input.acceptUntil) then
    input.bounded .staleKey
  else if input.nowMs + input.policy.clockSkewMs < input.timestampMs then
    input.bounded .future
  else
    match input.timeDeadlineMs with
    | none =>
      { decision := .expired, timeDeadlineMs := none, proofDeadlineMs := none,
        retainUntilMs := none }
    | some timeDeadlineMs =>
      let proofDeadlineMs := min timeDeadlineMs input.acceptUntil
      { decision := if proofDeadlineMs ≤ input.nowMs then .expired else .valid
        timeDeadlineMs := some timeDeadlineMs
        proofDeadlineMs := some proofDeadlineMs
        retainUntilMs := safeAdd proofDeadlineMs input.policy.clusterClockGuardMs }

end ProofTimingInput

/-- One proof's timing against the acceptance window of its key. -/
def evaluateProofTiming (input : ProofTimingInput) :
    Except AttestationProtocolError ProofTiming := do
  assertTimestampMs "timestampMs" input.timestampMs
  assertTimestampMs "nowMs" input.nowMs
  assertTimestampMs "acceptFrom" input.acceptFrom
  assertTimestampMs "acceptUntil" input.acceptUntil
  if input.acceptUntil ≤ input.acceptFrom then
    .error (protocolError "key acceptance window must satisfy acceptFrom < acceptUntil")
  else .ok input.timing

/-- A store clock may trail the verifier by the declared guard once more. -/
def maxStoreAdmissionMs (policy : ResolvedTimePolicy) : Int :=
  min globalMaxRetentionMs
    (policy.maxAgeMs + 2 * policy.clockSkewMs + 2 * policy.clusterClockGuardMs)

inductive RetentionAdmission where
  | admissible
  | expired
  | overlong
  deriving DecidableEq, Repr

/-- Whether a store may admit a deadline at its own time. -/
def checkRetentionAdmissible (retainUntilMs nowMs : Int) (policy : ResolvedTimePolicy) :
    Except AttestationProtocolError RetentionAdmission := do
  assertTimestampMs "retainUntilMs" retainUntilMs
  assertTimestampMs "nowMs" nowMs
  let remaining := retainUntilMs - nowMs
  if retainUntilMs ≤ nowMs then .ok .expired
  else if !isSafeInteger remaining then .ok .overlong
  else if globalMaxRetentionMs < remaining then .ok .overlong
  else if maxStoreAdmissionMs policy < remaining then .ok .overlong
  else .ok .admissible

theorem assertTimestampMs_ok {name : String} {value : Int}
    (passed : assertTimestampMs name value = .ok ()) :
    isSafeInteger value = true ∧ 0 ≤ value := by
  rw [assertTimestampMs] at passed
  by_cases safe : (isSafeInteger value && 0 ≤ value) = true
  · rw [Bool.and_eq_true, decide_eq_true_iff] at safe
    exact safe
  · rw [if_neg safe] at passed
    contradiction

variable {input : ProofTimingInput}

theorem evaluateProofTiming_ok {timing : ProofTiming}
    (evaluated : evaluateProofTiming input = .ok timing) : timing = input.timing := by
  obtain ⟨_, _, evaluated⟩ := Library.bind_eq_ok evaluated
  obtain ⟨_, _, evaluated⟩ := Library.bind_eq_ok evaluated
  obtain ⟨_, _, evaluated⟩ := Library.bind_eq_ok evaluated
  obtain ⟨_, _, evaluated⟩ := Library.bind_eq_ok evaluated
  by_cases empty : input.acceptUntil ≤ input.acceptFrom
  · rw [if_pos empty] at evaluated
    contradiction
  · rw [if_neg empty] at evaluated
    exact (Except.ok.inj evaluated).symm

/-- What a proof retains does not depend on the clock that finds it valid. -/
def ProofTimingInput.retention (input : ProofTimingInput) : Option Int :=
  input.timeDeadlineMs.bind fun timeDeadlineMs =>
    safeAdd (min timeDeadlineMs input.acceptUntil) input.policy.clusterClockGuardMs

theorem safeAdd3_eq_some {first second third sum : Int}
    (added : safeAdd3 first second third = some sum) : sum = first + second + third := by
  rw [safeAdd3] at added
  split at added
  · exact (Option.some.inj added).symm
  · contradiction

theorem safeAdd_eq_some {first second sum : Int} (added : safeAdd first second = some sum) :
    sum = first + second := by
  rw [safeAdd] at added
  split at added
  · exact (Option.some.inj added).symm
  · contradiction

/-- A valid decision: the key is active, the timestamp is not ahead by more than the skew, and the
deadline is not reached. -/
theorem ProofTimingInput.timing_valid (valid : input.timing.decision = .valid) :
    input.timestampMs ≤ input.nowMs + input.policy.clockSkewMs ∧
      input.timing.retainUntilMs = input.retention := by
  rw [timing] at valid ⊢
  by_cases active : input.acceptFrom ≤ input.nowMs ∧ input.nowMs < input.acceptUntil
  · rw [if_neg (not_not.mpr active)] at valid ⊢
    by_cases ahead : input.nowMs + input.policy.clockSkewMs < input.timestampMs
    · rw [if_pos ahead] at valid
      contradiction
    · rw [if_neg ahead] at valid ⊢
      refine ⟨by omega, ?_⟩
      rw [retention]
      cases deadline : input.timeDeadlineMs with
      | none | some timeDeadlineMs => rfl
  · rw [if_pos active] at valid
    contradiction

theorem maxStoreAdmissionMs_eq (policy : ResolvedTimePolicy) : maxStoreAdmissionMs policy =
    policy.maxAgeMs + 2 * policy.clockSkewMs + 2 * policy.clusterClockGuardMs := by
  have age := policy.maxAge_bounds
  have skew := policy.clockSkew_bounds
  have guard := policy.clusterClockGuard_bounds
  rw [maxStoreAdmissionMs]
  apply min_eq_right
  simp only [maxMaxAgeMs, maxClockSkewMs, maxClusterClockGuardMs, globalMaxRetentionMs]
    at age skew guard ⊢
  omega

/-- A store clock that trails a verifier by no more than the guard does not find the deadline of
a valid proof too far ahead. -/
theorem remaining_le (valid : input.timing.decision = .valid) {retainUntilMs : Int}
    (retained : input.timing.retainUntilMs = some retainUntilMs) {storeMs : Int}
    (near : input.nowMs - storeMs ≤ input.policy.clusterClockGuardMs) :
    retainUntilMs - storeMs ≤ maxStoreAdmissionMs input.policy := by
  obtain ⟨fresh, same⟩ := input.timing_valid valid
  rw [same, ProofTimingInput.retention] at retained
  obtain ⟨deadline, added, guarded⟩ := Option.bind_eq_some_iff.mp retained
  have sum := safeAdd3_eq_some added
  have total := safeAdd_eq_some guarded
  have smaller := min_le_left deadline input.acceptUntil
  rw [maxStoreAdmissionMs_eq]
  omega

theorem checkRetentionAdmissible_ne_overlong {retainUntilMs nowMs : Int}
    {policy : ResolvedTimePolicy} (short : retainUntilMs - nowMs ≤ maxStoreAdmissionMs policy) :
    checkRetentionAdmissible retainUntilMs nowMs policy ≠ .ok .overlong := by
  intro overlong
  obtain ⟨_, passed, overlong⟩ := Library.bind_eq_ok overlong
  obtain ⟨_, passed', overlong⟩ := Library.bind_eq_ok overlong
  have global : maxStoreAdmissionMs policy ≤ globalMaxRetentionMs := min_le_left _ _
  by_cases past : retainUntilMs ≤ nowMs
  · rw [if_pos past] at overlong
    contradiction
  · have safe : isSafeInteger (retainUntilMs - nowMs) = true := by
      rw [isSafeInteger_iff]
      rw [globalMaxRetentionMs] at global
      omega
    rw [if_neg past, if_neg (by rw [safe]; decide), if_neg (by omega), if_neg (by omega)]
      at overlong
    contradiction

end WebTsToolkit.RequestAttestation
