import WebTsToolkit.Js.Json
import WebTsToolkit.Js.Text
import WebTsToolkit.RequestAttestation.TimePolicy

set_option autoImplicit false

namespace WebTsToolkit.RequestAttestation

open Js

/-- The fixed errors of the guard. -/
inductive AttestationErrorCode where
  | missing
  | malformed
  | staleKey
  | expired
  | future
  | invalidSignature
  | replay
  | bodyTooLarge
  | unsupportedEncoding
  | bodyCaptureRequired
  | internalError
  | keysUnavailable
  | replayUnavailable
  deriving DecidableEq, Repr

/-- `fail(code)` in place of a missing value. -/
def orFail {α : Type} (code : AttestationErrorCode) (value : Option α) :
    Except AttestationErrorCode α :=
  match value with
  | none => .error code
  | some value => .ok value

structure AttestationKeyEntry where
  keyId : String
  key : List UInt8
  acceptFrom : Int
  acceptUntil : Int
  deriving DecidableEq

structure AttestationKeySnapshot where
  currentKeyId : String
  keys : List AttestationKeyEntry
  deriving DecidableEq

/-- A decoded transaction id. -/
structure TransactionIdFields where
  keyId : String
  timestampMs : Int
  nonceHex : String
  mac : String
  deriving DecidableEq

/-- `/^[A-Za-z0-9_-]{1,limit}$/`. -/
def isToken (limit : Nat) (text : String) : Bool :=
  text.toList.all (fun c => isLetter c || isDigit c || c == '_' || c == '-') &&
    1 ≤ text.toList.length && text.toList.length ≤ limit

/-- `/^[0-9a-f]{32}$/`. -/
def isNonceHex (text : String) : Bool :=
  text.toList.all (fun c => isDigit c || ('a' ≤ c && c ≤ 'f')) && text.toList.length == 32

def keyBytesLength : Nat := 32

def validEntry (entry : AttestationKeyEntry) : Bool :=
  isToken 64 entry.keyId && entry.key.length == keyBytesLength &&
    isSafeInteger entry.acceptFrom && 0 ≤ entry.acceptFrom &&
    isSafeInteger entry.acceptUntil && 0 ≤ entry.acceptUntil &&
    entry.acceptFrom < entry.acceptUntil

/-- Every failure, whichever check it is, becomes the same error. -/
def copyAttestationSnapshot (snapshot : AttestationKeySnapshot) :
    Except AttestationErrorCode AttestationKeySnapshot :=
  let keyIds := snapshot.keys.map AttestationKeyEntry.keyId
  if isToken 64 snapshot.currentKeyId && 1 ≤ snapshot.keys.length && snapshot.keys.length ≤ 16 &&
      snapshot.keys.all validEntry && keyIds.Nodup && keyIds.contains snapshot.currentKeyId then
    .ok snapshot
  else .error .keysUnavailable

/-- The timing of a known key, or its fixed error. -/
def checkProofTiming (timestampMs nowMs : Int) (keyEntry : AttestationKeyEntry)
    (policy : ResolvedTimePolicy) : Except AttestationErrorCode ProofTiming :=
  let input : ProofTimingInput :=
    { timestampMs, nowMs, acceptFrom := keyEntry.acceptFrom,
      acceptUntil := keyEntry.acceptUntil, policy }
  match evaluateProofTiming input with
  | .error _ => .error .internalError
  | .ok timing =>
    match timing.decision with
    | .valid => .ok timing
    | .future => .error .future
    | .expired => .error .expired
    | .staleKey => .error .staleKey

structure MacInputFields where
  replayNamespace : String
  publicOrigin : String
  keyId : String
  timestampMs : Int
  nonceHex : String
  method : String
  requestTarget : String
  contentType : String
  bodyHashHex : String
  deriving DecidableEq

/-- The hashing of the platform, and the stages of a verification that read the request and not
the clock, with the error each one fails with. -/
structure Stages (Request : Type) where
  sha256Hex : String → String
  hmacSha256 : List UInt8 → List UInt8 → List UInt8
  base64urlDecode : String → Option (List UInt8)
  validatePublicOrigin : String → Except AttestationProtocolError Unit
  resolveRequestTarget : Request → Except AttestationErrorCode String
  normalizeMethod : Request → Except AttestationErrorCode String
  assertAllowedContentEncoding : Request → Except AttestationErrorCode Unit
  resolveContentType : Request → Except AttestationErrorCode String
  resolveBodyDigest : Request → Except AttestationErrorCode String
  buildMacInputBytes : MacInputFields → Except AttestationErrorCode (List UInt8)

structure AttestationVerifyInput (Request : Type) where
  request : Request
  snapshot : AttestationKeySnapshot
  nowMs : Int
  policy : ResolvedTimePolicy
  replayNamespace : String
  publicOrigin : String

/-- A verification result; no nonce is reserved yet. -/
structure AttestationVerifiedProof where
  keyId : String
  timestampMs : Int
  nonceHex : String
  keyEntry : AttestationKeyEntry
  timing : ProofTiming
  replayKey : String
  retainUntilMs : Int
  method : String
  requestTarget : String
  contentType : String
  bodyHashHex : String

def replayKeyPrefix : String := "att:v1:"

section Verifying

variable {Request : Type} (stages : Stages Request)

/-- The preimage of a replay key holds neither the key id nor the path, so a nonce stays
single-use. -/
def buildReplayKeyPreimage (replayNamespace publicOrigin nonceHex : String) :
    Except AttestationProtocolError String := do
  if isToken 128 replayNamespace then
    stages.validatePublicOrigin publicOrigin
    if isNonceHex nonceHex then
      .ok (Json.stringifyStrings [replayNamespace, publicOrigin, nonceHex])
    else .error (protocolError "nonceHex must be exactly 32 lowercase hex characters")
  else .error (protocolError "replayNamespace must match [A-Za-z0-9_-]\x7b1,128\x7d")

def deriveReplayKey (replayNamespace publicOrigin nonceHex : String) :
    Except AttestationProtocolError String :=
  (buildReplayKeyPreimage stages replayNamespace publicOrigin nonceHex).map fun preimage =>
    replayKeyPrefix ++ stages.sha256Hex preimage

/-- The signature stage: the presented bytes are those of the key. -/
def verifyMac (key macInput : List UInt8) (mac : String) : Except AttestationErrorCode Unit :=
  match stages.base64urlDecode mac with
  | none => .error .malformed
  | some presented =>
    if presented.length ≠ 32 then .error .invalidSignature
    else if presented = stages.hmacSha256 key macInput then .ok ()
    else .error .invalidSignature

/-- `verifyDecodedAttestationProof`: the stages in their order. -/
def verifyDecodedAttestationProof (input : AttestationVerifyInput Request)
    (envelope : TransactionIdFields) : Except AttestationErrorCode AttestationVerifiedProof := do
  let snapshot ← copyAttestationSnapshot input.snapshot
  let keyEntry ← orFail .staleKey
    (snapshot.keys.find? fun entry => entry.keyId == envelope.keyId)
  (assertTimestampMs "nowMs" input.nowMs).mapError fun _ => .internalError
  let timing ← checkProofTiming envelope.timestampMs input.nowMs keyEntry input.policy
  let requestTarget ← stages.resolveRequestTarget input.request
  let method ← stages.normalizeMethod input.request
  stages.assertAllowedContentEncoding input.request
  let contentType ← stages.resolveContentType input.request
  let bodyHashHex ← stages.resolveBodyDigest input.request
  let macInput ← stages.buildMacInputBytes
    { replayNamespace := input.replayNamespace
      publicOrigin := input.publicOrigin
      keyId := envelope.keyId
      timestampMs := envelope.timestampMs
      nonceHex := envelope.nonceHex
      method, requestTarget, contentType, bodyHashHex }
  verifyMac stages keyEntry.key macInput envelope.mac
  let replayKey ← (deriveReplayKey stages input.replayNamespace input.publicOrigin
    envelope.nonceHex).mapError fun _ => .internalError
  let retainUntilMs ← orFail .expired timing.retainUntilMs
  .ok
    { keyId := envelope.keyId
      timestampMs := envelope.timestampMs
      nonceHex := envelope.nonceHex
      keyEntry, timing, replayKey, retainUntilMs
      method, requestTarget, contentType, bodyHashHex }

end Verifying

/-- What `evaluateProofTiming` sees of a proof. -/
def timingInput (timestampMs nowMs : Int) (keyEntry : AttestationKeyEntry)
    (policy : ResolvedTimePolicy) : ProofTimingInput :=
  { timestampMs, nowMs, acceptFrom := keyEntry.acceptFrom, acceptUntil := keyEntry.acceptUntil,
    policy }

theorem checkProofTiming_ok {timestampMs nowMs : Int} {keyEntry : AttestationKeyEntry}
    {policy : ResolvedTimePolicy} {timing : ProofTiming}
    (passed : checkProofTiming timestampMs nowMs keyEntry policy = .ok timing) :
    evaluateProofTiming (timingInput timestampMs nowMs keyEntry policy) = .ok timing ∧
      timing.decision = .valid := by
  rw [checkProofTiming] at passed
  split at passed
  · contradiction
  · next found evaluated =>
    split at passed
    · next valid =>
      rw [← Except.ok.inj passed]
      exact ⟨evaluated, valid⟩
    · contradiction
    · contradiction
    · contradiction

theorem orFail_ok {α : Type} {code : AttestationErrorCode} {value : Option α} {found : α}
    (passed : orFail code value = .ok found) : value = some found := by
  cases value with
  | none => contradiction
  | some value => rw [Except.ok.inj passed]

variable {Request : Type} {stages : Stages Request}

/-- What a successful verification tells. -/
structure Verified (stages : Stages Request) (input : AttestationVerifyInput Request)
    (envelope : TransactionIdFields) (proof : AttestationVerifiedProof) : Prop where
  timestamp : proof.timestampMs = envelope.timestampMs
  entry : proof.keyEntry ∈ input.snapshot.keys
  timed : checkProofTiming envelope.timestampMs input.nowMs proof.keyEntry input.policy =
    .ok proof.timing
  key : deriveReplayKey stages input.replayNamespace input.publicOrigin envelope.nonceHex =
    .ok proof.replayKey
  retained : proof.timing.retainUntilMs = some proof.retainUntilMs
  signed : ∃ macInput, stages.buildMacInputBytes
      { replayNamespace := input.replayNamespace
        publicOrigin := input.publicOrigin
        keyId := proof.keyId
        timestampMs := proof.timestampMs
        nonceHex := proof.nonceHex
        method := proof.method
        requestTarget := proof.requestTarget
        contentType := proof.contentType
        bodyHashHex := proof.bodyHashHex } = .ok macInput ∧
    verifyMac stages proof.keyEntry.key macInput envelope.mac = .ok ()

theorem verifyDecodedAttestationProof_ok {input : AttestationVerifyInput Request}
    {envelope : TransactionIdFields} {proof : AttestationVerifiedProof}
    (verified : verifyDecodedAttestationProof stages input envelope = .ok proof) :
    Verified stages input envelope proof := by
  obtain ⟨snapshot, copied, verified⟩ := Library.bind_eq_ok verified
  obtain ⟨keyEntry, found, verified⟩ := Library.bind_eq_ok verified
  obtain ⟨_, _, verified⟩ := Library.bind_eq_ok verified
  obtain ⟨timing, timed, verified⟩ := Library.bind_eq_ok verified
  obtain ⟨requestTarget, _, verified⟩ := Library.bind_eq_ok verified
  obtain ⟨method, _, verified⟩ := Library.bind_eq_ok verified
  obtain ⟨_, _, verified⟩ := Library.bind_eq_ok verified
  obtain ⟨contentType, _, verified⟩ := Library.bind_eq_ok verified
  obtain ⟨bodyHashHex, _, verified⟩ := Library.bind_eq_ok verified
  obtain ⟨macInput, built, verified⟩ := Library.bind_eq_ok verified
  obtain ⟨_, signed, verified⟩ := Library.bind_eq_ok verified
  obtain ⟨replayKey, derived, verified⟩ := Library.bind_eq_ok verified
  obtain ⟨retainUntilMs, retained, verified⟩ := Library.bind_eq_ok verified
  rw [← Except.ok.inj verified]
  have unchanged : snapshot = input.snapshot := by
    rw [copyAttestationSnapshot] at copied
    split at copied
    · exact (Except.ok.inj copied).symm
    · contradiction
  have listed := orFail_ok found
  rw [unchanged] at listed
  exact
    { timestamp := rfl
      entry := List.mem_of_find?_eq_some listed
      timed := timed
      key := Library.mapError_eq_ok derived
      retained := orFail_ok retained
      signed := ⟨macInput, built, signed⟩ }

end WebTsToolkit.RequestAttestation
