import WebTsToolkit.Js.Json
import WebTsToolkit.Js.Double
import WebTsToolkit.Js.Numeral
import WebTsToolkit.Js.Property

set_option autoImplicit false

namespace WebTsToolkit.OidcVault

open Js

/-- `/^[\x20-\x7e]{1,128}$/`. -/
def isPrintableIdentifier (text : String) : Bool :=
  1 ≤ text.length && text.length ≤ 128 && text.toList.all fun c => 0x20 ≤ c.toNat && c.toNat ≤ 0x7e

def isBase64url (c : Char) : Bool :=
  isLetter c || isDigit c || c == '_' || c == '-'

/-- `/^[A-Za-z0-9_-]{42}[AEIMQUYcgkosw048]$/`: a SHA-256 digest with its last bits zero. -/
def isCanonicalDpopJkt (text : String) : Bool :=
  text.length == 43 && (text.toList.take 42).all isBase64url &&
    (text.toList.drop 42).all "AEIMQUYcgkosw048".toList.contains

def isDpopAlgorithm (text : String) : Bool :=
  ["ES256", "PS256", "RS256"].contains text

/-- A number that passes `Number.isSafeInteger`. -/
def safeInteger : Value → Option Int
  | .number text => (integerValue text).filter isSafeInteger
  | _ => none

/-- The proof options that the replay policy reads, resolved. `nonceVerify` is the check of the
nonce policy, if there is one. -/
structure ResolvedDeviceBindingOptions where
  algorithms : List String
  proofMaxAgeSeconds : Int
  clockSkewSeconds : Int
  nonceVerify : Option (Value → String → Int → Bool)
  ignoreFreshnessFailure : Bool
  ignoreReplayFailure : Bool
  maxAge_bounds : 1 ≤ proofMaxAgeSeconds ∧ proofMaxAgeSeconds ≤ 300
  clockSkew_bounds : 0 ≤ clockSkewSeconds ∧ clockSkewSeconds ≤ 30

/-- `createDpopReplayKey`, with the SHA-256 digest in base64url. -/
def createDpopReplayKey (digest : String → String) (effectiveNamespace : List String)
    (jkt jti : String) : Option String :=
  if !isCanonicalDpopJkt jkt || !isPrintableIdentifier jti then none
  else some ("dpop:v1:" ++ digest ("[" ++ Json.stringifyStrings effectiveNamespace ++ "," ++
    Json.stringifyString jkt ++ "," ++ Json.stringifyString jti ++ "]"))

/-- `getDpopReplayExpiresAt` of an integer `iat`. A product or a sum past the safe integers is
refused, whether it was rounded or not. -/
def getDpopReplayExpiresAt (iat now age skew : Int) : Option Int :=
  if !isSafeInteger iat || iat < 0 || !isSafeInteger now || now < 0 || age < 1 || 300 < age ||
      skew < 0 || 30 < skew then none
  else
    let issuedAt := iat * 1000
    let expiresAt := (iat + age + skew) * 1000
    if !isSafeInteger issuedAt || !isSafeInteger expiresAt || skew * 1000 < issuedAt - now ||
        expiresAt ≤ now || 360000 < expiresAt - now then none
    else some expiresAt

/-- How `verifyAndReserve` fails. -/
inductive DpopFailure where
  /-- The verification that comes first threw. -/
  | preflight
  | invalidProof (diagnostic : String)
  | replayUnavailable
  | nonceUnavailable
  deriving DecidableEq

inductive DpopReplayResult where
  | accepted (jkt alg : String) (expiresAt : Int)
  | nonceChallenge (nonce : String)
  deriving DecidableEq

/-- What the surroundings answer while a call runs: the verifier's clock, `none` where it throws,
the system's clock, and the nonce that a challenge would have. -/
structure Readings where
  now : Option Value
  fallbackNow : Value
  issuedNonce : Option String

/-- The claims of a verified proof. -/
structure DpopClaims where
  jkt : String
  alg : String
  jti : String
  iat : Int
  nonce : Value

/-- An admission that is asked of the store. A key that cannot be made is none. -/
structure ReplayRequest where
  claims : DpopClaims
  now : Int
  expiresAt : Int
  replayKey : Option String

/-- How a call goes on once its proof is checked. -/
inductive Checked where
  | challenge (nonce : String)
  | reserve (request : ReplayRequest)

def readProperty (value : Value) (key : String) : Value :=
  (ownProperty value key).getD .undefined

/-- Neither null nor an array, and an object by `typeof`. -/
def isRecord : Value → Bool
  | .object _ | .classed _ _ | .date _ | .regexp _ _ => true
  | _ => false

namespace ResolvedDeviceBindingOptions

variable (policy : ResolvedDeviceBindingOptions)

/-- The shape checks of what the verification gave. -/
def readClaims (verified : Value) : Except DpopFailure DpopClaims :=
  if !isRecord verified then
    .error (.invalidProof "DPoP verifier did not return a proof verification result.")
  else
    let binding := readProperty verified "binding"
    if !isRecord binding then
      .error (.invalidProof "DPoP verifier did not return a verified key binding.")
    else
      match readProperty binding "type", readProperty binding "jkt", readProperty binding "alg",
          readProperty verified "jti", safeInteger (readProperty verified "iat") with
      | .string type, .string jkt, .string alg, .string jti, some iat =>
        if type != "dpop" || !isCanonicalDpopJkt jkt || !isDpopAlgorithm alg ||
            !policy.algorithms.contains alg || !isPrintableIdentifier jti || iat < 0 then
          .error (.invalidProof
            "DPoP verified key/algorithm or signed iat/JTI shape is invalid.")
        else .ok { jkt, alg, jti, iat, nonce := readProperty verified "nonce" }
      | _, _, _, _, _ => .error (.invalidProof
          "DPoP verified key/algorithm or signed iat/JTI shape is invalid.")

def clockReading (value : Value) : Option Int :=
  (safeInteger value).filter fun now => 0 ≤ now

/-- The verifier's clock; the system's stands in only where freshness failures are ignored. -/
def checkedNow (readings : Readings) : Except DpopFailure Int :=
  match readings.now.bind clockReading with
  | some now => .ok now
  | none =>
    if !policy.ignoreFreshnessFailure then .error .replayUnavailable
    else
      match clockReading readings.fallbackNow with
      | some now => .ok now
      | none => .error .replayUnavailable

def checkedExpiresAt (iat now : Int) : Except DpopFailure Int :=
  match getDpopReplayExpiresAt iat now policy.proofMaxAgeSeconds policy.clockSkewSeconds with
  | some expiresAt => .ok expiresAt
  | none =>
    if !policy.ignoreFreshnessFailure then
      .error (.invalidProof "DPoP signed iat is outside the bounded replay window.")
    else .ok (now + (policy.proofMaxAgeSeconds + policy.clockSkewSeconds) * 1000)

/-- A nonce to challenge with, or none where the proof may go on. -/
def checkNonce (claims : DpopClaims) (now : Int) (issuedNonce : Option String) :
    Except DpopFailure (Option String) :=
  match policy.nonceVerify with
  | some verify =>
    if verify claims.nonce claims.jkt now then .ok none
    else
      match issuedNonce with
      | some nonce => .ok (some nonce)
      | none => .error .nonceUnavailable
  | none =>
    match claims.nonce with
    | .undefined => .ok none
    | .string nonce =>
      if 512 < utf16Length nonce || 512 < nonce.utf8ByteSize then
        .error (.invalidProof "DPoP signed nonce claim exceeds its string/byte bound.")
      else .ok none
    | _ => .error (.invalidProof "DPoP signed nonce claim exceeds its string/byte bound.")

/-- `verifyAndReserve` from the verification's result up to the call of the store. -/
def checkProof (digest : String → String) (effectiveNamespace : List String)
    (readings : Readings) (verified : Value) : Except DpopFailure Checked := do
  let claims ← policy.readClaims verified
  let now ← policy.checkedNow readings
  let expiresAt ← policy.checkedExpiresAt claims.iat now
  match ← policy.checkNonce claims now readings.issuedNonce with
  | some nonce => return .challenge nonce
  | none =>
    let replayKey := createDpopReplayKey digest effectiveNamespace claims.jkt claims.jti
    return .reserve { claims, now, expiresAt, replayKey }

/-- `verifyAndReserve` from the store's answer on, `none` where it threw. -/
def conclude (request : ReplayRequest) (answer : Option Bool) :
    Except DpopFailure DpopReplayResult :=
  let accepted : DpopReplayResult :=
    .accepted request.claims.jkt request.claims.alg request.expiresAt
  match answer with
  | some true => .ok accepted
  | some false =>
    if policy.ignoreReplayFailure then .ok accepted
    else .error (.invalidProof "DPoP replay reservation was duplicate or no longer live.")
  | none => if policy.ignoreReplayFailure then .ok accepted else .error .replayUnavailable

end ResolvedDeviceBindingOptions

end WebTsToolkit.OidcVault
