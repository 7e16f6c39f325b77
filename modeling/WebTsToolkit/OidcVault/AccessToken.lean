import Mathlib.Data.List.Basic
import WebTsToolkit.OidcVault.DpopReplayPolicy

set_option autoImplicit false

namespace WebTsToolkit.OidcVault

open Js

/-- What is thrown: an `OidcVaultHttpError` with its code, or any other value, `undefined` being
one. -/
inductive Fault where
  | http (code : String)
  | undefined
  | other (identity : Nat)
  deriving DecidableEq

namespace Fault

def missingBearerToken : Fault := .http "OIDC_VAULT_MISSING_BEARER_TOKEN"
def missingAccessToken : Fault := .http "OIDC_VAULT_MISSING_ACCESS_TOKEN"
def invalidAuthorizationHeader : Fault := .http "OIDC_VAULT_INVALID_AUTHORIZATION_HEADER"
def invalidAccessToken : Fault := .http "OIDC_VAULT_INVALID_ACCESS_TOKEN"
def dpopRequired : Fault := .http "OIDC_VAULT_DPOP_REQUIRED"
def deviceBindingRequired : Fault := .http "OIDC_VAULT_DEVICE_BINDING_REQUIRED"
def invalidDpopProof : Fault := .http "OIDC_VAULT_INVALID_DPOP_PROOF"
def useDpopNonce : Fault := .http "OIDC_VAULT_USE_DPOP_NONCE"
def replayUnavailable : Fault := .http "OIDC_VAULT_DPOP_REPLAY_UNAVAILABLE"
def authenticationReentry : Fault := .http "OIDC_VAULT_AUTHENTICATION_REENTRY"
def authenticationRequired : Fault := .http "OIDC_VAULT_AUTHENTICATION_REQUIRED"

/-- The error of a `delete` or an assignment that is refused. -/
def typeError : Fault := .other 0

end Fault

def credentialRejectionCodes : List String :=
  ["OIDC_VAULT_MISSING_BEARER_TOKEN", "OIDC_VAULT_MISSING_ACCESS_TOKEN",
    "OIDC_VAULT_INVALID_AUTHORIZATION_HEADER", "OIDC_VAULT_INVALID_ACCESS_TOKEN",
    "OIDC_VAULT_DPOP_REQUIRED", "OIDC_VAULT_DEVICE_BINDING_REQUIRED",
    "OIDC_VAULT_INVALID_DPOP_PROOF"]

def lowerCase (text : String) : String :=
  String.ofList (text.toList.map Char.toLower)

/-- `text.trim().split(/\s+/)` of a text that is not blank; a blank one has no words. -/
def words (text : String) : List String :=
  (((trim text).toList.splitOnP isSpace).filter fun piece => !piece.isEmpty).map String.ofList

/-- `/^[\x21-\x7e]+$/`. -/
def isVisible (text : String) : Bool :=
  !text.isEmpty && text.toList.all fun c => 0x21 ≤ c.toNat && c.toNat ≤ 0x7e

def isToken (text : String) : Bool :=
  isVisible text && !text.toList.contains ','

inductive Scheme where
  | bearer
  | dpop
  deriving DecidableEq

def schemeOfWord (word : String) : Option Scheme :=
  if lowerCase word = "bearer" then some .bearer
  else if lowerCase word = "dpop" then some .dpop
  else none

def schemeOf (value : Option String) : Option Scheme :=
  ((value.map words).bind List.head?).bind schemeOfWord

def extractBearerToken (authorizationHeader : Option String) : Except Fault String :=
  match authorizationHeader with
  | none => .error .missingBearerToken
  | some header =>
    if header.isEmpty then .error .missingBearerToken
    else
      match words header with
      | [scheme, token] =>
        if lowerCase scheme = "bearer" && isToken token then .ok token
        else .error .invalidAuthorizationHeader
      | _ => .error .invalidAuthorizationHeader

/-- A raw header: how often it was sent, up to twice, and its first value. -/
structure DpopRawHeader where
  count : Nat
  value : Option String

def readDpopRawHeader (rawHeaders : List (String × String)) (name : String) : DpopRawHeader :=
  let found := rawHeaders.filter fun header => lowerCase header.1 == name
  { count := min found.length 2, value := found.head?.map Prod.snd }

/-- What a request presents when its authentication starts; `authorization` is
`req.get('authorization')`. -/
structure Presented where
  rawHeaders : List (String × String)
  authorization : Option String
  method : String
  originalUrl : String

namespace Presented

variable (presented : Presented)

def rawAuthorization : DpopRawHeader :=
  readDpopRawHeader presented.rawHeaders "authorization"

def rawProof : DpopRawHeader :=
  readDpopRawHeader presented.rawHeaders "dpop"

end Presented

/-- A field of an authentication context: any other value is known by its identity. -/
inductive FieldValue where
  | undefined
  | null
  | text (value : String)
  | reference (identity : Nat)
  deriving DecidableEq

structure MappedFields where
  subject : FieldValue
  sessionId : FieldValue
  scope : FieldValue
  claims : FieldValue
  deriving DecidableEq

/-- The confirmation that a validator reports: a plain object with `jkt` only, or anything else. -/
inductive ReportedConfirmation where
  | undefined
  | null
  | jkt (text : String)
  | malformed

/-- What a validator returns. Its properties are data; anything but a plain record is malformed. -/
inductive ValidationResult where
  | malformed
  | record (fields : MappedFields) (confirmation : ReportedConfirmation)

def snapshotAccessTokenConfirmation : ReportedConfirmation → Except Fault (Option String)
  | .null => .ok none
  | .jkt text => if isCanonicalDpopJkt text then .ok (some text) else .error .invalidAccessToken
  | _ => .error .invalidAccessToken

/-- `mappedFields`: the subject is a text that is not empty. -/
def mappedFields (fields : MappedFields) : Except Fault MappedFields :=
  match fields.subject with
  | .text subject => if subject.isEmpty then .error .invalidAccessToken else .ok fields
  | _ => .error .invalidAccessToken

def isCompactProof (text : String) : Bool :=
  let parts := segments text
  parts.length == 3 && parts.all fun part => !part.isEmpty && part.toList.all isBase64url

/-- `extractDpopProof`. -/
def extractDpopProof (header : DpopRawHeader) : Except Fault (Option String) :=
  if header.count = 0 then .ok none
  else
    match header.count, header.value with
    | 1, some value =>
      if value.isEmpty || 8192 < utf16Length value || !isCompactProof value then
        .error .invalidDpopProof
      else .ok (some value)
    | _, _ => .error .invalidDpopProof

inductive DeviceBindingMode where
  | optional
  | required
  deriving DecidableEq

structure DeviceBindingPolicy extends ResolvedDeviceBindingOptions where
  mode : DeviceBindingMode
  ignoreTargetFailure : Bool
  effectiveNamespace : List String

/-- A proof whose header, key and signature are good: its algorithm, the thumbprint of its key and
its signed claims. -/
structure SignedProof where
  alg : String
  jkt : String
  htm : Value
  htu : Value
  iat : Value
  jti : Value
  nonce : Value
  ath : Value

/-- What the checks of a proof rest on: the signature check of the JOSE library with the thumbprint
of the key, the comparison of a target with a request's, and the SHA-256 digest in base64url. -/
structure ProofEnvironment where
  signed : String → Option SignedProof
  sameTarget : Value → String → Bool
  digest : String → String

namespace SignedProof

variable (proof : SignedProof)

/-- The signed time and identifier are well formed. -/
def hasClaims : Bool :=
  match safeInteger proof.iat, proof.jti with
  | some iat, .string jti => 0 ≤ iat && isPrintableIdentifier jti
  | _, _ => false

def nonceFits : Bool :=
  match proof.nonce with
  | .string nonce => utf16Length nonce ≤ 512 && nonce.utf8ByteSize ≤ 512
  | _ => true

/-- The signed hash is that of the token. -/
def hashes (digest : String → String) (token : String) : Bool :=
  match proof.ath with
  | .string ath => isCanonicalDpopJkt ath && ath == digest token
  | _ => false

def isFor (environment : ProofEnvironment) (method originalUrl : String) : Bool :=
  match proof.htm with
  | .string htm =>
    htm == method && !method.isEmpty && environment.sameTarget proof.htu originalUrl
  | _ => false

/-- What `verifyDpopProof` returns. -/
def verified : Value :=
  .object [("binding", .object [("type", .string "dpop"), ("jkt", .string proof.jkt),
    ("alg", .string proof.alg)]), ("iat", proof.iat), ("jti", proof.jti), ("nonce", proof.nonce)]

end SignedProof

/-- `verifyDpopProof` with a token. -/
def verifyDpopProof (environment : ProofEnvironment) (policy : DeviceBindingPolicy)
    (proof method originalUrl token : String) (expectedJkt : Option String) :
    Except Fault SignedProof :=
  match environment.signed proof with
  | none => .error .invalidDpopProof
  | some signed =>
    if !policy.algorithms.contains signed.alg || !signed.hasClaims then .error .invalidDpopProof
    else if !signed.isFor environment method originalUrl && !policy.ignoreTargetFailure then
      .error .invalidDpopProof
    else if !signed.nonceFits then .error .invalidDpopProof
    else if !isVisible token || !signed.hashes environment.digest token then
      .error .invalidDpopProof
    else if expectedJkt.any fun jkt => !isCanonicalDpopJkt jkt || jkt != signed.jkt then
      .error .invalidDpopProof
    else .ok signed

/-- The fault of a refused admission. A nonce that cannot be issued is not the library's error. -/
def DpopFailure.fault : DpopFailure → Fault
  | .preflight => .invalidDpopProof
  | .invalidProof _ => .invalidDpopProof
  | .replayUnavailable => .replayUnavailable
  | .nonceUnavailable => .typeError

end WebTsToolkit.OidcVault
