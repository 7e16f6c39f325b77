import Mathlib.Data.List.DropRight
import WebTsToolkit.RequestAttestation.Canonical

set_option autoImplicit false

namespace WebTsToolkit.RequestAttestation.Codec

open Js

def protocolVersion : Nat := 1
def macBytesLength : Nat := 32
def maxKeyIdLength : Nat := 64
def maxReplayNamespaceLength : Nat := 128
def maxEncodedTransactionIdBytes : Nat := 1024
def maxRequestTargetBytes : Nat := 8192
def maxContentTypeBytes : Nat := 256
def maxPublicOriginBytes : Nat := 512

/-- The code unit of a character that has one. -/
def unit (c : Char) : UInt16 :=
  c.toNat.toUInt16

/-- A text without characters beyond the basic plane. -/
def units (text : String) : Utf16 :=
  text.toList.map unit

def macInputLabel : Utf16 := units "wtt-request-signature"

def between (low high : Char) (other : UInt16) : Bool :=
  unit low ≤ other && other ≤ unit high

/-- `[A-Za-z0-9_-]`. -/
def isWordUnit (other : UInt16) : Bool :=
  between 'A' 'Z' other || between 'a' 'z' other || between '0' '9' other ||
    other = unit '_' || other = unit '-'

/-- `[0-9a-f]`. -/
def isLowerHex (other : UInt16) : Bool :=
  between '0' '9' other || between 'a' 'f' other

/-- `[0-9a-fA-F]`. -/
def isHex (other : UInt16) : Bool :=
  isLowerHex other || between 'A' 'F' other

/-- `HTTP_TOKEN_PATTERN`, for one character. -/
def isTokenUnit (other : UInt16) : Bool :=
  between 'A' 'Z' other || between 'a' 'z' other || between '0' '9' other ||
    (units "!#$%&'*+-.^_`|~").contains other

/-- All characters of a text are of a class, and their number is within bounds. -/
def consistsOf (class' : UInt16 → Bool) (least most : Nat) (text : Utf16) : Bool :=
  text.all class' && least ≤ text.length && text.length ≤ most

def require (holds : Bool) (message : String) : Except AttestationProtocolError Unit :=
  if holds then .ok () else .error (protocolError message)

def validateKeyId (keyId : Utf16) : Except AttestationProtocolError Unit :=
  require (consistsOf isWordUnit 1 maxKeyIdLength keyId)
    "keyId must match [A-Za-z0-9_-]\x7b1,64\x7d"

def validateReplayNamespace (namespace' : Utf16) : Except AttestationProtocolError Unit :=
  require (consistsOf isWordUnit 1 maxReplayNamespaceLength namespace')
    "replayNamespace must match [A-Za-z0-9_-]\x7b1,128\x7d"

def validateNonceHex (nonceHex : Utf16) : Except AttestationProtocolError Unit :=
  require (consistsOf isLowerHex 32 32 nonceHex)
    "nonceHex must be exactly 32 lowercase hex characters"

def validateBodyHashHex (bodyHashHex : Utf16) : Except AttestationProtocolError Unit :=
  require (consistsOf isLowerHex 64 64 bodyHashHex)
    "bodyHashHex must be exactly 64 lowercase hex characters"

def validateMac (mac : Utf16) : Except AttestationProtocolError Unit := do
  require (mac.length = 43) "mac must be exactly 43 base64url characters"
  let decoded ← base64urlDecode mac
  require (decoded.length = macBytesLength) "mac must decode to 32 bytes"

/-- What `new URL` tells. -/
structure Url where
  protocol : Utf16
  username : Utf16
  password : Utf16
  host : Utf16
  hostname : Utf16

def isLoopbackHostname (hostname : Utf16) : Bool :=
  hostname = units "localhost" || hostname = units "[::1]" || (units "127.").isPrefixOf hostname

/-- The URL parser of the platform is `parseUrl`. -/
def validatePublicOrigin (parseUrl : Utf16 → Option Url) (origin : Utf16) :
    Except AttestationProtocolError Unit := do
  require (!origin.isEmpty && utf8ByteLength origin ≤ maxPublicOriginBytes)
    "publicOrigin must be 1-512 UTF-8 bytes"
  match parseUrl origin with
  | none => .error (protocolError "publicOrigin must be a valid HTTP(S) origin")
  | some url =>
    require (url.protocol = units "https:" || url.protocol = units "http:")
      "publicOrigin must use http or https"
    require (url.username.isEmpty && url.password.isEmpty)
      "publicOrigin must not contain userinfo"
    require (origin = url.protocol ++ units "//" ++ url.host)
      "publicOrigin must be canonical (lowercase, no path, no trailing slash, no default port)"
    require (!(url.protocol = units "http:" && !isLoopbackHostname url.hostname))
      "http publicOrigin is allowed only for loopback development"

/-- `toUpperCase` of a token, which is ASCII. -/
def toUpper (other : UInt16) : UInt16 :=
  if between 'a' 'z' other then other - 32 else other

def normalizeMethod (method : Utf16) : Except AttestationProtocolError Utf16 := do
  require (!method.isEmpty && method.all isTokenUnit)
    "method must be a non-empty valid HTTP token"
  return method.map toUpper

/-- A space or a tab. -/
def isBlank (other : UInt16) : Bool :=
  other = unit ' ' || other = unit '\t'

def isControl (other : UInt16) : Bool :=
  other < 0x20 || other = 0x7F

/-- `replace(/^[ \t]+|[ \t]+$/g, '')`. -/
def trimBlanks (text : Utf16) : Utf16 :=
  (text.dropWhile isBlank).rdropWhile isBlank

def normalizeContentType : Option Utf16 → Except AttestationProtocolError Utf16
  | none => .ok []
  | some contentType => do
    let trimmed := trimBlanks contentType
    require (trimmed.all fun other => isBlank other || !isControl other)
      "contentType must not contain control characters"
    require (utf8ByteLength trimmed ≤ maxContentTypeBytes)
      "contentType must be at most 256 UTF-8 bytes"
    return trimmed

/-- Every percent sign starts an escape. -/
def validPercentEscapes : Utf16 → Bool
  | [] => true
  | other :: rest =>
    if other = unit '%' then
      match rest with
      | high :: low :: rest => isHex high && isHex low && validPercentEscapes rest
      | _ => false
    else validPercentEscapes rest

/-- The value of a hexadecimal digit. -/
def hexDigit (other : UInt16) : UInt16 :=
  if between '0' '9' other then other - unit '0'
  else if between 'a' 'f' other then other - unit 'a' + 10
  else other - unit 'A' + 10

def percentDecodeSegment : Utf16 → Utf16
  | [] => []
  | other :: high :: low :: rest =>
    if other = unit '%' && isHex high && isHex low then
      (hexDigit high * 16 + hexDigit low) :: percentDecodeSegment rest
    else other :: percentDecodeSegment (high :: low :: rest)
  | other :: rest => other :: percentDecodeSegment rest

def isDotSegment (segment : Utf16) : Bool :=
  segment = units "." || segment = units ".."

def assertTargetUnit (other : UInt16) : Except AttestationProtocolError Unit := do
  require (!(other = unit ' ' || isControl other))
    "requestTarget must not contain controls or raw spaces"
  require (!(other = unit '#' || other = unit '\\'))
    "requestTarget must not contain fragments or backslashes"

/-- No character but a dot has a dot as its lower case. -/
def assertSegment (segment : Utf16) : Except AttestationProtocolError Unit := do
  require (!isDotSegment segment) "requestTarget must not contain dot segments"
  require (!isDotSegment (percentDecodeSegment segment))
    "requestTarget must not contain encoded dot segments"

def canonicalizeRequestTarget (target : Utf16) : Except AttestationProtocolError Utf16 := do
  require (!target.isEmpty) "requestTarget must not be empty"
  require (utf8ByteLength target ≤ maxRequestTargetBytes)
    "requestTarget must be at most 8192 UTF-8 bytes"
  require ((units "/").isPrefixOf target)
    "requestTarget must be an origin-form target starting with /"
  require (!(units "//").isPrefixOf target) "requestTarget must not resolve as an authority"
  target.forM assertTargetUnit
  require (validPercentEscapes target) "requestTarget contains a malformed percent escape"
  let path := target.takeWhile fun other => other != unit '?'
  (path.splitOn (unit '/')).forM assertSegment
  -- A lone question mark at the end is no query.
  return if target.dropWhile (fun other => other != unit '?') = [unit '?'] then path else target

structure MacInputFields where
  replayNamespace : Utf16
  publicOrigin : Utf16
  keyId : Utf16
  timestampMs : Int
  nonceHex : Utf16
  method : Utf16
  requestTarget : Utf16
  contentType : Option Utf16
  bodyHashHex : Utf16

/-- A number with this integer as its value. -/
def integer (value : Int) : JsonValue :=
  .number (.finite value)

def buildMacInputBytes (parseUrl : Utf16 → Option Url) (fields : MacInputFields) :
    Except AttestationProtocolError (List UInt8) := do
  validateReplayNamespace fields.replayNamespace
  validatePublicOrigin parseUrl fields.publicOrigin
  validateKeyId fields.keyId
  assertTimestampMs "timestampMs" fields.timestampMs
  validateNonceHex fields.nonceHex
  let method ← normalizeMethod fields.method
  let requestTarget ← canonicalizeRequestTarget fields.requestTarget
  let contentType ← normalizeContentType fields.contentType
  validateBodyHashHex fields.bodyHashHex
  return canonicalJsonBytes (.array
    [.string macInputLabel, integer protocolVersion, .string fields.replayNamespace,
      .string fields.publicOrigin, .string fields.keyId, integer fields.timestampMs,
      .string fields.nonceHex, .string method, .string requestTarget, .string contentType,
      .string fields.bodyHashHex])

structure TransactionIdFields where
  keyId : Utf16
  timestampMs : Int
  nonceHex : Utf16
  mac : Utf16
  deriving DecidableEq

/-- The checks that both directions make. -/
def TransactionIdFields.validate (fields : TransactionIdFields) :
    Except AttestationProtocolError Unit := do
  validateKeyId fields.keyId
  assertTimestampMs "timestampMs" fields.timestampMs
  validateNonceHex fields.nonceHex
  validateMac fields.mac

def TransactionIdFields.envelope (fields : TransactionIdFields) : List JsonValue :=
  [integer protocolVersion, .string fields.keyId, integer fields.timestampMs,
    .string fields.nonceHex, .string fields.mac]

def assertEncodedTransactionIdBound (value : Utf16) : Except AttestationProtocolError Unit :=
  require (value.length ≤ maxEncodedTransactionIdBytes)
    "encoded transactionId must be at most 1024 bytes"

def encodeTransactionId (fields : TransactionIdFields) : Except AttestationProtocolError Utf16 := do
  fields.validate
  let encoded := base64urlEncode (canonicalJsonBytes (.array fields.envelope))
  assertEncodedTransactionIdBound encoded
  return encoded

/-- A member of an envelope that has to be a string. -/
def stringMember (validate : Utf16 → Except AttestationProtocolError Unit) (message : String) :
    JsonValue → Except AttestationProtocolError Utf16
  | .string text => do
    validate text
    return text
  | _ => .error (protocolError message)

def timestampMember : JsonValue → Except AttestationProtocolError Int
  | .number value =>
    match value.safeInteger with
    | some timestampMs => do
      assertTimestampMs "timestampMs" timestampMs
      return timestampMs
    | none => .error (protocolError "timestampMs must be a non-negative safe integer")
  | _ => .error (protocolError "timestampMs must be a non-negative safe integer")

/-- `value === PROTOCOL_VERSION`. -/
def isProtocolVersion : JsonValue → Bool
  | .number value => value = .finite protocolVersion
  | _ => false

/-- The refusal of a version also tells that version. -/
def readEnvelope : List JsonValue → Except AttestationProtocolError TransactionIdFields
  | [version, keyId, timestampMs, nonceHex, mac] => do
    require (isProtocolVersion version) "unsupported transactionId version "
    let keyId ← stringMember validateKeyId "keyId must match [A-Za-z0-9_-]\x7b1,64\x7d" keyId
    let timestampMs ← timestampMember timestampMs
    let nonceHex ← stringMember validateNonceHex
      "nonceHex must be exactly 32 lowercase hex characters" nonceHex
    let mac ← stringMember validateMac "mac must be exactly 43 base64url characters" mac
    return { keyId, timestampMs, nonceHex, mac }
  | _ => .error (protocolError "canonical JSON array must have exactly 5 elements")

def decodeTransactionId (headerValue : Utf16) :
    Except AttestationProtocolError TransactionIdFields := do
  require (!headerValue.isEmpty) "transactionId must be a non-empty string"
  assertEncodedTransactionIdBound headerValue
  let bytes ← base64urlDecode headerValue
  require (bytes.take 3 != [0xEF, 0xBB, 0xBF]) "transactionId must not contain a UTF-8 BOM"
  match utf8Decode bytes with
  | none => .error (protocolError "input is not valid UTF-8")
  | some text => do
    let envelope ← parseCanonicalJsonArray text 5
    readEnvelope envelope

end WebTsToolkit.RequestAttestation.Codec
