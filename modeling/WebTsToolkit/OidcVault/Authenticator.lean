import WebTsToolkit.Library.TransitionSystem
import WebTsToolkit.OidcVault.AccessToken

set_option autoImplicit false

namespace WebTsToolkit.OidcVault

open Js Library

inductive AuthField where
  | subject
  | sessionId
  | scope
  | claims
  | token
  | confirmation
  | deviceBinding
  deriving DecidableEq

/-- An own property: data, or a getter that nothing reads here. -/
inductive FieldProperty where
  | data (value : FieldValue)
  | accessor
  deriving DecidableEq

abbrev AuthObject := AuthField → Option FieldProperty

def authFields : List AuthField :=
  [.subject, .sessionId, .scope, .claims, .token, .confirmation, .deviceBinding]

/-- What `req.auth` holds: a value with properties, known by its number, any other value, or a
getter and a setter. -/
inductive Held where
  | auth (object : Nat)
  | foreign
  | accessor
  deriving DecidableEq

structure Slot where
  held : Held
  writable : Bool
  configurable : Bool
  deriving DecidableEq

structure AuthenticatorOptions where
  optional : Bool
  anonymous : Bool
  policy : Option DeviceBindingPolicy
  anonymous_optional : anonymous = true → optional = true

inductive AuthenticationStatus where
  | pending
  | missing
  | invalid
  | authenticated
  | challenged
  | failed
  deriving DecidableEq

/-- The record of a request, of one authenticator and one response. -/
structure RequestAuthentication where
  owner : Nat
  res : Nat
  status : AuthenticationStatus
  auth : Option Nat
  snapshot : Option AuthObject

/-- The credential that an authentication has read. -/
structure Credential where
  owner : Nat
  res : Nat
  presented : Presented
  scheme : Scheme
  token : String

/-- A credential that was validated, with its confirmation (none where nothing was reported) and
the key of its proof. -/
structure Validated where
  credential : Credential
  fields : MappedFields
  confirmation : Option (Option String)
  deviceBinding : Option (String × String)

/-- Where an authentication failed; a validator may mark its error as a rejected token. -/
inductive Stage where
  | credential
  | validator (rejected : Bool)
  | result
  | proof

/-- Where `onDpopDiagnostic` is called, and what follows when it returns. -/
inductive Diagnosis where
  | missing
  | malformed (fault : Fault)
  | attaching (validated : Validated)
  | failing (stage : Stage) (fault : Fault) (challenge : Bool)

/-- How far the authentication of the request has come. Other code runs at each of these points:
in `assigning` the setter that it finds at `req.auth`, in `storing` that setter or the getters of
the context that the hook was given. -/
inductive Work where
  | idle
  | diagnosing (diagnosis : Diagnosis)
  | validating (credential : Credential)
  | reserving (validated : Validated) (proof : String)
  | assigning (validated : Validated) (object : Nat)
  | hooking (validated : Validated) (object : Nat)
  | storing (validated : Validated)
  | notifying (fault : Fault) (anonymous : Bool)
  | ended

/-- An observer is told something that no test of the record follows. -/
def Work.isUnchecked : Work → Bool
  | .diagnosing (.malformed _) => false
  | .diagnosing _ => true
  | _ => false

/-- An observer is told that a request goes on without credentials. -/
def Work.isMissing : Work → Bool
  | .diagnosing .missing => true
  | _ => false

/-- What came of a context that is stored by other code: a getter of it or the setter threw, the
getter at `req.auth` threw, or it gave a value with these properties. -/
inductive Stored where
  | vetoed (fault : Fault)
  | unreadable (fault : Fault)
  | kept (fields : MappedFields) (value : Nat) (snapshot : AuthObject)

/-- The credential was rejected, rather than its adapter broken. -/
def isRejection : Stage → Fault → Bool
  | .validator rejected, _ => rejected
  | .credential, .http code => credentialRejectionCodes.contains code
  | .proof, .http code => credentialRejectionCodes.contains code
  | _, _ => false

inductive Handler where
  | authenticate
  | requireAuth
  | requireDeviceBinding
  deriving DecidableEq

/-- What happened. A poisoning is a second authentication, or a rejection by a guard. -/
inductive AuthFact where
  | entered (credentials : Presented) (owner res : Nat)
  | reserved (replayKey : Option String) (answer : Option Bool)
  | attached (validated : Validated) (object : Nat) (fields : AuthObject)
  | completed (validated : Validated) (object : Nat) (fields : AuthObject)
  | refused (stage : Stage) (fault : Fault)
  | poisoned
  | proceeded (handler : Handler) (owner res : Nat)
  | forwarded (fault : Fault)

structure AuthState where
  evidence : Option RequestAuthentication
  objects : List AuthObject
  slot : Option Slot
  extensible : Bool
  work : Work
  /-- The errors of which an observer is told by a guard or a second authentication. -/
  notices : List Fault
  facts : List AuthFact

namespace AuthState

def note (state : AuthState) (fact : AuthFact) : AuthState :=
  { state with facts := state.facts ++ [fact] }

/-- `delete req.auth`, which may be refused. -/
def deleteAuth (state : AuthState) : Option AuthState :=
  match state.slot with
  | some slot => if slot.configurable then some { state with slot := none } else none
  | none => some state

/-- `req.auth = auth` where it is data, which may be refused. -/
def assignAuth (state : AuthState) (object : Nat) : Option AuthState :=
  match state.slot with
  | some slot =>
    if slot.writable then some { state with slot := some { slot with held := .auth object } }
    else none
  | none =>
    if state.extensible then
      some { state with
        slot := some { held := .auth object, writable := true, configurable := true } }
    else none

def setStatus (state : AuthState) (status : AuthenticationStatus) : AuthState :=
  { state with evidence := state.evidence.map fun record => { record with status } }

def isPending (state : AuthState) : Bool :=
  (state.evidence.map RequestAuthentication.status) == some .pending

/-- `stillPending` where it is not: the authentication is over. -/
def abandon (state : AuthState) : AuthState :=
  { state.deleteAuth.getD state with work := .ended }

/-- The last `catch` up to its diagnostic. -/
def caught (state : AuthState) (stage : Stage) (fault : Fault) (challenge : Bool) : AuthState :=
  if state.isPending then { state with work := .diagnosing (.failing stage fault challenge) }
  else state.abandon

/-- The last `catch` from there to its error observer. -/
def fail (options : AuthenticatorOptions) (state : AuthState) (stage : Stage) (fault : Fault)
    (challenge : Bool) : AuthState :=
  let anonymous := options.optional && options.anonymous && isRejection stage fault && !challenge
  let failed := (state.setStatus (if anonymous then .invalid
    else if challenge then .challenged else .failed)).note (.refused stage fault)
  match failed.deleteAuth with
  | some deleted => { deleted with work := .notifying fault anonymous }
  | none => { failed with work := .ended }

end AuthState

/-- The fields of a context. A property is only there where its value is. -/
def contextObject (fields : MappedFields) (token : String) (confirmation deviceBinding :
    Option FieldValue) : AuthObject
  | .subject => some (.data fields.subject)
  | .sessionId => some (.data fields.sessionId)
  | .scope => some (.data fields.scope)
  | .claims => some (.data fields.claims)
  | .token => some (.data (.text token))
  | .confirmation => confirmation.map .data
  | .deviceBinding => deviceBinding.map .data

namespace Validated

variable (validated : Validated)

/-- The confirmation and the binding are frozen objects of the library's own: the first two that
are referred to. -/
def confirmationValue : Option FieldValue :=
  validated.confirmation.map fun confirmation =>
    match confirmation with
    | none => .null
    | some _ => .reference 0

def deviceBindingValue : Option FieldValue :=
  validated.deviceBinding.map fun _ => .reference 1

def object (fields : MappedFields) : AuthObject :=
  contextObject fields validated.credential.token validated.confirmationValue
    validated.deviceBindingValue

end Validated

/-- The value of a property; what a getter gives is not known. -/
def plainValue : Option FieldProperty → Option FieldValue
  | some (.data value) => some value
  | some .accessor => none
  | none => some .undefined

/-- The fields that `restoreAuth` reads. -/
def restoredFields (object : AuthObject) : Option MappedFields := do
  let subject ← plainValue (object .subject)
  let sessionId ← plainValue (object .sessionId)
  let scope ← plainValue (object .scope)
  let claims ← plainValue (object .claims)
  return { subject, sessionId, scope, claims }

/-- The credential of a request, under a binding policy or without one. -/
def readCredential (options : AuthenticatorOptions) (presented : Presented) :
    Except Fault (Scheme × String) :=
  let authorization := presented.rawAuthorization
  match options.policy with
  | none =>
    if 1 < authorization.count ||
        (authorization.count == 1 && (trim (authorization.value.getD "")).isEmpty) then
      .error .invalidAuthorizationHeader
    else (extractBearerToken presented.authorization).map fun token => (.bearer, token)
  | some _ =>
    if authorization.count = 0 then .error .missingAccessToken
    else
      match authorization.count, schemeOf authorization.value,
          words (authorization.value.getD "") with
      | 1, some scheme, [_, token] =>
        if isToken token then .ok (scheme, token) else .error .invalidAuthorizationHeader
      | _, _, _ => .error .invalidAuthorizationHeader

/-- The confirmation of a result, which only an authenticator with a policy insists on. -/
def reportedConfirmation (options : AuthenticatorOptions) (reported : ReportedConfirmation) :
    Except Fault (Option (Option String)) :=
  match options.policy, reported with
  | none, .undefined => .ok none
  | _, reported => (snapshotAccessTokenConfirmation reported).map some

/-- The checks of a validator's result. -/
def readResult (options : AuthenticatorOptions) :
    ValidationResult → Except Fault (MappedFields × Option (Option String))
  | .malformed => .error .invalidAccessToken
  | .record fields reported => do
    let confirmation ← reportedConfirmation options reported
    let mapped ← mappedFields fields
    return (mapped, confirmation)

/-- A field that was attached is still there as data, and no other is. -/
def sameField (expected found : Option FieldProperty) : Bool :=
  match expected with
  | some property => found == some property && property != .accessor
  | none => found == none

namespace AuthState

/-- `req.auth` is not an accessor: what its setter would do is not known. -/
def isPlain (state : AuthState) : Bool :=
  (state.slot.map Slot.held) != some .accessor

def alloc (state : AuthState) (object : AuthObject) : AuthState :=
  { state with objects := state.objects ++ [object] }

/-- The context is attached, and the hook is called. -/
def attach (state : AuthState) (validated : Validated) : AuthState :=
  let object := validated.object validated.fields
  let allocated := state.alloc object
  if state.isPlain then
    match allocated.assignAuth state.objects.length with
    | some assigned =>
      { assigned.note (.attached validated state.objects.length object) with
        work := .hooking validated state.objects.length }
    | none => allocated.caught .proof .typeError false
  else { allocated with work := .assigning validated state.objects.length }

/-- The setter at `req.auth` has taken the context, or has thrown. -/
def assigned (state : AuthState) (validated : Validated) (object : Nat) (outcome : Option Fault) :
    AuthState :=
  match outcome with
  | none =>
    { state.note (.attached validated object (validated.object validated.fields)) with
      work := .hooking validated object }
  | some fault => state.caught .proof fault false

/-- The proof of a credential, where one is presented. -/
def presentProof (state : AuthState) (validated : Validated) : AuthState :=
  match extractDpopProof validated.credential.presented.rawProof with
  | .error fault => { state with work := .diagnosing (.malformed fault) }
  | .ok none =>
    if validated.confirmation.join.isSome then state.caught .proof .dpopRequired false
    else { state with work := .diagnosing (.attaching validated) }
  | .ok (some proof) => { state with work := .reserving validated proof }

/-- What a confirmation asks of the scheme, under a policy or without one. -/
def checkConfirmation (options : AuthenticatorOptions) (state : AuthState)
    (validated : Validated) : AuthState :=
  match options.policy with
  | none =>
    if validated.confirmation.join.isSome then state.caught .proof .dpopRequired false
    else { state with work := .diagnosing (.attaching validated) }
  | some policy =>
    match validated.confirmation.join, validated.credential.scheme with
    | some _, .bearer => state.caught .proof .dpopRequired false
    | none, .dpop => state.caught .proof .invalidAccessToken false
    | none, .bearer =>
      if policy.mode = .required then state.caught .proof .deviceBindingRequired false
      else state.presentProof validated
    | some _, .dpop => state.presentProof validated

/-- `authenticate` of a request without a record, up to the validator. -/
def startAuthentication (options : AuthenticatorOptions) (state : AuthState) (owner res : Nat)
    (presented : Presented) : AuthState :=
  let entered := { state with
    evidence := some { owner, res, status := .pending, auth := none, snapshot := none } }.note
      (.entered presented owner res)
  match entered.deleteAuth with
  | none => { entered with work := .ended }
  | some cleared =>
    if options.optional && presented.rawAuthorization.count == 0 &&
        presented.rawProof.count == 0 then
      { cleared with work := .diagnosing .missing }
    else
      match readCredential options presented with
      | .error fault => { cleared with work := .diagnosing (.failing .credential fault false) }
      | .ok read => { cleared with
          work := .validating { owner, res, presented, scheme := read.1, token := read.2 } }

/-- The observer of a diagnostic is over. A response whose headers are sent takes no others. -/
def diagnosed (options : AuthenticatorOptions) (state : AuthState) (record : RequestAuthentication)
    (diagnosis : Diagnosis) (headersSent : Bool) : AuthState :=
  match diagnosis with
  | .missing =>
    let missing := state.setStatus .missing
    if headersSent then missing.abandon
    else { missing.note (.proceeded .authenticate record.owner record.res) with work := .ended }
  | .malformed fault =>
    if state.isPending then state.fail options .proof fault false else state.abandon
  | .attaching validated => state.attach validated
  | .failing stage fault challenge => state.fail options stage fault challenge

/-- The validator is over. A fault comes with whether it marks a rejected token. -/
def validated (options : AuthenticatorOptions) (state : AuthState) (credential : Credential)
    (outcome : Except (Fault × Bool) ValidationResult) : AuthState :=
  if !state.isPending then state.abandon
  else
    match outcome with
    | .error fault => state.caught (.validator fault.2) fault.1 false
    | .ok result =>
      match state.deleteAuth with
      | none => state.caught (.validator false) .typeError false
      | some cleared =>
        match readResult options result with
        | .error fault => cleared.caught .result fault false
        | .ok read => cleared.checkConfirmation options
            { credential, fields := read.1, confirmation := read.2, deviceBinding := none }

/-- The admission of a verified proof, given the answer of the replay store. -/
def admitted (policy : DeviceBindingPolicy) (state : AuthState) (validated : Validated)
    (request : ReplayRequest) (answer : Option Bool) : AuthState :=
  let reserved := state.note (.reserved request.replayKey answer)
  if !state.isPending then reserved.abandon
  else
    match policy.conclude request answer with
    | .ok (.accepted jkt alg _) => reserved.attach { validated with
        deviceBinding := if validated.confirmation.join.isSome then some (jkt, alg) else none }
    | .ok (.nonceChallenge _) => reserved.caught .proof .useDpopNonce true
    | .error failure => reserved.caught .proof failure.fault false

/-- `verifyAndReserve` is over, of which the store may have been asked. -/
def reserved (environment : ProofEnvironment) (policy : DeviceBindingPolicy) (state : AuthState)
    (validated : Validated) (proof : String) (readings : Readings) (answer : Option Bool) :
    AuthState :=
  let credential := validated.credential
  match verifyDpopProof environment policy proof credential.presented.method
      credential.presented.originalUrl credential.token validated.confirmation.join with
  | .error fault => state.caught .proof fault false
  | .ok signed =>
    match policy.checkProof environment.digest policy.effectiveNamespace readings
        signed.verified with
    | .error failure => state.caught .proof failure.fault false
    | .ok (.challenge _) => state.caught .proof .useDpopNonce true
    | .ok (.reserve request) => state.admitted policy validated request answer

/-- The `catch` of the hook. -/
def veto (state : AuthState) (fault : Fault) : AuthState :=
  let failed := state.setStatus .failed
  if !state.isPending then state.abandon
  else
    match failed.deleteAuth with
    | some deleted => { deleted with work := .notifying fault false }
    | none => { failed with work := .ended }

/-- The record of an authentication that is complete. -/
def complete (state : AuthState) (validated : Validated) (number : Nat) (object : AuthObject) :
    AuthState :=
  let credential := validated.credential
  { state with
    evidence := state.evidence.map fun record =>
      { record with status := .authenticated, auth := some number, snapshot := some object }
    work := .ended
    facts := state.facts ++ [.attached validated number object,
      .completed validated number object,
      .proceeded .authenticate credential.owner credential.res] }

/-- The restored context is attached, where `req.auth` is data. -/
def restore (state : AuthState) (validated : Validated) (fields : MappedFields) : AuthState :=
  let restored := validated.object fields
  let allocated := state.alloc restored
  match allocated.assignAuth state.objects.length with
  | some assigned => assigned.complete validated state.objects.length restored
  | none => allocated.veto .typeError

/-- The hook is over. -/
def hooked (state : AuthState) (validated : Validated) (object : Nat) (outcome : Option Fault) :
    AuthState :=
  if !state.isPending then state.abandon
  else
    match outcome with
    | some fault => state.veto fault
    | none =>
      match (state.objects[object]?).bind restoredFields with
      | none => { state with work := .storing validated }
      | some fields =>
        if state.isPlain then state.restore validated fields
        else { state with work := .storing validated }

/-- The code that the restored context meets is over. -/
def stored (state : AuthState) (validated : Validated) : Stored → AuthState
  | .vetoed fault => state.veto fault
  | .unreadable fault => state.caught .proof fault false
  | .kept fields value snapshot =>
    if state.isPlain then state.restore validated fields
    else state.complete validated value snapshot

/-- The error observer of the authentication is over. -/
def notified (state : AuthState) (fault : Fault) (anonymous headersSent : Bool) : AuthState :=
  match state.deleteAuth with
  | none => { state with work := .ended }
  | some cleared =>
    let done := { cleared with work := .ended }
    if headersSent then done.note (.forwarded fault)
    else
      match state.evidence with
      | some record =>
        if anonymous && record.status = .invalid then
          done.note (.proceeded .authenticate record.owner record.res)
        else done
      | none => done

/-- A second authentication or a guard fails the request, and tells its observer. -/
def poison (state : AuthState) (fault : Fault) : AuthState :=
  let failed := (state.setStatus .failed).note .poisoned
  match failed.deleteAuth with
  | some cleared => { cleared with notices := cleared.notices ++ [fault] }
  | none => failed

/-- `rejectGuard`. -/
def rejectGuard (state : AuthState) (owner res : Nat) : AuthState :=
  match state.evidence with
  | some record =>
    state.poison (if record.status = .pending then .authenticationReentry
      else .authenticationRequired)
  | none => { state with
      evidence := some { owner, res, status := .failed, auth := none, snapshot := none } }.poison
        .authenticationRequired

/-- `req.auth` is the attached object, with the attached values as data. -/
def intact (state : AuthState) (record : RequestAuthentication) : Bool :=
  match record.auth, record.snapshot, state.slot with
  | some number, some snapshot, some slot =>
    slot.held == .auth number &&
      match state.objects[number]? with
      | some object => authFields.all fun field => sameField (snapshot field) (object field)
      | none => false
  | _, _, _ => false

/-- `guard`. -/
def guard (state : AuthState) (owner res : Nat) (bound : Bool) : AuthState :=
  match state.evidence with
  | some record =>
    if record.status = .authenticated && record.owner == owner && record.res == res &&
        state.intact record then
      if bound && ((record.snapshot.bind fun snapshot => snapshot .deviceBinding).isNone) then
        state.poison .deviceBindingRequired
      else
        state.note (.proceeded (if bound then .requireDeviceBinding else .requireAuth) owner res)
    else state.rejectGuard owner res
  | none => state.rejectGuard owner res

/-- The observer that a guard or a second authentication has told is over. -/
def noticed (state : AuthState) (fault : Fault) (headersSent : Bool) : AuthState :=
  match state.deleteAuth with
  | none => state
  | some cleared => if headersSent then cleared.note (.forwarded fault) else cleared

end AuthState

/-- Each event runs without interruption. The last four are other code, which may run between any
two others, as may `authenticate` and `guard`. -/
inductive AuthEvent where
  | authenticate (owner res : Nat) (presented : Presented)
  | guard (owner res : Nat) (bound : Bool)
  | diagnosed (headersSent : Bool)
  | validated (outcome : Except (Fault × Bool) ValidationResult)
  | reserved (readings : Readings) (answer : Option Bool)
  | assigned (outcome : Option Fault)
  | hooked (outcome : Option Fault)
  | stored (outcome : Stored)
  | notified (headersSent : Bool)
  | noticed (position : Nat) (headersSent : Bool)
  | putSlot (slot : Option Slot)
  | mutate (object : Nat) (fields : AuthObject)
  | allocate (fields : AuthObject)
  | preventExtensions

section

variable (environment : ProofEnvironment) (configuration : Nat → AuthenticatorOptions)

def AuthState.step (state : AuthState) : AuthEvent → Option AuthState
  | .authenticate owner res presented =>
    match state.evidence with
    | some _ => some (state.poison .authenticationReentry)
    | none => some (state.startAuthentication (configuration owner) owner res presented)
  | .guard owner res bound => some (state.guard owner res bound)
  | .diagnosed headersSent =>
    match state.evidence, state.work with
    | some record, .diagnosing diagnosis => some (state.diagnosed (configuration record.owner)
        record diagnosis headersSent)
    | _, _ => none
  | .validated outcome =>
    match state.work with
    | .validating credential =>
      some (state.validated (configuration credential.owner) credential outcome)
    | _ => none
  | .reserved readings answer =>
    match state.work with
    | .reserving validated proof =>
      (configuration validated.credential.owner).policy.map fun policy =>
        state.reserved environment policy validated proof readings answer
    | _ => none
  | .assigned outcome =>
    match state.work with
    | .assigning validated object => some (state.assigned validated object outcome)
    | _ => none
  | .hooked outcome =>
    match state.work with
    | .hooking validated object => some (state.hooked validated object outcome)
    | _ => none
  | .stored outcome =>
    match state.work with
    | .storing validated => some (state.stored validated outcome)
    | _ => none
  | .notified headersSent =>
    match state.work with
    | .notifying fault anonymous => some (state.notified fault anonymous headersSent)
    | _ => none
  | .noticed position headersSent =>
    match state.notices[position]? with
    | some fault => some ({ state with notices := state.notices.eraseIdx position }.noticed fault
        headersSent)
    | none => none
  | .putSlot slot => some { state with slot }
  | .mutate object fields => some { state with objects := state.objects.set object fields }
  | .allocate fields => some (state.alloc fields)
  | .preventExtensions => some { state with extensible := false }

/-- The observer of a diagnostic that no test follows runs no handler on the request, and puts
nothing at `req.auth` of one that goes on without credentials. No getter or setter of other code
takes part in what is attached. -/
def AuthState.Undisturbed (state : AuthState) : AuthEvent → Prop
  | .authenticate _ _ _ => state.work.isUnchecked = false
  | .guard _ _ _ => state.work.isUnchecked = false
  | .putSlot _ => state.work.isMissing = false
  | .assigned _ => False
  | .stored _ => False
  | _ => True

instance : DecidableRel AuthState.Undisturbed := fun state event =>
  match event with
  | .authenticate _ _ _ | .guard _ _ _ =>
    inferInstanceAs (Decidable (state.work.isUnchecked = false))
  | .putSlot _ => inferInstanceAs (Decidable (state.work.isMissing = false))
  | .assigned _ | .stored _ => isFalse id
  | .diagnosed _ | .validated _ | .reserved _ _ | .hooked _ | .notified _ | .noticed _ _
  | .mutate _ _ | .allocate _ | .preventExtensions => isTrue trivial

/-- One request under any order of events, with any authenticators. -/
def authentication : TransitionSystem AuthState AuthEvent where
  start := {
    evidence := none
    objects := []
    slot := none
    extensible := true
    work := .idle
    notices := []
    facts := [] }
  step := AuthState.step environment configuration

end

end WebTsToolkit.OidcVault
