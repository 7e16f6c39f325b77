import WebTsToolkit.AccessRouter.ServicePolicy
import WebTsToolkit.Library.TransitionSystem

set_option autoImplicit false

namespace WebTsToolkit.AccessRouter

open Js FieldCatalog ServicePolicy AuthorizationFault

/-- Requests, runtimes and models are objects, told apart by their identity. -/
structure AuthorizationBinding where
  request : Nat
  runtime : Nat
  model : Nat
  modelName : String
  scopePath : Option (List String)

namespace AuthorizationBinding

def scope (binding : AuthorizationBinding) : List String :=
  binding.scopePath.getD []

/-- The comparison of `assertAuthorizationBinding`. -/
def matches_ (expected binding : AuthorizationBinding) : Bool :=
  expected.request == binding.request && expected.runtime == binding.runtime &&
    expected.model == binding.model && expected.modelName == binding.modelName &&
    expected.scope == binding.scope

end AuthorizationBinding

structure AuthorizationAccess where
  operation : String
  rowAccess : Option String
  virtualAccess : String
  outputAccess : String
  docPermissionsAccess : String
  deriving DecidableEq

inductive WriteOperation where
  | create
  | update
  | upsert
  deriving DecidableEq

def WriteOperation.text : WriteOperation → String
  | .create => "create"
  | .update => "update"
  | .upsert => "upsert"

inductive WriteOutputBranch where
  | create
  | update
  deriving DecidableEq

def WriteOutputBranch.text : WriteOutputBranch → String
  | .create => "create"
  | .update => "update"

/-- The operation whose only branch this is. -/
def WriteOutputBranch.operation : WriteOutputBranch → WriteOperation
  | .create => .create
  | .update => .update

inductive QueryOrigin where
  | read
  | list
  deriving DecidableEq

inductive FactOrigin where
  | document
  | outputHelper
  deriving DecidableEq

/-- An actor's view is an object that is only passed on: one of the application, or a capture,
the how manieth. -/
inductive AccessRouterPermissions where
  | application (identity : Nat) (owned : Bool)
  | captured (number : Nat)
  deriving DecidableEq

structure OutputPreparation where
  access : AuthorizationAccess
  catalog : AuthorizationFieldCatalog
  outputFields : FieldAuthorization

/-- The record of a resolved call. A call is an empty frozen object, known by the order in which
it was issued. -/
structure CallRecord where
  binding : AuthorizationBinding
  access : AuthorizationAccess
  configuration : AuthorizationConfiguration
  policy : NormalizedServiceAuthorization
  relatedTargets : List AuthorizationRelatedTarget
  output : OutputPreparation
  permissions : AccessRouterPermissions
  provenance : Nat
  queryOrigin : Option QueryOrigin
  writeOrigin : Option WriteOperation
  writeOutputBranch : Option WriteOutputBranch
  sourceMode : AuthorizationMode
  factOrigin : FactOrigin
  fieldPolicyOwner : Option Nat

inductive EdgeKind where
  | embedded
  | related
  | retry
  deriving DecidableEq

structure SnapshotDerivation where
  kind : EdgeKind
  parentBinding : AuthorizationBinding
  path : Option String

structure ResolveServiceAuthorizationInput where
  binding : AuthorizationBinding
  access : AuthorizationAccess
  configuration : AuthorizationConfiguration
  requestPermissions : AccessRouterPermissions
  authorization : Value
  applicability : Option AuthorizationApplicability
  relatedTargets : Option (List AuthorizationRelatedTarget)
  parent : Option Nat
  listResponse : Bool
  readResponse : Bool
  snapshotDerivation : Option SnapshotDerivation

/-- The records of the issued calls, and how many actors were captured. -/
structure Calls where
  records : List CallRecord
  captures : Nat

/-- The control preflight and the copies of application values keep what they are given, or
throw: the preflight before anything is derived, a copy after it. -/
structure Admission where
  preflight : Option String
  copies : Option String

namespace AuthorizationAccess

variable (access : AuthorizationAccess)

def targetOutputAccess : Bool :=
  (access.rowAccess == some "read" || access.rowAccess == some "list") &&
    some access.outputAccess == access.rowAccess && some access.virtualAccess == access.rowAccess &&
    some access.docPermissionsAccess == access.rowAccess

def queryOutputAccess : Bool :=
  (access.operation == "read" || access.operation == "list") && access.targetOutputAccess

/-- Canonical workers, not a read-shaped tuple, select the executed write branch. -/
def writeBranchAccess (operation : WriteOperation) (branch : WriteOutputBranch) : Bool :=
  access.operation == operation.text &&
    access.rowAccess == (if branch = .update then some "update" else none) &&
    access.virtualAccess == branch.text && access.outputAccess == "read" &&
    access.docPermissionsAccess == branch.text

/-- `access.rowAccess as 'read' | 'list'`. -/
def rowOrigin : QueryOrigin :=
  if access.rowAccess = some "read" then .read else .list

/-- No property that the parent has differs. -/
def agreesWith (parent : AuthorizationAccess) : Bool :=
  access.operation == parent.operation &&
    (parent.rowAccess == none || access.rowAccess == parent.rowAccess) &&
    access.virtualAccess == parent.virtualAccess && access.outputAccess == parent.outputAccess &&
    access.docPermissionsAccess == parent.docPermissionsAccess

end AuthorizationAccess

def modeFor (configuration : AuthorizationConfiguration) : Option QueryOrigin → AuthorizationMode
  | some .read => configuration.readAuthorizationMode.getD .isolated
  | some .list => configuration.listAuthorizationMode.getD .isolated
  | none => .isolated

namespace Calls

variable (calls : Calls)

/-- The call that is issued next. -/
def next : Nat :=
  calls.records.length

def callRecord (call : Nat) : Except AuthorizationFault CallRecord :=
  match calls.records[call]? with
  | some record => .ok record
  | none => .error (detail "invalid resolved call")

def assertAuthorizationBinding (call : Nat) (binding : AuthorizationBinding) :
    Except AuthorizationFault Unit := do
  let record ← calls.callRecord call
  if !record.binding.matches_ binding then
    .error (detail "request/runtime/model/scope binding mismatch")

def captureAuthorizationPermissions (permissions : AccessRouterPermissions) (outputOnly : Bool) :
    Calls × AccessRouterPermissions :=
  match permissions, outputOnly with
  | .captured number, _ => (calls, .captured number)
  | .application identity true, true => (calls, .application identity true)
  | _, _ => ({ calls with captures := calls.captures + 1 }, .captured calls.captures)

/-- The request and the runtime of a derived call are its parent's. -/
def assertDerivedCall (parent binding : AuthorizationBinding) : Except AuthorizationFault Unit :=
  if parent.request != binding.request || parent.runtime != binding.runtime then
    .error (detail "derived call request/runtime mismatch")
  else .ok ()

/-- The edge of a derivation to another model, with the target that it goes to. -/
def relatedEdge (parent : CallRecord) (binding : AuthorizationBinding) (path : Option String) :
    Except AuthorizationFault AuthorizationRelatedTarget :=
  match parent.relatedTargets.find? fun target => some target.path == path with
  | none => .error (detail "unknown related output edge")
  | some target =>
    if target.modelName != binding.modelName ||
        (target.model.isSome && target.model != some binding.model) || !binding.scope.isEmpty then
      .error (detail "related model/scope mismatch")
    else .ok target

/-- The edge of a derivation to a scope inside its parent's. -/
def embeddedEdge (parent : CallRecord) (binding : AuthorizationBinding)
    (access : AuthorizationAccess) : Except AuthorizationFault Unit :=
  if binding.scope.length ≤ parent.binding.scope.length ||
      !parent.binding.scope.isPrefixOf binding.scope || !access.agreesWith parent.access then
    .error (detail "embedded scope/access mismatch")
  else if !isCatalogOutputPath parent.output.catalog (".".intercalate binding.scope) then
    .error (detail "unknown output scope")
  else .ok ()

/-- The policy over an edge to a related model, which grants nothing where the parent's policy
has no entry. -/
def targetPolicy (parent : CallRecord) (target : AuthorizationRelatedTarget) :
    Except AuthorizationFault NormalizedServiceAuthorization :=
  match parent.policy.related.lookup target.path with
  | some related => .ok related.policy
  | none =>
    normalizePolicy maxPolicyDepth .undefined .service target.configuration
      (target.relatedTargets.getD [])

/-- The record over an edge to a related model. -/
def relatedRecord (input : ResolveServiceAuthorizationInput) (parent : CallRecord)
    (target : AuthorizationRelatedTarget) : Except AuthorizationFault CallRecord := do
  let policy ← targetPolicy parent target
  let queryOrigin :=
    if (parent.queryOrigin.isSome && input.access.queryOutputAccess) ||
        (parent.writeOutputBranch.isSome && input.access.targetOutputAccess) then
      some input.access.rowOrigin
    else none
  return {
    binding := { input.binding with scopePath := some input.binding.scope }
    access := input.access
    configuration := target.configuration
    policy
    relatedTargets := target.relatedTargets.getD []
    output := {
      access := input.access
      catalog := target.configuration.catalog
      outputFields := policy.outputFields }
    permissions := parent.permissions
    provenance := parent.provenance
    queryOrigin
    writeOrigin := none
    writeOutputBranch := parent.writeOutputBranch
    sourceMode := modeFor target.configuration queryOrigin
    factOrigin := .document
    fieldPolicyOwner := some calls.next }

/-- The record over an edge within the same model. -/
def sameModelRecord (input : ResolveServiceAuthorizationInput) (call : Nat) (parent : CallRecord)
    (kind : EdgeKind) : CallRecord where
  binding := { input.binding with scopePath := some input.binding.scope }
  access := input.access
  configuration := parent.configuration
  policy := parent.policy
  relatedTargets := parent.relatedTargets
  output := {
    access := input.access
    catalog := parent.output.catalog
    outputFields := parent.policy.outputFields }
  permissions := parent.permissions
  provenance := parent.provenance
  queryOrigin := parent.queryOrigin
  writeOrigin := none
  writeOutputBranch := parent.writeOutputBranch
  sourceMode := parent.sourceMode
  factOrigin := if kind = .embedded then parent.factOrigin else .document
  fieldPolicyOwner := some (parent.fieldPolicyOwner.getD call)

/-- `deriveQueryAuthorization`: the record of the derived call, or none where it returns
undefined. -/
def deriveQueryAuthorization (input : ResolveServiceAuthorizationInput) :
    Except AuthorizationFault (Option CallRecord) :=
  match input.parent, input.snapshotDerivation with
  | some call, some edge => do
    let parent ← calls.callRecord call
    calls.assertAuthorizationBinding call edge.parentBinding
    assertDerivedCall parent.binding input.binding
    match edge.kind with
    | .related => do
      let target ← relatedEdge parent input.binding edge.path
      if target.kind = some .count then return none
      let record ← calls.relatedRecord input parent target
      return some record
    | .embedded => do
      calls.assertAuthorizationBinding call
        { input.binding with scopePath := parent.binding.scopePath }
      embeddedEdge parent input.binding input.access
      return some (sameModelRecord input call parent .embedded)
    | .retry => do
      if parent.queryOrigin != some .read || !input.access.queryOutputAccess then return none
      calls.assertAuthorizationBinding call
        { input.binding with scopePath := parent.binding.scopePath }
      calls.assertAuthorizationBinding call input.binding
      return some (sameModelRecord input call parent .retry)
  | _, _ => .ok none

/-- A path segment of a scope. -/
def scopePart (part : String) : Except AuthorizationFault Unit := do
  let _ ← assertAuthorizationPath (.string part)
  if part.toList.contains '.' then .error (detail "scopePath requires response segments")

/-- The query origin of an entry. -/
def rootQueryOrigin (input : ResolveServiceAuthorizationInput) : Option QueryOrigin :=
  if input.parent.isNone && input.applicability.getD .service = .service &&
      input.binding.scope.isEmpty && input.access.queryOutputAccess then
    if input.readResponse && input.access.operation == "read" then some .read
    else if input.listResponse && input.access.operation == "list" then some .list
    else none
  else none

/-- The write entry that a derived call keeps. -/
def keptWriteOrigin (input : ResolveServiceAuthorizationInput) : Option CallRecord →
    Option WriteOperation
  | some parent =>
    if parent.writeOrigin = some .upsert && parent.writeOutputBranch.isNone &&
        input.snapshotDerivation.any (fun edge => edge.kind = .retry) &&
        input.applicability = some .create && input.binding.scope.isEmpty &&
        parent.access.writeBranchAccess .upsert .update &&
        input.access.writeBranchAccess .upsert .create then
      some .upsert
    else none
  | none => none

/-- A kept write entry is bound as its parent. -/
def assertKept (input : ResolveServiceAuthorizationInput) (writeOrigin : Option WriteOperation) :
    Except AuthorizationFault Unit :=
  match writeOrigin, input.parent with
  | some _, some call => calls.assertAuthorizationBinding call input.binding
  | _, _ => .ok ()

/-- The record of a call that `resolveServiceAuthorization` issues itself. -/
def resolvedRecord (input : ResolveServiceAuthorizationInput) (parent : Option CallRecord)
    (permissions : AccessRouterPermissions) : Except AuthorizationFault CallRecord := do
  let queryOrigin := rootQueryOrigin input
  let targets := input.relatedTargets.getD []
  let policy ← normalizePolicy maxPolicyDepth input.authorization
    (input.applicability.getD .service) input.configuration targets
  input.binding.scope.forM scopePart
  let writeOrigin := keptWriteOrigin input parent
  calls.assertKept input writeOrigin
  return {
    binding := { input.binding with scopePath := some input.binding.scope }
    access := input.access
    configuration := input.configuration
    policy
    relatedTargets := targets
    output := {
      access := input.access
      catalog := input.configuration.catalog
      outputFields := policy.outputFields }
    permissions
    provenance := (parent.map CallRecord.provenance).getD calls.next
    queryOrigin, writeOrigin
    writeOutputBranch := none
    sourceMode := modeFor input.configuration queryOrigin
    factOrigin :=
      if input.parent.isNone && input.applicability = some .output then .outputHelper
      else .document
    fieldPolicyOwner := none }

/-- The input of a request that has a parent must be of the parent's request. -/
def assertParent (input : ResolveServiceAuthorizationInput) :
    Except AuthorizationFault (Option CallRecord) :=
  match input.parent with
  | none => .ok none
  | some call => do
    let parent ← calls.callRecord call
    assertDerivedCall parent.binding input.binding
    return some parent

/-- The actor of an entry is captured once; a derived call keeps its parent's. -/
def actorPermissions (input : ResolveServiceAuthorizationInput) :
    Option CallRecord → Calls × AccessRouterPermissions
  | some parent => (calls, parent.permissions)
  | none =>
    calls.captureAuthorizationPermissions input.requestPermissions
      (input.applicability = some .output)

def admitted : Option String → Except AuthorizationFault Unit
  | none => .ok ()
  | some text => .error (detail text)

/-- `resolveServiceAuthorization` past the capture of the actor: the record of the call, and
whether it was derived over an edge. -/
def resolveRecord (input : ResolveServiceAuthorizationInput) (parent : Option CallRecord)
    (permissions : AccessRouterPermissions) (admission : Admission) :
    Except AuthorizationFault (CallRecord × Bool) := do
  admitted admission.preflight
  match ← calls.deriveQueryAuthorization input with
  | some record => return (record, true)
  | none => do
    admitted admission.copies
    let record ← calls.resolvedRecord input parent permissions
    return (record, false)

/-- The check of `resolveWriteServiceAuthorization`. -/
def writeEntry (input : ResolveServiceAuthorizationInput) (origin : WriteOperation) : Bool :=
  input.parent.isNone && input.binding.scope.isEmpty &&
    (match origin with
      | .create => input.applicability = some .create
      | .update => input.applicability = some .mutation
      | .upsert => input.applicability = some .mutation || input.applicability = some .service) &&
    input.access.writeBranchAccess origin (if origin = .create then .create else .update)

/-- `deriveWriteOutputAuthorization`: the record of the derived call. -/
def writeOutputRecord (call : Nat) (binding : AuthorizationBinding) (branch : WriteOutputBranch) :
    Except AuthorizationFault CallRecord := do
  calls.assertAuthorizationBinding call binding
  let record ← calls.callRecord call
  match record.writeOrigin with
  | none => .error (detail "invalid write output origin/branch")
  | some origin =>
    if record.writeOutputBranch.isSome || !binding.scope.isEmpty ||
        (origin ≠ .upsert && origin ≠ branch.operation) ||
        !record.access.writeBranchAccess origin branch then
      .error (detail "invalid write output origin/branch")
    else
      .ok { record with
        writeOrigin := none
        writeOutputBranch := some branch
        sourceMode := (match branch with
          | .create => record.configuration.createAuthorizationMode
          | .update => record.configuration.updateAuthorizationMode).getD .isolated
        fieldPolicyOwner := none }

end Calls

end WebTsToolkit.AccessRouter
