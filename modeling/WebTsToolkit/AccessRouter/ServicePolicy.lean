import WebTsToolkit.AccessRouter.FieldCatalog
import WebTsToolkit.Js.Property

set_option autoImplicit false

namespace WebTsToolkit.AccessRouter

open Js FieldCatalog

inductive AuthorizationMode where
  | isolated
  | trusted
  deriving DecidableEq

/-- The options that this part reads. The modes have passed `assertAuthorizationModeOptions`. -/
structure AuthorizationConfiguration where
  catalog : AuthorizationFieldCatalog
  readAuthorizationMode : Option AuthorizationMode
  listAuthorizationMode : Option AuthorizationMode
  createAuthorizationMode : Option AuthorizationMode
  updateAuthorizationMode : Option AuthorizationMode
  documentPermissionField : Option String

inductive TargetKind where
  | output
  | count
  deriving DecidableEq

/-- `model` is the identity of the model. -/
structure AuthorizationRelatedTarget where
  path : String
  modelName : String
  configuration : AuthorizationConfiguration
  model : Option Nat
  kind : Option TargetKind
  relatedTargets : Option (List AuthorizationRelatedTarget)

inductive AuthorizationApplicability where
  | service
  | mutation
  | create
  | output
  deriving DecidableEq

inductive ResolvedRows where
  | request
  | unrestricted
  | scope (filter : Value)

inductive OperationAuthorization where
  | request
  | grant
  deriving DecidableEq

structure NormalizedRelatedAuthorization (Policy : Type) where
  model : String
  operation : OperationAuthorization
  policy : Policy

structure NormalizedServiceAuthorization where
  rows : ResolvedRows
  outputFields : FieldAuthorization
  inputFields : FieldAuthorization
  related : List (String × NormalizedRelatedAuthorization NormalizedServiceAuthorization)

/-- What a `ServiceAuthorizationError` says. -/
inductive AuthorizationFault where
  | detail (text : String)
  /-- `invalid response path: ${String(path)}`. -/
  | responsePath (path : Value)

namespace ServicePolicy

open AuthorizationFault

def authorizationRecord (value : Value) (label : String) : Except AuthorizationFault Entries :=
  match value with
  | .object entries => .ok entries
  | _ => .error (detail (label ++ " must be a plain object"))

def retiredAuthorizationOptions : List String :=
  ["unsafeSkipListDocumentSnapshotChecks", "unsafeSkipReadDocumentSnapshotChecks",
    "unsafeSkipListOutputSnapshotChecks", "unsafeSkipReadOutputSnapshotChecks",
    "unsafeSkipListNestedDocumentSnapshotChecks", "unsafeSkipReadNestedDocumentSnapshotChecks",
    "unsafeSkipListInitialOutputSnapshotCopy", "unsafeSkipReadInitialOutputSnapshotCopy",
    "unsafeUseListAuthorizationFastPath", "unsafeUseReadAuthorizationFastPath"]

def authorizationModeKeys : List String :=
  ["readAuthorizationMode", "listAuthorizationMode", "createAuthorizationMode",
    "updateAuthorizationMode"]

def serverAuthorizationControls : List String :=
  retiredAuthorizationOptions ++ authorizationModeKeys

def authorizationControlError (key : String) : String :=
  if retiredAuthorizationOptions.contains key then
    key ++ " was removed; migrate to readAuthorizationMode/listAuthorizationMode on server " ++
      "model/default-model options"
  else key ++ " is server model/default-model configuration only"

def assertAuthorizationKeys (value : Entries) (keys : List String) (label : String) :
    Except AuthorizationFault Unit :=
  match serverAuthorizationControls.find? fun key => (getOwn value key).isSome with
  | some key => .error (detail (label ++ "." ++ authorizationControlError key))
  | none =>
    match (value.map Prod.fst).find? fun key => !keys.contains key with
    | some key => .error (detail ("unsupported " ++ label ++ " key: " ++ key))
    | none => .ok ()

def readKey (value : Entries) (key : String) : Value :=
  (getOwn value key).getD .undefined

def assertAuthorizationPath : Value → Except AuthorizationFault String
  | .string path => if isSafeOutputPath path then .ok path else .error (responsePath (.string path))
  | path => .error (responsePath path)

def overlaps (a b : String) : Bool :=
  a == b || startsWith a (b ++ ".") || startsWith b (a ++ ".")

def assertUnprotected (path : String) (configuration : AuthorizationConfiguration) :
    Except AuthorizationFault Unit := do
  let _ ← assertAuthorizationPath (.string path)
  if overlaps path (configuration.documentPermissionField.getD "_permissions") ||
      configuration.catalog.protectedPaths.any (matchesCatalogPattern · path true) then
    .error (detail ("protected output path: " ++ path))

def assertCatalogPath (path : String) (configuration : AuthorizationConfiguration) :
    Except AuthorizationFault Unit := do
  assertUnprotected path configuration
  if configuration.catalog.referencePaths.any fun ref =>
      matchesCatalogPattern ref path true && !matchesCatalogPattern ref path false then
    .error (detail ("referenced fields require related authority: " ++ path))
  if !isCatalogOutputPath configuration.catalog path then
    .error (detail ("unknown output path: " ++ path))

def normalizeRows (value : Value) : Except AuthorizationFault ResolvedRows :=
  match value with
  | .undefined => .ok .request
  | value => do
    let input ← authorizationRecord value "rows"
    match readKey input "mode" with
    | .string "request" => do
      assertAuthorizationKeys input ["mode"] "rows"
      return .request
    | .string "unrestricted" => do
      assertAuthorizationKeys input ["mode"] "rows"
      return .unrestricted
    | .string "scope" => do
      assertAuthorizationKeys input ["mode", "filter"] "rows"
      match readKey input "filter" with
      | .bool false => return .scope (.bool false)
      | filter => do
        let _ ← authorizationRecord filter "scope.filter"
        return .scope filter
    | _ => .error (detail "unknown rows mode")

/-- Which fields a policy is about. -/
inductive Dimension where
  | outputFields
  | inputFields
  deriving DecidableEq

def Dimension.label : Dimension → String
  | .outputFields => "outputFields"
  | .inputFields => "inputFields"

def grantPath (configuration : AuthorizationConfiguration) (dimension : Dimension) (path : Value) :
    Except AuthorizationFault String := do
  let path ← assertAuthorizationPath path
  assertCatalogPath path configuration
  if dimension = .inputFields && !isCatalogInputPath configuration.catalog path then
    .error (detail ("ineligible persisted input path: " ++ path))
  return path

def normalizeFields (value : Value) (configuration : AuthorizationConfiguration)
    (dimension : Dimension) : Except AuthorizationFault FieldAuthorization :=
  match value with
  | .undefined => .ok .request
  | value => do
    let input ← authorizationRecord value dimension.label
    match readKey input "mode" with
    | .string "request" => do
      assertAuthorizationKeys input ["mode"] dimension.label
      return .request
    | .string "unrestricted" => do
      assertAuthorizationKeys input ["mode"] dimension.label
      return .unrestricted
    | .string "grant" => do
      assertAuthorizationKeys input ["mode", "paths"] dimension.label
      match readKey input "paths" with
      | .array items => do
        -- `Array.from` reads a hole as undefined, which is no path.
        let paths ← items.mapM (grantPath configuration dimension)
        return .grant paths.eraseDups
      | _ => .error (detail "grant.paths must be an array")
    | _ => .error (detail ("unknown " ++ dimension.label ++ " mode"))

def normalizeOperation (value : Value) : Except AuthorizationFault OperationAuthorization :=
  match value with
  | .undefined => .ok .request
  | value => do
    let input ← authorizationRecord value "related.operation"
    assertAuthorizationKeys input ["mode"] "related.operation"
    match readKey input "mode" with
    | .string "request" => return .request
    | .string "grant" => return .grant
    | _ => .error (detail "unknown operation mode")

def policyKeys : AuthorizationApplicability → List String
  | .output => ["outputFields"]
  | .create => ["inputFields", "outputFields", "related"]
  | .mutation => ["inputFields", "rows", "outputFields", "related"]
  | .service => ["rows", "outputFields", "related"]

/-- `normalizePolicy` of a copied policy, which is at most as deep as `copyAuthorizationValue`
admits. -/
def normalizePolicy (depth : Nat) (value : Value) (applicability : AuthorizationApplicability)
    (configuration : AuthorizationConfiguration) (targets : List AuthorizationRelatedTarget) :
    Except AuthorizationFault NormalizedServiceAuthorization :=
  match depth with
  | 0 => .error (detail "selected output exceeds structural limits")
  | depth + 1 => do
    let input ← match value with
      | .undefined => .ok []
      | value => authorizationRecord value "authorization"
    assertAuthorizationKeys input (policyKeys applicability) "authorization"
    let related ← match readKey input "related" with
      | .undefined => .ok []
      | value => do
        let entries ← authorizationRecord value "related"
        entries.mapM fun (path, entry) => do
          assertUnprotected path configuration
          match targets.filter fun target => target.path == path with
          | [target] => do
            let child ← authorizationRecord entry ("related." ++ path)
            assertAuthorizationKeys child
              (if target.kind = some .count then ["model", "operation", "rows"]
                else ["model", "operation", "rows", "outputFields", "related"])
              ("related." ++ path)
            match readKey child "model" with
            | .string model => do
              if model = "" || model != target.modelName then
                .error (detail ("related model mismatch: " ++ path))
              let operation ← normalizeOperation (readKey child "operation")
              let rest := child.filter fun field =>
                field.1 != "model" && field.1 != "operation"
              let policy ← normalizePolicy depth (.object rest) .service
                target.configuration (target.relatedTargets.getD [])
              return (path, { model, operation, policy })
            | _ => .error (detail ("related model mismatch: " ++ path))
          | _ => .error (detail ("unused or ambiguous related path: " ++ path))
    let rows ← normalizeRows (readKey input "rows")
    let outputFields ← normalizeFields (readKey input "outputFields") configuration .outputFields
    let inputFields ← normalizeFields (readKey input "inputFields") configuration .inputFields
    return { rows, outputFields, inputFields, related }

/-- How deep `copyAuthorizationValue` goes. -/
def maxPolicyDepth : Nat := 101

/-- The policy of a call that grants nothing. -/
def requestPolicy : NormalizedServiceAuthorization where
  rows := .request
  outputFields := .request
  inputFields := .request
  related := []

end ServicePolicy

end WebTsToolkit.AccessRouter
