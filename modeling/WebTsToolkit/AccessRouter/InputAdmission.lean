import Mathlib.Data.List.Sort
import WebTsToolkit.AccessRouter.FieldCatalog
import WebTsToolkit.AccessRouter.ApplyUpdate

set_option autoImplicit false

namespace WebTsToolkit.AccessRouter.InputAdmission

open Js Utils FieldCatalog ApplyUpdate

def inside (path root : String) : Bool :=
  path == root || startsWith path (root ++ ".")

/-- Containers of classes become plain: a document its paths, another instance its own
enumerable properties, which a set has none of. Maps stay, for their readers to flatten. -/
def inputValue : Value → Except String Value
  | .callable _ | .symbol _ =>
    .error "input values must be persisted data, not functions or symbols"
  | .classed .document fields | .classed (.custom _) fields => .ok (.object fields)
  | .classed .set _ => .ok (.object [])
  | value => .ok value

/-- `Object.fromEntries` of a Map. -/
def fromMap : Value → Value
  | .classed .map fields => .object fields
  | value => value

structure StructuralLimits where
  maxDepth : Nat
  maxNodes : Nat

def structuralLimits : StructuralLimits :=
  { maxDepth := 100, maxNodes := 20000 }

def nodeBudgetMessage (maxNodes : Nat) : String :=
  "input exceeds maximum node budget of " ++ maxNodes.repr

def depthMessage (maxDepth : Nat) : String :=
  "input exceeds maximum depth of " ++ maxDepth.repr

mutual

/-- The copy of a value and the number of nodes visited up to its end. -/
def visit (limits : StructuralLimits) (depth nodes : Nat) (raw : Value) :
    Except String (Value × Nat) :=
  if limits.maxNodes < nodes + 1 then .error (nodeBudgetMessage limits.maxNodes)
  else if limits.maxDepth < depth then .error (depthMessage limits.maxDepth)
  else
    match raw with
    | .array items =>
      if limits.maxNodes - (nodes + 1) < items.length then
        .error (nodeBudgetMessage limits.maxNodes)
      else do
        let (items, nodes) ← visitItems limits (depth + 1) (nodes + 1) items
        return (.array items, nodes)
    | .object entries =>
      if limits.maxNodes - (nodes + 1) < entries.length then
        .error (nodeBudgetMessage limits.maxNodes)
      else do
        let (entries, nodes) ← visitEntries limits (depth + 1) (nodes + 1) entries
        return (.object entries, nodes)
    | .classed (.native name) fields => .ok (.classed (.native name) fields, nodes + 1)
    | .classed .set _ => .ok (.object [], nodes + 1)
    | .classed _ fields =>
      if limits.maxNodes - (nodes + 1) < fields.length then
        .error (nodeBudgetMessage limits.maxNodes)
      else do
        let (entries, nodes) ← visitEntries limits (depth + 1) (nodes + 1) fields
        return (.object entries, nodes)
    | .hole => .ok (.undefined, nodes + 1)
    | raw => do
      let value ← inputValue raw
      return (value, nodes + 1)

/-- Holes are visited like `undefined` and stay holes. -/
def visitItems (limits : StructuralLimits) (depth nodes : Nat) :
    List Value → Except String (List Value × Nat)
  | [] => .ok ([], nodes)
  | raw :: rest => do
    let (value, nodes) ← visit limits depth nodes raw
    let (values, nodes) ← visitItems limits depth nodes rest
    let item := match raw with
      | .hole => .hole
      | _ => value
    return (item :: values, nodes)

def visitEntries (limits : StructuralLimits) (depth nodes : Nat) :
    List (String × Value) → Except String (List (String × Value) × Nat)
  | [] => .ok ([], nodes)
  | (key, raw) :: rest => do
    let (value, nodes) ← visit limits depth nodes raw
    let (entries, nodes) ← visitEntries limits depth nodes rest
    return ((key, value) :: entries, nodes)

end

/-- Bound the containers that admission traverses. Values are trees here, so the error for
cyclic input does not arise. -/
def boundedInputValue (input : Value) (limits : StructuralLimits) : Except String Value :=
  let bounds : StructuralLimits :=
    { maxDepth := min limits.maxDepth structuralLimits.maxDepth,
      maxNodes := min limits.maxNodes structuralLimits.maxNodes }
  (visit bounds 0 0 input).map Prod.fst

/-- The whole paths of a list of fields, in the grammar of `set`. -/
def requestBoundaries (fields : List String) : List String :=
  ((boundaries fields).filterMap fun mark =>
    match mark with
    | .whole path => some path
    | .partialContainer _ => none).eraseDups

def ownValue (data : Value) (parts : List String) : Except String (Option Value) :=
  match parts with
  | [] => .ok (some data)
  | part :: rest => do
    let current ← inputValue data
    let current := fromMap current
    if current.isPlainObject || current.isArray then
      match ownProperty current part with
      | some value => ownValue value rest
      | none => return none
    else return none

def forbidden (catalog : AuthorizationFieldCatalog) (path : String) (requestIdentity : Bool) :
    Bool :=
  !isSafeInputPath path requestIdentity || isInputVirtualPath catalog path ||
    (catalog.protectedPaths ++ catalog.virtualPaths ++ catalog.schemaVirtualPaths).any
      (matchesCatalogPattern · path true)

/-- Whether a record member is copied, the error for a function aside. -/
def copiesMember (catalog : AuthorizationFieldCatalog) (requestPaths : List String)
    (child concrete key : String) (entry : Value) : Except String Bool :=
  let requested := requestPaths.any fun path => inside concrete path
  if key.toList.contains '.' || forbidden catalog child requested then .ok false
  else if !requested && !isCatalogInputPath catalog child then
    if requestPaths.any fun path => inside path concrete then do
      let container ← inputValue entry
      return (fromMap container).isPlainObject || container.isArray
    else .ok false
  else .ok true

mutual

def copyInputValue (catalog : AuthorizationFieldCatalog) (requestPaths : List String)
    (path concretePath : String) (value : Value) : Except String Value :=
  match value with
  | .array items => do
    let items ← copyItems catalog requestPaths path concretePath 0 items
    return .array items
  | .object entries => do
    let entries ← copyEntries catalog requestPaths path concretePath entries
    return .object entries
  | .classed (.native name) fields => .ok (.classed (.native name) fields)
  | .classed .set _ => .ok (.object [])
  | .classed _ fields => do
    let entries ← copyEntries catalog requestPaths path concretePath fields
    return .object entries
  | value => inputValue value

def copyItems (catalog : AuthorizationFieldCatalog) (requestPaths : List String)
    (path concretePath : String) (index : Nat) : List Value → Except String (List Value)
  | [] => .ok []
  | item :: rest => do
    let copied ← copyInputValue catalog requestPaths path
      (concretePath ++ "." ++ index.repr) item
    let others ← copyItems catalog requestPaths path concretePath (index + 1) rest
    return copied :: others

def copyEntries (catalog : AuthorizationFieldCatalog) (requestPaths : List String)
    (path concretePath : String) : List (String × Value) → Except String (List (String × Value))
  | [] => .ok []
  | (key, entry) :: rest => do
    let child := childPath path key
    let concrete := childPath concretePath key
    let copies ← copiesMember catalog requestPaths child concrete key entry
    if copies then
      let copied ← copyInputValue catalog requestPaths child concrete entry
      let others ← copyEntries catalog requestPaths path concretePath rest
      return (key, copied) :: others
    else copyEntries catalog requestPaths path concretePath rest

end

/-- The paths that a grant reaches, as lists of parts. -/
abbrev Expansion := Except String (List (List String))

/-- A property that every plain object inherits. -/
def inheritedProperty (key : String) : Value :=
  if key = "__proto__" then .object []
  else if ["constructor", "hasOwnProperty", "isPrototypeOf", "propertyIsEnumerable", "toString",
      "valueOf", "toLocaleString", "__defineGetter__", "__defineSetter__", "__lookupGetter__",
      "__lookupSetter__"].contains key then .callable 0
  else .undefined

/-- `record(current) ? current[key] : undefined`. -/
def storedChild (current : Value) (key : String) : Value :=
  match current with
  | .object entries => (getOwn entries key).getD (inheritedProperty key)
  | _ => .undefined

/-- A stored Map or document as the plain object of its fields. -/
def storedValue : Value → Value
  | .classed .map fields | .classed .document fields => .object fields
  | value => value

section Expand

variable (descend : Value → Value → List String → Expansion) (key : String)

mutual

/-- Expansion of the grant that goes on with `key`, in a payload value against the stored one.
`descend` expands the rest of the grant in the member that the key names. -/
def expandNode (schemaArray : Bool) (current : Value) (concrete : List String)
    (value : Value) : Expansion :=
  match value with
  | .array items =>
    match storedValue current with
    | .array stored => expandItems stored 0 concrete items
    | _ => .ok []
  | value => do
    let value ← inputValue value
    let current := storedValue current
    if current.isArray || schemaArray then return []
    else
      match fromMap value with
      | .object entries =>
        if !current.isNullish && !current.isPlainObject then return []
        else
          match getOwn entries key with
          | some child => descend child (storedChild current key) (concrete ++ [key])
          | none => return []
      | _ => return []

/-- Items at indices that both arrays have, where the stored one is a record or an array. -/
def expandItems (stored : List Value) (index : Nat) (concrete : List String) :
    List Value → Expansion
  | [] => .ok []
  | item :: rest =>
    match stored with
    | [] => .ok []
    | current :: stored =>
      let entered := expandNode false current (concrete ++ [index.repr]) item
      let later := expandItems stored (index + 1) concrete rest
      match item with
      | .hole => later
      | _ =>
        if current.isPlainObject || current.isArray then do
          let paths ← entered
          let others ← later
          return paths ++ others
        else later

end

end Expand

/-- The branch of values that are no arrays. -/
theorem expandNode_of_not_array {descend : Value → Value → List String → Expansion}
    {key : String} {schemaArray : Bool} {current : Value} {concrete : List String}
    {value : Value} (notArray : ∀ items, value ≠ .array items) :
    expandNode descend key schemaArray current concrete value = (do
      let value ← inputValue value
      let current := storedValue current
      if current.isArray || schemaArray then return []
      else
        match fromMap value with
        | .object entries =>
          if !current.isNullish && !current.isPlainObject then return []
          else
            match getOwn entries key with
            | some child => descend child (storedChild current key) (concrete ++ [key])
            | none => return []
        | _ => return []) := by
  have whole := expandNode.eq_def descend key schemaArray current concrete value
  cases value <;> first | exact whole | exact absurd rfl (notArray _)

/-- `[scope, path].filter(Boolean).join('.')`. -/
def logicalPath (scope path : String) : String :=
  if path = "" then scope else childPath scope path

def isSchemaArray (catalog : AuthorizationFieldCatalog) (scope : String) (logical : List String) :
    Bool :=
  !logical.isEmpty &&
    catalog.arrayPaths.any (matchesCatalogPattern · (logicalPath scope (joinDots logical)) false)

/-- `expand`: the concrete paths of a grant. -/
def expand (catalog : AuthorizationFieldCatalog) (scope : String) (parts logical : List String)
    (value current : Value) (concrete : List String) : Expansion :=
  match parts with
  | [] => do
    let _ ← inputValue value
    return [concrete]
  | key :: rest =>
    expandNode (fun value current concrete =>
        expand catalog scope rest (logical ++ [key]) value current concrete)
      key (isSchemaArray catalog scope logical) current concrete value

/-- The grants of the mode, within the scope for all persisted paths. -/
def inputGrants (inputFields : FieldAuthorization) (catalog : AuthorizationFieldCatalog)
    (scope : String) : List String :=
  match inputFields with
  | .grant paths => paths
  | .unrestricted =>
    (catalog.persistedPaths.getD catalog.paths).filter fun path =>
      (scope == "" || startsWith path (scope ++ ".")) && !hasWildcard path &&
        isCatalogInputPath catalog path
  | .request => []

def expandGrants (catalog : AuthorizationFieldCatalog) (scope : String) (data existing : Value)
    (grants : List String) : Except String (List String) :=
  match grants with
  | [] => .ok []
  | path :: rest =>
    if scope != "" && !startsWith path (scope ++ ".") then
      expandGrants catalog scope data existing rest
    else do
      let relative := if scope = "" then path else sliceFrom path (scope.toList.length + 1)
      let paths ← expand catalog scope (segments relative) [] data existing []
      let others ← expandGrants catalog scope data existing rest
      return paths.map joinDots ++ others

structure AdmissionArgs where
  data : Value
  existing : Value
  requestFields : List String
  inputFields : FieldAuthorization
  catalog : AuthorizationFieldCatalog
  scopePath : String

structure Admitted where
  allowedData : Value
  allowedFields : List String

def depth (field : String) : Nat :=
  (segments field).length

/-- `/^\d+$/`. -/
def isDigits (part : String) : Bool :=
  part != "" && part.toList.all isDigit

/-- Fields by depth, each unless a field at or above it was taken, it is forbidden, or the
payload does not own it. -/
def selectFields (args : AdmissionArgs) (data : Value) (requestPaths : List String)
    (allowedData : Value) (selected : List String) (fields : List String) :
    Except String Value :=
  match fields with
  | [] => .ok allowedData
  | field :: rest =>
    if selected.any fun path => inside field path then
      selectFields args data requestPaths allowedData selected rest
    else
      let parts := segments field
      let path := logicalPath args.scopePath (joinDots (parts.filter (!isDigits ·)))
      if forbidden args.catalog path (requestPaths.contains field) then
        selectFields args data requestPaths allowedData selected rest
      else do
        match ← ownValue data parts with
        | none => selectFields args data requestPaths allowedData selected rest
        | some supplied =>
          let copied ← copyInputValue args.catalog
            (requestPaths.map (logicalPath args.scopePath)) path
            (logicalPath args.scopePath field) supplied
          selectFields args data requestPaths (setPath allowedData field copied)
            (selected ++ [field]) rest

def admitModelInput (args : AdmissionArgs) : Except String Admitted := do
  let data ← boundedInputValue args.data structuralLimits
  let requestPaths := requestBoundaries args.requestFields
  let grants := inputGrants args.inputFields args.catalog args.scopePath
  let elevated ← expandGrants args.catalog args.scopePath data args.existing grants
  let allowedFields := (requestPaths ++ elevated).eraseDups
  let fields := allowedFields.insertionSort fun first second => depth first ≤ depth second
  let allowedData ← selectFields args data requestPaths (.object []) [] fields
  return { allowedData, allowedFields }

end WebTsToolkit.AccessRouter.InputAdmission
