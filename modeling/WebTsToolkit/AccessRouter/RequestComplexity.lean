import Mathlib.Algebra.BigOperators.Group.List.Basic
import WebTsToolkit.Js.Double
import WebTsToolkit.Js.Value
import WebTsToolkit.Library.Outcome

set_option autoImplicit false

namespace WebTsToolkit.AccessRouter

open Js

/-- An option that is absent or no number is `none`. -/
structure RequestComplexityOptions where
  maxDepth : Option Number := none
  maxNodes : Option Number := none
  maxLogicalClauses : Option Number := none
  maxInValues : Option Number := none
  maxBulkItems : Option Number := none
  maxIncludeCount : Option Number := none
  maxSubQueryCount : Option Number := none
  maxBulkConcurrency : Option Number := none
  maxHookConcurrency : Option Number := none
  maxCorrelatedQueries : Option Number := none
  maxCorrelatedDepth : Option Number := none

/-- `Required<RequestComplexityOptions>`, once resolved. -/
structure RequestLimits where
  maxDepth : Nat := 8
  maxNodes : Nat := 500
  maxLogicalClauses : Nat := 50
  maxInValues : Nat := 100
  maxBulkItems : Nat := 100
  maxIncludeCount : Nat := 10
  maxSubQueryCount : Nat := 10
  maxBulkConcurrency : Nat := 10
  maxHookConcurrency : Nat := 10
  maxCorrelatedQueries : Nat := 100
  maxCorrelatedDepth : Nat := 5
  deriving DecidableEq

namespace RequestComplexity

def defaultRequestComplexity : RequestLimits := {}

def normalizePositiveInteger (value : Option Number) (fallback : Nat) : Nat :=
  match value.bind Number.safeInteger with
  | some integer => if 0 < integer then integer.toNat else fallback
  | none => fallback

def resolveRequestComplexity (options : RequestComplexityOptions) : RequestLimits where
  maxDepth := normalizePositiveInteger options.maxDepth defaultRequestComplexity.maxDepth
  maxNodes := normalizePositiveInteger options.maxNodes defaultRequestComplexity.maxNodes
  maxLogicalClauses :=
    normalizePositiveInteger options.maxLogicalClauses defaultRequestComplexity.maxLogicalClauses
  maxInValues := normalizePositiveInteger options.maxInValues defaultRequestComplexity.maxInValues
  maxBulkItems :=
    normalizePositiveInteger options.maxBulkItems defaultRequestComplexity.maxBulkItems
  maxIncludeCount :=
    normalizePositiveInteger options.maxIncludeCount defaultRequestComplexity.maxIncludeCount
  maxSubQueryCount :=
    normalizePositiveInteger options.maxSubQueryCount defaultRequestComplexity.maxSubQueryCount
  maxBulkConcurrency :=
    normalizePositiveInteger options.maxBulkConcurrency defaultRequestComplexity.maxBulkConcurrency
  maxHookConcurrency :=
    normalizePositiveInteger options.maxHookConcurrency defaultRequestComplexity.maxHookConcurrency
  maxCorrelatedQueries :=
    normalizePositiveInteger options.maxCorrelatedQueries
      defaultRequestComplexity.maxCorrelatedQueries
  maxCorrelatedDepth :=
    normalizePositiveInteger options.maxCorrelatedDepth defaultRequestComplexity.maxCorrelatedDepth

inductive ComplexityScope where
  | request
  | filter
  deriving DecidableEq

structure ValidationError where
  detail : String
  pointer : String
  deriving DecidableEq

/-- Keys and indices from the root. -/
def pointer (path : List String) : String :=
  if path = [] then "#" else "#/" ++ String.intercalate "/" path

/-- The running counters of the walk. -/
structure Counters where
  nodes : Nat := 0
  logicalClauses : Nat := 0
  includeCount : Nat := 0
  subQueryCount : Nat := 0
  deriving DecidableEq

/-- `pushError` and the return after it, where a limit is passed. -/
def limit (passed : Bool) (detail : String) (path : List String) (counters : Counters) :
    Except ValidationError Counters :=
  if passed then .error { detail, pointer := pointer path } else .ok counters

def isLogicalKey (key : Option String) : Bool :=
  key = some "$and" || key = some "$or" || key = some "$nor"

def isUnsafeKey (key : String) : Bool :=
  key = "__proto__" || key = "prototype" || key = "constructor"

/-- `isArray(child) ? child.length : 1`. -/
def includeSize : Value → Nat
  | .array items => items.length
  | _ => 1

/-- What any value is charged before it is looked into. -/
def chargeNode (limits : RequestLimits) (path : List String) (depth : Nat) (counters : Counters) :
    Except ValidationError Counters := do
  let nodes := counters.nodes + 1
  let counters ← limit (limits.maxNodes < nodes)
    ("Request exceeds maximum node budget of " ++ limits.maxNodes.repr) path
    { counters with nodes }
  limit (limits.maxDepth < depth)
    ("Request exceeds maximum depth of " ++ limits.maxDepth.repr) path counters

/-- What an array is charged before its items are visited. -/
def chargeArray (limits : RequestLimits) (path : List String) (parentKey : Option String)
    (items : List Value) (counters : Counters) : Except ValidationError Counters := do
  let counters ←
    if isLogicalKey parentKey then
      let logicalClauses := counters.logicalClauses + items.length
      limit (limits.maxLogicalClauses < logicalClauses)
        ("Filter exceeds maximum logical clause budget of " ++ limits.maxLogicalClauses.repr) path
        { counters with logicalClauses }
    else .ok counters
  limit (parentKey = some "$in" && limits.maxInValues < items.length)
    ("Filter exceeds maximum $in values of " ++ limits.maxInValues.repr) path counters

def chargeInclude (limits : RequestLimits) (scope : ComplexityScope) (path : List String)
    (key : String) (child : Value) (counters : Counters) : Except ValidationError Counters :=
  if scope = .request && key = "include" then
    let includeCount := counters.includeCount + includeSize child
    limit (limits.maxIncludeCount < includeCount)
      ("Request exceeds maximum include count of " ++ limits.maxIncludeCount.repr)
      (path ++ [key]) { counters with includeCount }
  else .ok counters

def chargeSubQuery (limits : RequestLimits) (path : List String) (key : String)
    (counters : Counters) : Except ValidationError Counters :=
  if key = "$$sq" then
    let subQueryCount := counters.subQueryCount + 1
    limit (limits.maxSubQueryCount < subQueryCount)
      ("Request exceeds maximum subquery count of " ++ limits.maxSubQueryCount.repr)
      (path ++ [key]) { counters with subQueryCount }
  else .ok counters

/-- What an entry of a plain object is charged before its value is visited. -/
def chargeEntry (limits : RequestLimits) (scope : ComplexityScope) (path : List String)
    (key : String) (child : Value) (counters : Counters) : Except ValidationError Counters := do
  let counters ← limit (isUnsafeKey key) ("Unsupported key: " ++ key) (path ++ [key]) counters
  let counters ← chargeInclude limits scope path key child counters
  chargeSubQuery limits path key counters

mutual

/-- The walk stops at the first error. -/
def visit (limits : RequestLimits) (scope : ComplexityScope) (path : List String) (depth : Nat)
    (parentKey : Option String) (counters : Counters) (current : Value) :
    Except ValidationError Counters := do
  let counters ← chargeNode limits path depth counters
  match current with
  | .array items =>
    let counters ← chargeArray limits path parentKey items counters
    visitItems limits scope path 0 (depth + 1) parentKey counters items
  | .object entries => visitEntries limits scope path (depth + 1) counters entries
  | _ => return counters

def visitItems (limits : RequestLimits) (scope : ComplexityScope) (path : List String)
    (index : Nat) (depth : Nat) (parentKey : Option String) (counters : Counters) :
    List Value → Except ValidationError Counters
  | [] => .ok counters
  | item :: rest => do
    let counters ← visit limits scope (path ++ [index.repr]) depth parentKey counters item
    visitItems limits scope path (index + 1) depth parentKey counters rest

/-- The value under `$$sq` is visited like any other. -/
def visitEntries (limits : RequestLimits) (scope : ComplexityScope) (path : List String)
    (depth : Nat) (counters : Counters) :
    List (String × Value) → Except ValidationError Counters
  | [] => .ok counters
  | (key, child) :: rest => do
    let counters ← chargeEntry limits scope path key child counters
    let counters ← visit limits scope (path ++ [key]) depth (some key) counters child
    visitEntries limits scope path depth counters rest

end

def validateRequestComplexity (value : Value) (options : RequestComplexityOptions)
    (scope : ComplexityScope) : List ValidationError :=
  match visit (resolveRequestComplexity options) scope [] 0 none {} value with
  | .ok _ => []
  | .error error => [error]

/-- A value at its place in the whole: how deep it lies, and the key above it, through any
arrays between. -/
structure Node where
  value : Value
  depth : Nat
  parentKey : Option String

mutual

/-- All nodes of a value, itself first. -/
def nodesOf (depth : Nat) (parentKey : Option String) (value : Value) : List Node :=
  { value, depth, parentKey } ::
    match value with
    | .array items => itemNodes (depth + 1) parentKey items
    | .object entries => entryNodes (depth + 1) entries
    | _ => []

def itemNodes (depth : Nat) (parentKey : Option String) : List Value → List Node
  | [] => []
  | item :: rest => nodesOf depth parentKey item ++ itemNodes depth parentKey rest

def entryNodes (depth : Nat) : List (String × Value) → List Node
  | [] => []
  | (key, child) :: rest => nodesOf depth (some key) child ++ entryNodes depth rest

end

namespace Node

/-- Own entries, where the node is a plain object. -/
def entries (node : Node) : Entries :=
  match node.value with
  | .object entries => entries
  | _ => []

/-- Own items, where the node is an array. -/
def items (node : Node) : List Value :=
  match node.value with
  | .array items => items
  | _ => []

def logicalClauses (node : Node) : Nat :=
  if isLogicalKey node.parentKey then node.items.length else 0

def includeCount (node : Node) : Nat :=
  ((node.entries.filter fun entry => entry.1 = "include").map fun entry => includeSize entry.2).sum

def subQueryCount (node : Node) : Nat :=
  (node.entries.filter fun entry => entry.1 = "$$sq").length

end Node

/-- What the limits ask of a request, said of all its nodes. -/
structure Bounded (limits : RequestLimits) (scope : ComplexityScope) (value : Value) : Prop where
  nodes : (nodesOf 0 none value).length ≤ limits.maxNodes
  depth : ∀ node ∈ nodesOf 0 none value, node.depth ≤ limits.maxDepth
  keys : ∀ node ∈ nodesOf 0 none value, ∀ entry ∈ node.entries,
    entry.1 ∉ ["__proto__", "prototype", "constructor"]
  logical : ((nodesOf 0 none value).map Node.logicalClauses).sum ≤ limits.maxLogicalClauses
  inValues : ∀ node ∈ nodesOf 0 none value, node.parentKey = some "$in" →
    node.items.length ≤ limits.maxInValues
  subQueries : ((nodesOf 0 none value).map Node.subQueryCount).sum ≤ limits.maxSubQueryCount
  includes : scope = .request →
    ((nodesOf 0 none value).map Node.includeCount).sum ≤ limits.maxIncludeCount

end RequestComplexity

end WebTsToolkit.AccessRouter
