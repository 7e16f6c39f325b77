import WebTsToolkit.Js.Graph
import WebTsToolkit.Js.Numeral
import WebTsToolkit.Js.Text
import WebTsToolkit.Library.Metered

set_option autoImplicit false

namespace WebTsToolkit.MongooseRxdb

open Js Library

structure QueryFilterError where
  message : String
  deriving DecidableEq

/-- `SAFE_OPERATORS` but `$regex` and `$options`. -/
def comparisonOperators : List String :=
  ["$eq", "$gt", "$gte", "$lt", "$lte", "$ne", "$in", "$nin", "$exists"]

def safeOperators : List String :=
  comparisonOperators ++ ["$regex", "$options"]

def logicalOperators : List String := ["$and", "$or", "$nor"]

def dangerousKeys : List String := ["__proto__", "prototype", "constructor"]

def maxFilterDepth : Nat := 20

def maxFilterNodes : Nat := 200

def maxLogicalOperands : Nat := 50

def throwIf (refused : Bool) (error : QueryFilterError) : Except QueryFilterError Unit :=
  if refused then .error error else .ok ()

def isOperator (key : String) : Bool :=
  startsWith key "$"

def nestingError : QueryFilterError :=
  ⟨s!"Filter nesting exceeds the limit of {maxFilterDepth}"⟩

/-- The node count of `enterFilterNode`. Its depth check is the match on the levels left. -/
def enterFilterNode (nodes : Nat) : Except QueryFilterError Nat :=
  if maxFilterNodes < nodes + 1 then
    .error ⟨s!"Filter contains more than {maxFilterNodes} nodes"⟩
  else .ok (nodes + 1)

def countFilterEntry (nodes : Nat) (path : String) : Except QueryFilterError Nat :=
  if maxFilterNodes < nodes + 1 then
    .error ⟨s!"Filter contains more than {maxFilterNodes} nodes at {path}"⟩
  else .ok (nodes + 1)

def assertSafeKey (key : String) : Except QueryFilterError Unit :=
  throwIf (dangerousKeys.contains key) ⟨s!"Dangerous filter key is not allowed: {key}"⟩

/-- Thrown for every request-derived regex. -/
def regexError (field : String) : QueryFilterError :=
  ⟨s!"$regex for field {field} is not supported: request-derived regex filters are rejected; " ++
    "use an equality, range, or membership operator instead"⟩

def normalizeDateOperand (time : Option Int) (path : String) : Except QueryFilterError Value :=
  match time with
  | none => .error ⟨s!"Filter for {path} requires a valid date"⟩
  | some time => .ok (.string (toISOString time))

/-- `cloneLiteral` of a value that is no array and no plain object. -/
def cloneSingle (path : String) : Value → Except QueryFilterError Value
  | .regexp _ _ => .error (regexError path)
  | .date time => normalizeDateOperand time path
  | .classed _ _ => .error ⟨s!"{path} must be a plain object, array, Date, or primitive value"⟩
  | value => .ok value

section Passes

variable {ι : Type} [DecidableEq ι] (graph : Graph ι)

def assertAcyclic (ancestors : List ι) (ref : ι) (path : String) : Except QueryFilterError Unit :=
  throwIf (ancestors.contains ref) ⟨s!"Cyclic filter value is not allowed: {path}"⟩

/-- What the copy of an array does for one item. `clone` is `cloneLiteral` one level down. -/
def cloneItem (clone : String → Nat → ι → Except QueryFilterError (Value × Nat))
    (path : String) (index nodes : Nat) (item : ι) :
    Except QueryFilterError (Value × Nat) := do
  let nodes ← countFilterEntry nodes s!"{path}[{index}]"
  clone s!"{path}[{index}]" nodes item

def cloneEntry (clone : String → Nat → ι → Except QueryFilterError (Value × Nat))
    (path : String) (_ nodes : Nat) (entry : String × ι) :
    Except QueryFilterError ((String × Value) × Nat) := do
  let key := entry.1
  assertSafeKey key
  let nodes ← countFilterEntry nodes s!"{path}.{key}"
  let (value, nodes) ← clone s!"{path}.{key}" nodes entry.2
  return ((key, value), nodes)

/-- `levels` is `MAX_FILTER_DEPTH - state.depth`: how many containers may still nest. -/
def cloneLiteral (levels : Nat) (ancestors : List ι) (path : String) (nodes : Nat) (ref : ι) :
    Except QueryFilterError (Value × Nat) :=
  match graph.look ref with
  | .leaf value _ => (cloneSingle path value).map fun value => (value, nodes)
  | .array items => do
    assertAcyclic ancestors ref path
    let count := items.length
    throwIf (maxLogicalOperands < count)
      ⟨s!"{path} array has {count} items, exceeding the limit of {maxLogicalOperands}"⟩
    match levels with
    | 0 => throw nestingError
    | levels + 1 =>
      let nodes ← enterFilterNode nodes
      let (values, nodes) ←
        traverse (cloneItem (cloneLiteral levels (ref :: ancestors)) path) 0 nodes items
      return (.array values, nodes)
  | .object entries => do
    assertAcyclic ancestors ref path
    match levels with
    | 0 => throw nestingError
    | levels + 1 =>
      let nodes ← enterFilterNode nodes
      let (values, nodes) ←
        traverse (cloneEntry (cloneLiteral levels (ref :: ancestors)) path) 0 nodes entries
      return (.object values, nodes)

/-- The loop over an operator object: `$options` is passed over here. -/
def normalizeOperators (levels : Nat) (ancestors : List ι) (field : String) :
    Nat → List (String × ι) → Except QueryFilterError (Entries × Nat)
  | nodes, [] => .ok ([], nodes)
  | nodes, (operator, raw) :: rest => do
    assertSafeKey operator
    throwIf (!safeOperators.contains operator)
      ⟨s!"Unsupported filter operator {operator} for field {field}"⟩
    if operator = "$options" then normalizeOperators levels ancestors field nodes rest
    else if operator = "$regex" then throw (regexError field)
    else
      let (value, nodes) ←
        cloneLiteral graph levels ancestors s!"{field}.{operator}" nodes raw
      let (tests, nodes) ← normalizeOperators levels ancestors field nodes rest
      return ((operator, value) :: tests, nodes)

def normalizeFieldValue (levels : Nat) (ancestors : List ι) (field : String) (nodes : Nat)
    (ref : ι) : Except QueryFilterError (Value × Nat) :=
  match graph.look ref with
  | .leaf (.regexp _ _) _ => throw (regexError field)
  | .object entries => do
    let operatorKeys := (entries.map Prod.fst).filter isOperator
    if operatorKeys.length = 0 then
      let (value, nodes) ← cloneLiteral graph levels ancestors field nodes ref
      return (.object [("$eq", value)], nodes)
    else
      throwIf (operatorKeys.length != entries.length)
        ⟨s!"Filter for field {field} cannot mix operators with literal keys"⟩
      let (tests, nodes) ← normalizeOperators graph levels ancestors field nodes entries
      throwIf (operatorKeys.contains "$options" && !operatorKeys.contains "$regex")
        ⟨s!"$options for field {field} is not supported: " ++
          "request-derived regex filters are rejected"⟩
      return (.object tests, nodes)
  | _ => cloneLiteral graph levels ancestors field nodes ref

/-- `normalize` is `normalizeFilterObject` one level down. -/
def normalizeOperand (normalize : Nat → ι → Except QueryFilterError (Value × Nat))
    (operator : String) (index nodes : Nat) (entry : ι) :
    Except QueryFilterError (Value × Nat) :=
  match graph.look entry with
  | .object _ => normalize nodes entry
  | _ => throw ⟨s!"{operator}[{index}] must be a filter object"⟩

def normalizeLogicalOperands
    (normalize : Nat → ι → Except QueryFilterError (Value × Nat)) (operator : String)
    (nodes : Nat) (ref : ι) : Except QueryFilterError (List Value × Nat) :=
  match graph.look ref with
  | .array items =>
    let count := items.length
    if count = 0 then throw ⟨s!"{operator} requires a non-empty array of filter objects"⟩
    else if maxLogicalOperands < count then
      throw ⟨s!"{operator} has {count} operands, exceeding the limit of {maxLogicalOperands}"⟩
    else traverse (normalizeOperand graph normalize operator) 0 nodes items
  | _ => throw ⟨s!"{operator} requires a non-empty array of filter objects"⟩

/-- One entry of a filter object, which stands among the ancestors. -/
def normalizeEntry (levels : Nat) (ancestors : List ι)
    (normalize : Nat → ι → Except QueryFilterError (Value × Nat)) (_ nodes : Nat)
    (entry : String × ι) : Except QueryFilterError ((String × Value) × Nat) := do
  let key := entry.1
  assertSafeKey key
  let nodes ← countFilterEntry nodes s!"filter.{key}"
  if logicalOperators.contains key then
    let (operands, nodes) ← normalizeLogicalOperands graph normalize key nodes entry.2
    return ((key, .array operands), nodes)
  else
    throwIf (isOperator key) ⟨s!"Unsupported top-level filter operator: {key}"⟩
    let (value, nodes) ← normalizeFieldValue graph levels ancestors key nodes entry.2
    return ((key, value), nodes)

/-- `levels` is `MAX_FILTER_DEPTH + 1 - state.depth`, for the object is entered at that depth
itself. -/
def normalizeFilterObject (levels : Nat) (ancestors : List ι) (nodes : Nat) (ref : ι) :
    Except QueryFilterError (Value × Nat) :=
  match graph.look ref with
  | .object entries => do
    assertAcyclic ancestors ref "filter"
    match levels with
    | 0 => throw nestingError
    | levels + 1 =>
      let nodes ← enterFilterNode nodes
      let (out, nodes) ← traverse
        (normalizeEntry graph levels (ref :: ancestors)
          (normalizeFilterObject levels (ref :: ancestors))) 0 nodes entries
      return (.object out, nodes)
  | _ => throw ⟨"filter must be a plain object"⟩

def sanitizeFilter (filter : ι) : Except QueryFilterError Value :=
  match graph.look filter with
  | .leaf .undefined _ => .ok .undefined
  | _ => (normalizeFilterObject graph (maxFilterDepth + 1) [] 0 filter).map Prod.fst

end Passes

/-- One entry of `translateOps`: a comparison operator keeps its operand. -/
def translateOp (test : String × Value) : Except QueryFilterError (String × Value) :=
  if comparisonOperators.contains test.1 then .ok test
  else if test.1 = "$regex" ∨ test.1 = "$options" then
    .error ⟨"$regex filters are not supported: request-derived regex filters are rejected"⟩
  else
    let op := test.1
    .error ⟨s!"Unsupported filter operator: {op}"⟩

def translateOps (tests : Entries) : Except QueryFilterError Value :=
  (tests.mapM translateOp).map .object

/-- `Object.entries` of a value that is an object and not null. -/
def objectEntries : Value → Option Entries
  | .object entries | .classed _ entries => some entries
  | .array items => some (items.zipIdx.map fun indexed => (indexed.2.repr, indexed.1))
  | .date _ | .regexp _ _ => some []
  | _ => none

/-- What a field's value becomes. -/
def translateField (field : String) (value : Value) : Except QueryFilterError Value :=
  let isObject := (objectEntries value).isSome
  let entries := (objectEntries value).getD []
  let keys := entries.map Prod.fst
  if field = "_id" && isObject && !keys.contains "$eq" then translateOps entries
  else if isObject && !value.isArray && keys.any isOperator then translateOps entries
  else match value with
    | .regexp _ _ =>
      .error ⟨s!"$regex for field {field} is not supported: " ++
        "request-derived regex filters are rejected"⟩
    | _ => .ok (.object [("$eq", value)])

mutual

/-- The entries of a normalized filter, which is a plain object. -/
def translateNormalized : Value → Except QueryFilterError Value
  | .object entries => (translateEntries entries).map .object
  | _ => .ok (.object [])

def translateEntries : List (String × Value) → Except QueryFilterError Entries
  | [] => .ok []
  | (key, value) :: rest => do
    let out ←
      if logicalOperators.contains key then translateOperands value
      else translateField key value
    let entries ← translateEntries rest
    return (key, out) :: entries

/-- `v.map((f) => translateNormalized(f))`. -/
def translateOperands : Value → Except QueryFilterError Value
  | .array operands => (translateFilters operands).map .array
  | _ => .ok (.array [])

def translateFilters : List Value → Except QueryFilterError (List Value)
  | [] => .ok []
  | operand :: rest => do
    let out ← translateNormalized operand
    let operands ← translateFilters rest
    return out :: operands

end

def translateFilter {ι : Type} [DecidableEq ι] (graph : Graph ι) (filter : ι) :
    Except QueryFilterError Value :=
  match graph.look filter with
  | .leaf .undefined _ => .ok (.object [])
  | .leaf .null _ => .error ⟨"filter must be a plain object; explicit null is rejected — " ++
      "omit the filter or pass {} for match-all"⟩
  | _ => do
    let (normalized, _) ← normalizeFilterObject graph (maxFilterDepth + 1) [] 0 filter
    translateNormalized normalized

end WebTsToolkit.MongooseRxdb
