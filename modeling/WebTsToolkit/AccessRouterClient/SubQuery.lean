import Mathlib.Data.List.Basic
import WebTsToolkit.Library.Outcome

set_option autoImplicit false

namespace WebTsToolkit.AccessRouterClient

open Library

/-- A part of a filter. A leaf is what the client never reads into: a primitive, a function, the
hole of an array, an object that is neither plain nor an array. -/
inductive Query (α : Type) where
  | undefined
  | leaf (value : α)
  | descriptor
  | request (query : Query α)
  | array (items : List (Query α))
  | object (members : List (String × Query α))

/-- `CorrelatedIncludeError`. -/
structure CorrelatedIncludeError where
  message : String
  deriving DecidableEq

namespace Query

variable {α : Type}

/-- An own member of a plain object. -/
def own (members : List (String × Query α)) (key : String) : Query α :=
  (members.lookup key).getD .undefined

/-- `isLazyRequestLike` of a plain object. -/
def isRequestShaped (members : List (String × Query α)) : Bool :=
  (members.lookup "__op").isSome && (members.lookup "__query").isSome

/-- `isEscapeLiteral` of a plain object. -/
def isEscape (members : List (String × Query α)) : Bool :=
  members.length == 1 && (members.lookup "$escape").isSome

def isLazyRequestLike : Query α → Bool
  | .request _ => true
  | .object members => isRequestShaped members
  | _ => false

def isEscapeLiteral : Query α → Bool
  | .object members => isEscape members
  | _ => false

inductive Context where
  | live
  | structural
  deriving DecidableEq

def isOpaqueQueryValue (value : Query α) (mode : Context) : Bool :=
  match value with
  | .descriptor | .request _ => true
  | value => mode = .live && value.isLazyRequestLike

def queryChildContext (value : Query α) (mode : Context) : Context :=
  if mode = .structural ∨ value.isEscapeLiteral = true then .structural else .live

/-- `MAX_INPUT_DEPTH`. -/
def maxInputDepth : Nat := 64

/-- `MAX_INPUT_NODES`. -/
def maxInputNodes : Nat := 10000

inductive Failure where
  | depth
  | nodes
  deriving DecidableEq

mutual

/-- `validateBoundedInputs` from one value to the end of its parts, with the number of values
visited so far. A query is a tree here, so the error for a cycle does not arise. -/
def visit (mode : Context) (depth nodes : Nat) (value : Query α) : Except Failure Nat :=
  if maxInputNodes < nodes + 1 then .error .nodes
  else if maxInputDepth < depth then .error .depth
  else if value.isOpaqueQueryValue mode then .ok (nodes + 1)
  else
    match value with
    | .array items => visitItems (queryChildContext (.array items) mode) (depth + 1) (nodes + 1) items
    | .object members =>
      visitMembers (queryChildContext (.object members) mode) (depth + 1) (nodes + 1) members
    | _ => .ok (nodes + 1)

def visitItems (mode : Context) (depth nodes : Nat) : List (Query α) → Except Failure Nat
  | [] => .ok nodes
  | item :: rest => do
    let nodes ← visit mode depth nodes item
    visitItems mode depth nodes rest

def visitMembers (mode : Context) (depth nodes : Nat) :
    List (String × Query α) → Except Failure Nat
  | [] => .ok nodes
  | (_, value) :: rest => do
    let nodes ← visit mode depth nodes value
    visitMembers mode depth nodes rest

end

def Failure.message (context : String) : Failure → String
  | .nodes => context ++ ": query node limit " ++ maxInputNodes.repr ++ " exceeded"
  | .depth => context ++ ": query depth limit " ++ maxInputDepth.repr ++ " exceeded"

def isUndefined : Query α → Bool
  | .undefined => true
  | _ => false

def validateInputs (context : String) (mode : Context) (inputs : List (Query α)) :
    Except CorrelatedIncludeError Unit :=
  match visitItems mode 0 0 (inputs.filter fun value => !value.isUndefined) with
  | .ok _ => .ok ()
  | .error failure => .error ⟨failure.message context⟩

def validateQueryInputs (context : String) (input : Query α) : Except CorrelatedIncludeError Unit :=
  validateInputs context .live [input]

def validateQueryWireInputs (context : String) (input : Query α) :
    Except CorrelatedIncludeError Unit :=
  validateInputs context .structural [input]

def embeddedDescriptor : CorrelatedIncludeError :=
  ⟨"A correlated include descriptor cannot be embedded as a subquery filter value — " ++
    "call $include(path) on it first, or restructure the query"⟩

def subquery (query : Query α) : Query α :=
  .object [("$$sq", query)]

mutual

def replaceSubQueryInner : Query α → Except CorrelatedIncludeError (Query α)
  | .descriptor => .error embeddedDescriptor
  | .request query => .ok (subquery query)
  | .object members =>
    if isRequestShaped members then .ok (subquery (own members "__query"))
    else if isEscape members then .ok (.object members)
    else do
      let members ← replaceMembers members
      return .object members
  | filter => .ok filter

/-- The callback of `mapValues` for each member. -/
def replaceMembers :
    List (String × Query α) → Except CorrelatedIncludeError (List (String × Query α))
  | [] => .ok []
  | (key, .array items) :: rest => do
    let items ← replaceItems items
    let rest ← replaceMembers rest
    return (key, .array items) :: rest
  | (key, val) :: rest => do
    let val ← replaceSubQueryInner val
    let rest ← replaceMembers rest
    return (key, val) :: rest

def replaceItems : List (Query α) → Except CorrelatedIncludeError (List (Query α))
  | [] => .ok []
  | item :: rest => do
    let item ← replaceSubQueryInner item
    let rest ← replaceItems rest
    return item :: rest

end

def replaceSubQuery (filter : Query α) : Except CorrelatedIncludeError (Query α) := do
  validateQueryInputs "replaceSubQuery" filter
  let rewritten ← replaceSubQueryInner filter
  validateQueryWireInputs "replaceSubQuery" rewritten
  return rewritten

example : replaceSubQueryInner
      (.object [("author", .object [("$in", .array [.request (.leaf 1)])])] : Query Nat) =
    .ok (.object [("author", .object [("$in", .array [subquery (.leaf 1)])])]) := by
  rfl

mutual

/-- What the rewriting is for: a filter with the query of each lazy request in its place, at any
depth of records and arrays. Escapes are literal data. -/
def rewritten : Query α → Query α
  | .request query => subquery query
  | .object members =>
    if isRequestShaped members then subquery (own members "__query")
    else if isEscape members then .object members
    else .object (rewrittenMembers members)
  | .array items => .array (rewrittenItems items)
  | filter => filter

def rewrittenMembers : List (String × Query α) → List (String × Query α)
  | [] => []
  | (key, val) :: rest => (key, rewritten val) :: rewrittenMembers rest

def rewrittenItems : List (Query α) → List (Query α)
  | [] => []
  | item :: rest => rewritten item :: rewrittenItems rest

end

mutual

/-- A correlated descriptor at any depth of records and arrays, outside escapes. -/
def hasDescriptor : Query α → Bool
  | .descriptor => true
  | .object members => !isRequestShaped members && !isEscape members && hasDescriptorMembers members
  | .array items => hasDescriptorItems items
  | _ => false

def hasDescriptorMembers : List (String × Query α) → Bool
  | [] => false
  | (_, val) :: rest => hasDescriptor val || hasDescriptorMembers rest

def hasDescriptorItems : List (Query α) → Bool
  | [] => false
  | item :: rest => hasDescriptor item || hasDescriptorItems rest

end

mutual

/-- A lazy request at any depth of records and arrays, outside escapes. -/
def hasRequest : Query α → Bool
  | .request _ => true
  | .object members => isRequestShaped members || (!isEscape members && hasRequestMembers members)
  | .array items => hasRequestItems items
  | _ => false

def hasRequestMembers : List (String × Query α) → Bool
  | [] => false
  | (_, val) :: rest => hasRequest val || hasRequestMembers rest

def hasRequestItems : List (Query α) → Bool
  | [] => false
  | item :: rest => hasRequest item || hasRequestItems rest

end

mutual

/-- A lazy request outside escapes has a query that itself holds a lazy request outside escapes. -/
def hasRequestInQuery : Query α → Bool
  | .request query => hasRequest query
  | .object members =>
    if isRequestShaped members then hasRequest (own members "__query")
    else !isEscape members && hasRequestInQueryMembers members
  | .array items => hasRequestInQueryItems items
  | _ => false

def hasRequestInQueryMembers : List (String × Query α) → Bool
  | [] => false
  | (_, val) :: rest => hasRequestInQuery val || hasRequestInQueryMembers rest

def hasRequestInQueryItems : List (Query α) → Bool
  | [] => false
  | item :: rest => hasRequestInQuery item || hasRequestInQueryItems rest

end

mutual

/-- A lazy request or a correlated descriptor at any depth, outside escapes. -/
def hasLive : Query α → Bool
  | .descriptor | .request _ => true
  | .object members => isRequestShaped members || (!isEscape members && hasLiveMembers members)
  | .array items => hasLiveItems items
  | _ => false

def hasLiveMembers : List (String × Query α) → Bool
  | [] => false
  | (_, val) :: rest => hasLive val || hasLiveMembers rest

def hasLiveItems : List (Query α) → Bool
  | [] => false
  | item :: rest => hasLive item || hasLiveItems rest

end

mutual

/-- A lazy request or a correlated descriptor lies, outside escapes, in an array that is the
filter itself or an item of another array. -/
def hasLiveInNestedArray : Query α → Bool
  | .array items => hasLiveItems items
  | .object members =>
    !isRequestShaped members && !isEscape members && hasLiveInNestedArrayMembers members
  | _ => false

def hasLiveInNestedArrayMembers : List (String × Query α) → Bool
  | [] => false
  | (_, .array items) :: rest =>
    hasLiveInNestedArrayItems items || hasLiveInNestedArrayMembers rest
  | (_, val) :: rest => hasLiveInNestedArray val || hasLiveInNestedArrayMembers rest

def hasLiveInNestedArrayItems : List (Query α) → Bool
  | [] => false
  | item :: rest => hasLiveInNestedArray item || hasLiveInNestedArrayItems rest

end

theorem lookup_rewrittenMembers (members : List (String × Query α)) (key : String) :
    (rewrittenMembers members).lookup key = (members.lookup key).map rewritten := by
  induction members with
  | nil => rfl
  | cons member rest ih =>
    rw [rewrittenMembers, List.lookup_cons, List.lookup_cons, ih]
    cases key == member.1 <;> rfl

theorem isRequestShaped_rewrittenMembers (members : List (String × Query α)) :
    isRequestShaped (rewrittenMembers members) = isRequestShaped members := by
  simp only [isRequestShaped, lookup_rewrittenMembers, Option.isSome_map]

theorem isEscape_rewrittenMembers (members : List (String × Query α)) :
    isEscape (rewrittenMembers members) = isEscape members := by
  have length : (rewrittenMembers members).length = members.length := by
    induction members with
    | nil => rfl
    | cons member rest ih => rw [rewrittenMembers, List.length_cons, List.length_cons, ih]
  simp only [isEscape, length, lookup_rewrittenMembers, Option.isSome_map]

theorem hasRequest_subquery (query : Query α) : hasRequest (subquery query) = hasRequest query := by
  simp [subquery, hasRequest, hasRequestMembers, isRequestShaped, isEscape, List.lookup_cons]

/-- A record of the shape of a request has more members than a `$$sq` in its place. -/
theorem subquery_ne {members : List (String × Query α)} (shaped : isRequestShaped members = true)
    (query : Query α) : subquery query ≠ .object members := by
  intro same
  rw [← Query.object.inj same] at shaped
  simp [isRequestShaped] at shaped

mutual

/-- What is left after the rewriting came with a query. -/
theorem hasRequest_rewritten (filter : Query α) :
    hasRequest (rewritten filter) = hasRequestInQuery filter := by
  match filter with
  | .undefined | .leaf _ | .descriptor => rfl
  | .request query => exact hasRequest_subquery query
  | .array items => exact hasRequestItems_rewritten items
  | .object members =>
    rw [rewritten, hasRequestInQuery]
    split
    · exact hasRequest_subquery _
    · next plain =>
      split
      · next escape => simp [hasRequest, plain, escape]
      · next live =>
        rw [hasRequest, isRequestShaped_rewrittenMembers, isEscape_rewrittenMembers,
          hasRequestMembers_rewritten members]
        simp [plain]

theorem hasRequestMembers_rewritten (members : List (String × Query α)) :
    hasRequestMembers (rewrittenMembers members) = hasRequestInQueryMembers members := by
  match members with
  | [] => rfl
  | (key, val) :: rest =>
    rw [rewrittenMembers, hasRequestMembers, hasRequest_rewritten val,
      hasRequestMembers_rewritten rest, hasRequestInQueryMembers]

theorem hasRequestItems_rewritten (items : List (Query α)) :
    hasRequestItems (rewrittenItems items) = hasRequestInQueryItems items := by
  match items with
  | [] => rfl
  | item :: rest =>
    rw [rewrittenItems, hasRequestItems, hasRequest_rewritten item,
      hasRequestItems_rewritten rest, hasRequestInQueryItems]

end

mutual

/-- Nothing has to change, and nothing has to be refused, where no part is live. -/
theorem rewritten_eq_self_iff (filter : Query α) :
    (rewritten filter = filter ∧ hasDescriptor filter = false) ↔ hasLive filter = false := by
  match filter with
  | .undefined | .leaf _ | .descriptor => simp [rewritten, hasDescriptor, hasLive]
  | .request query => simp [rewritten, subquery, hasLive]
  | .array items =>
    rw [rewritten, hasDescriptor, hasLive, Query.array.injEq]
    exact rewrittenItems_eq_self_iff items
  | .object members =>
    rw [rewritten, hasDescriptor, hasLive]
    cases shaped : isRequestShaped members with
    | true => simp [subquery_ne shaped]
    | false =>
      cases escape : isEscape members with
      | true => simp
      | false => simpa using rewrittenMembers_eq_self_iff members

theorem rewrittenMembers_eq_self_iff (members : List (String × Query α)) :
    (rewrittenMembers members = members ∧ hasDescriptorMembers members = false) ↔
      hasLiveMembers members = false := by
  match members with
  | [] => simp [rewrittenMembers, hasDescriptorMembers, hasLiveMembers]
  | (key, val) :: rest =>
    have here := rewritten_eq_self_iff val
    have later := rewrittenMembers_eq_self_iff rest
    simp only [rewrittenMembers, hasDescriptorMembers, hasLiveMembers, List.cons.injEq,
      Prod.mk.injEq, Bool.or_eq_false_iff, true_and]
    tauto

theorem rewrittenItems_eq_self_iff (items : List (Query α)) :
    (rewrittenItems items = items ∧ hasDescriptorItems items = false) ↔
      hasLiveItems items = false := by
  match items with
  | [] => simp [rewrittenItems, hasDescriptorItems, hasLiveItems]
  | item :: rest =>
    have here := rewritten_eq_self_iff item
    have later := rewrittenItems_eq_self_iff rest
    simp only [rewrittenItems, hasDescriptorItems, hasLiveItems, List.cons.injEq,
      Bool.or_eq_false_iff]
    tauto

end

mutual

/-- Where the rewriter ends, it did its work unless a live part lies in an array that it passes
over. -/
theorem replaceSubQueryInner_iff {filter result : Query α}
    (run : replaceSubQueryInner filter = .ok result) :
    (result = rewritten filter ∧ hasDescriptor filter = false) ↔
      hasLiveInNestedArray filter = false := by
  match filter with
  | .undefined | .leaf _ | .request _ =>
    simp [← Except.ok.inj run, rewritten, hasDescriptor, hasLiveInNestedArray]
  | .descriptor => exact absurd run nofun
  | .array items =>
    have unchanged := rewrittenItems_eq_self_iff items
    rw [← Except.ok.inj run, rewritten, hasDescriptor, hasLiveInNestedArray, Query.array.injEq,
      ← unchanged, eq_comm]
  | .object members =>
    rw [replaceSubQueryInner] at run
    rw [rewritten, hasDescriptor, hasLiveInNestedArray]
    cases shaped : isRequestShaped members with
    | true =>
      rw [if_pos shaped] at run
      simp [← Except.ok.inj run]
    | false =>
      rw [if_neg (by simp [shaped])] at run
      cases escape : isEscape members with
      | true =>
        rw [if_pos escape] at run
        simp [← Except.ok.inj run]
      | false =>
        rw [if_neg (by simp [escape])] at run
        obtain ⟨replaced, below, same⟩ := bind_eq_ok run
        rw [← Except.ok.inj same]
        simpa using replaceMembers_iff below

theorem replaceMembers_iff {members result : List (String × Query α)}
    (run : replaceMembers members = .ok result) :
    (result = rewrittenMembers members ∧ hasDescriptorMembers members = false) ↔
      hasLiveInNestedArrayMembers members = false := by
  match members with
  | [] =>
    simp [← Except.ok.inj run, rewrittenMembers, hasDescriptorMembers,
      hasLiveInNestedArrayMembers]
  | (key, .array items) :: rest =>
    obtain ⟨replaced, below, run⟩ := bind_eq_ok run
    obtain ⟨others, after, same⟩ := bind_eq_ok run
    have here := replaceItems_iff below
    have later := replaceMembers_iff after
    rw [← Except.ok.inj same]
    simp only [rewrittenMembers, hasDescriptorMembers, hasLiveInNestedArrayMembers, rewritten,
      hasDescriptor, List.cons.injEq, Prod.mk.injEq, Query.array.injEq, Bool.or_eq_false_iff,
      true_and]
    tauto
  | (key, .undefined) :: rest | (key, .leaf _) :: rest | (key, .descriptor) :: rest
  | (key, .request _) :: rest | (key, .object _) :: rest =>
    obtain ⟨replaced, below, run⟩ := bind_eq_ok run
    obtain ⟨others, after, same⟩ := bind_eq_ok run
    have here := replaceSubQueryInner_iff below
    have later := replaceMembers_iff after
    rw [← Except.ok.inj same]
    simp only [rewrittenMembers, hasDescriptorMembers, hasLiveInNestedArrayMembers,
      List.cons.injEq, Prod.mk.injEq, Bool.or_eq_false_iff, true_and]
    tauto

theorem replaceItems_iff {items result : List (Query α)} (run : replaceItems items = .ok result) :
    (result = rewrittenItems items ∧ hasDescriptorItems items = false) ↔
      hasLiveInNestedArrayItems items = false := by
  match items with
  | [] =>
    simp [← Except.ok.inj run, rewrittenItems, hasDescriptorItems, hasLiveInNestedArrayItems]
  | item :: rest =>
    obtain ⟨replaced, below, run⟩ := bind_eq_ok run
    obtain ⟨others, after, same⟩ := bind_eq_ok run
    have here := replaceSubQueryInner_iff below
    have later := replaceItems_iff after
    rw [← Except.ok.inj same]
    simp only [rewrittenItems, hasDescriptorItems, hasLiveInNestedArrayItems, List.cons.injEq,
      Bool.or_eq_false_iff]
    tauto

end

/-- An accepted filter has its result from the rewriter. -/
theorem replaceSubQueryInner_of_accepted {filter result : Query α}
    (accepted : replaceSubQuery filter = .ok result) :
    replaceSubQueryInner filter = .ok result := by
  obtain ⟨_, _, run⟩ := bind_eq_ok accepted
  obtain ⟨rewritten, inner, run⟩ := bind_eq_ok run
  obtain ⟨_, _, same⟩ := bind_eq_ok run
  rw [inner, ← Except.ok.inj same]

/-- What the rewriting promises for a filter that it takes. -/
structure Complete (filter result : Query α) : Prop where
  /-- each lazy request became its query, and all else stayed -/
  replaced : result = rewritten filter
  /-- no lazy request is left -/
  cleared : hasRequest result = false
  /-- a filter with a descriptor is not taken -/
  refused : hasDescriptor filter = false

end Query

end WebTsToolkit.AccessRouterClient
