import Mathlib.Data.List.Sort
import WebTsToolkit.Js.Property
import WebTsToolkit.Js.Json

set_option autoImplicit false

namespace WebTsToolkit.AccessRouter.Filter

open Js

/-- UTF-16 code units of a character. -/
def codeUnits (c : Char) : List Nat :=
  if c.toNat < 0x10000 then [c.toNat]
  else [0xD800 + (c.toNat - 0x10000) / 0x400, 0xDC00 + (c.toNat - 0x10000) % 0x400]

/-- The order of `Array.prototype.sort` on strings. -/
def sortsBefore (first second : String) : Prop :=
  ¬List.Lex (· < ·) (second.toList.flatMap codeUnits) (first.toList.flatMap codeUnits)

instance (first second : String) : Decidable (sortsBefore first second) :=
  inferInstanceAs (Decidable (¬_))

/-- `Object.keys(value).sort()`, each key with what the caller reads at it. -/
def sortKeyed {α : Type} (entries : List (String × α)) : List (String × α) :=
  entries.insertionSort fun first second => sortsBefore first.1 second.1

def dateText : Option Int → String
  | some time => time.repr
  | none => "NaN"

/-- `String` of a number: both zeros read "0". -/
def numberText (text : String) : String :=
  if text = "-0" then "0" else text

mutual

/-- The typed key of a clause, `none` for what the source leaves without one. `Array.from`
has read a hole as `undefined` before it gets here. -/
def dedupeKey : Value → Option String
  | .regexp source flags => some ("regexp:" ++ Json.stringifyStrings [source, flags])
  | .date time => some ("date:" ++ dateText time)
  | .array items => (dedupeItems items).map fun entries =>
    "array:" ++ Json.stringifyStrings entries
  | .object entries => (dedupeEntries entries).map fun entries =>
    "object:" ++ Json.stringifyPairs (sortKeyed entries)
  | .null => some "null"
  | .string value => some ("string:" ++ Json.stringifyString value)
  | .bool value => some ("boolean:" ++ if value then "true" else "false")
  | .number text => some ("number:" ++ numberText text)
  | .bigint value => some ("bigint:" ++ value.repr)
  | .undefined | .hole => some "undefined:undefined"
  | .symbol _ | .callable _ | .classed _ _ => none

def dedupeItems : List Value → Option (List String)
  | [] => some []
  | item :: rest =>
    match dedupeKey item, dedupeItems rest with
    | some entry, some entries => some (entry :: entries)
    | _, _ => none

def dedupeEntries : List (String × Value) → Option (List (String × String))
  | [] => some []
  | (key, value) :: rest =>
    match dedupeKey value, dedupeEntries rest with
    | some entry, some entries => some ((key, entry) :: entries)
    | _, _ => none

end

def isAndFilter : Value → Bool
  | .object [(key, .array _)] => key == "$and"
  | _ => false

def startsWithDollar (key : String) : Bool :=
  key.toList.head? == some '$'

def isMergeableClause : Value → Bool
  | .object entries => entries.all fun entry => !startsWithDollar entry.1
  | _ => false

/-- First clause of each key; clauses without a key all stay. -/
def dedupeClauses : List String → List Value → List Value
  | _, [] => []
  | seen, clause :: rest =>
    match dedupeKey clause with
    | some key =>
      if seen.contains key then dedupeClauses seen rest
      else clause :: dedupeClauses (key :: seen) rest
    | none => clause :: dedupeClauses seen rest

/-- `target[key] = value` on an object made by `{}`: assigning to `__proto__` calls the
inherited setter and leaves no own entry. -/
def assignKey (target : Entries) (key : String) (value : Value) : Entries :=
  if key = "__proto__" then target
  else if target.any (·.1 == key) then
    target.map fun entry => if entry.1 = key then (key, value) else entry
  else target ++ [(key, value)]

/-- `Object.assign`. -/
def assign (target source : Entries) : Entries :=
  source.foldl (fun target entry => assignKey target entry.1 entry.2) target

/-- No own key of the merged clause holds another value in this clause. -/
def canMerge (mergedClause clause : Entries) : Bool :=
  clause.all fun entry =>
    match getOwn mergedClause entry.1 with
    | some value => isDeepStrictEqual value entry.2
    | none => true

structure Merge where
  mergedClause : Entries
  remainingClauses : List Value

def mergeClause (state : Merge) (clause : Value) : Merge :=
  match clause with
  | .object entries =>
    if isMergeableClause clause && canMerge state.mergedClause entries then
      { state with mergedClause := assign state.mergedClause entries }
    else { state with remainingClauses := state.remainingClauses ++ [clause] }
  | _ => { state with remainingClauses := state.remainingClauses ++ [clause] }

def mergeClauses (clauses : List Value) : Merge :=
  clauses.foldl mergeClause ⟨[], []⟩

def finalClauses (state : Merge) : List Value :=
  if state.mergedClause.isEmpty then state.remainingClauses
  else .object state.mergedClause :: state.remainingClauses

/-- The clauses a normalized clause adds to the conjunction. -/
def unfoldClause : Value → List Value
  | .object [(key, .array items)] =>
    if key = "$and" then items else [.object [(key, .array items)]]
  | clause => [clause]

/-- What the optimizer returns once the clauses are collected, `none` after a `false` one. -/
def optimizeClauses : Option (List Value) → Value
  | none => .bool false
  | some clauses =>
    match finalClauses (mergeClauses (dedupeClauses [] clauses)) with
    | [] => .null
    | [clause] => clause
    | clauses => .object [("$and", .array clauses)]

mutual

def normalizeFilter : Value → Value
  | .bool false => .bool false
  | .object [] => .null
  | .object [(key, .array items)] =>
    if key = "$and" then optimizeClauses (collectClauses items)
    else .object [(key, .array items)]
  | .object entries => .object entries
  | _ => .null

/-- The collecting loop of `optimizeAndFilter`, `none` when it returns `false` early. -/
def collectClauses : List Value → Option (List Value)
  | [] => some []
  | clauseInput :: rest =>
    match normalizeFilter clauseInput with
    | .bool false => none
    | .object entries => (collectClauses rest).map (unfoldClause (.object entries) ++ ·)
    | _ => collectClauses rest

end

def optimizeAndFilter (clausesInput : List Value) : Value :=
  optimizeClauses (collectClauses clausesInput)

/-- `optimizeAndFilter(filters) ?? {}`. -/
def intersectFilters (filters : List Value) : Value :=
  match optimizeAndFilter filters with
  | .null => .object []
  | filter => filter

/-- `filter ?? {}`. -/
def orEverything : Value → Value
  | .null | .undefined => .object []
  | filter => filter

inductive Rows where
  | request
  | unrestricted
  | scope (filter : Value)

/-- A resolver function of the options, told apart by identity, and what it returns here. -/
structure BaseFilter where
  resolver : Nat
  result : Value

structure CachedFilter where
  resolver : Nat
  filter : Value

structure AccessFilterParts where
  transformed : Value
  scope : Value
  filter : Value

def isFalse : Value → Bool
  | .bool false => true
  | _ => false

def applyOverride (overrideFilter : Option (Value → Value)) (nextFilter : Value) : Value :=
  match overrideFilter with
  | some override => normalizeFilter (override nextFilter)
  | none => nextFilter

/-- The base filter and the cache entry that the read leaves. An entry of another resolver is
not reused. -/
def readBaseFilter (base : BaseFilter) (cached : Option CachedFilter) : Value × CachedFilter :=
  match cached.filter (·.resolver == base.resolver) with
  | some entry => (normalizeFilter entry.filter, entry)
  | none => (normalizeFilter base.result, ⟨base.resolver, normalizeFilter base.result⟩)

def isClosed : Rows → Bool
  | .scope filter => isFalse filter
  | _ => false

/-- Parts of an access filter, with the cache entry that the call leaves behind. -/
def resolveAccessFilterParts (overrideFilter : Option (Value → Value))
    (baseFilter : Option BaseFilter) (cached : Option CachedFilter) (rows : Rows)
    (filter : Value) : AccessFilterParts × Option CachedFilter :=
  let requested := normalizeFilter filter
  if isFalse requested || isClosed rows then (⟨.bool false, .bool false, .bool false⟩, cached)
  else
    let nextFilter := applyOverride overrideFilter requested
    if isFalse nextFilter then (⟨.bool false, .object [], .bool false⟩, cached)
    else
      match rows, baseFilter with
      | .scope scope, _ =>
        (⟨orEverything nextFilter, scope, intersectFilters [nextFilter, scope]⟩, cached)
      | .unrestricted, _ =>
        (⟨orEverything nextFilter, .object [], intersectFilters [nextFilter, .object []]⟩, cached)
      | .request, none => (⟨orEverything nextFilter, .object [], orEverything nextFilter⟩, cached)
      | .request, some base =>
        let read := readBaseFilter base cached
        (⟨orEverything nextFilter, orEverything read.1, intersectFilters [read.1, nextFilter]⟩,
          some read.2)

example : intersectFilters
    [.object [("owner", .string "me")], .null, .object [("$and", .array
      [.object [("owner", .string "me"), ("state", .string "open")], .object []])]] =
    .object [("owner", .string "me"), ("state", .string "open")] := by
  rfl

end WebTsToolkit.AccessRouter.Filter
