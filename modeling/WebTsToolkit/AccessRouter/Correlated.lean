import WebTsToolkit.AccessRouter.Filter
import WebTsToolkit.Js.Property

set_option autoImplicit false

namespace WebTsToolkit.AccessRouter.Correlated

open Js AccessRouter.Filter

def parentMarkerKey : String := "$parent"

def escapeWrapperKey : String := "$escape"

def subqueryPayloadKeys : List String := ["$$sq", "$$date"]

def markerForbiddenOperatorKeys : List String := ["$text", "$where", "$comment"]

def logicalClauseKeys : List String := ["$and", "$or", "$nor"]

def dangerousPathSegments : List String := ["__proto__", "prototype", "constructor"]

/-- `/^[A-Za-z_][A-Za-z0-9_$]*$/`. -/
def isFieldSegment (segment : String) : Bool :=
  match segment.toList with
  | head :: rest =>
    (isLetter head || head == '_') &&
      rest.all fun c => isLetter c || isDigit c || c == '_' || c == '$'
  | [] => false

/-- Value at the only key of a plain object, when that is the key. -/
def onlyEntry (key : String) : Value → Option Value
  | .object [(own, value)] => if own = key then some value else none
  | _ => none

/-- The `$parent` value of an exact marker. -/
def parentRef (value : Value) : Option Value :=
  onlyEntry parentMarkerKey value

/-- The payload of an exact escape. -/
def escapePayload (value : Value) : Option Value :=
  onlyEntry escapeWrapperKey value

def isParentRefMarker (value : Value) : Bool :=
  (parentRef value).isSome

def isEscapedParentRef (value : Value) : Bool :=
  (escapePayload value).isSome

def hasMarkerKey (entries : Entries) : Bool :=
  entries.any fun entry => entry.1 == parentMarkerKey || entry.1 == escapeWrapperKey

def isValidParentRefPath : Value → Bool
  | .string path =>
    path != "" && (segments path).all fun segment =>
      (isFieldSegment segment || isIndexText segment) && !dangerousPathSegments.contains segment
  | _ => false

/-- The path that an escape spells literally: its payload is a marker with a non-empty
string. -/
def escapedPath (payload : Value) : Option String :=
  match parentRef payload with
  | some (.string path) => if path = "" then none else some path
  | _ => none

mutual

def containsParentMarkerShape : Value → Bool
  | .object entries => hasMarkerKey entries || containsMarkerEntries entries
  | .array items => containsMarkerItems items
  | _ => false

def containsMarkerItems : List Value → Bool
  | [] => false
  | item :: rest => containsParentMarkerShape item || containsMarkerItems rest

def containsMarkerEntries : List (String × Value) → Bool
  | [] => false
  | (_, child) :: rest => containsParentMarkerShape child || containsMarkerEntries rest

end

/-- How the entries of a filter template are told apart by their keys. -/
inductive KeyRole where
  | parent
  | payload
  | forbidden
  | elemMatch
  | logical
  | operator
  | field
  deriving DecidableEq, Repr

/-- The order of the tests is that of the source. -/
def keyRole (key : String) : KeyRole :=
  if key = parentMarkerKey then .parent
  else if subqueryPayloadKeys.contains key then .payload
  else if markerForbiddenOperatorKeys.contains key then .forbidden
  else if key = "$elemMatch" then .elemMatch
  else if logicalClauseKeys.contains key then .logical
  else if startsWithDollar key then .operator
  else .field

inductive PathSegment where
  | key (name : String)
  | index (position : Nat)
  deriving DecidableEq, Repr

def PathSegment.text : PathSegment → String
  | .key name => name
  | .index position => position.repr

structure CorrelatedTemplateIssue where
  message : String
  path : List PathSegment
  deriving DecidableEq, Repr

def escapeIssue (path : List PathSegment) : CorrelatedTemplateIssue :=
  ⟨"Invalid $escape payload: expected \x7b \"$escape\": \x7b \"$parent\": \"<field>\" \x7d \x7d",
    path⟩

def referencePathIssue (path : List PathSegment) : CorrelatedTemplateIssue :=
  ⟨"Invalid $parent reference path at " ++
    if path.isEmpty then "#" else joinDots (path.map PathSegment.text), path⟩

def malformedIssue (path : List PathSegment) : CorrelatedTemplateIssue :=
  ⟨"Malformed $parent reference: objects carrying $parent must be exactly " ++
    "\x7b \"$parent\": \"<field>\" \x7d", path⟩

def fieldNameIssue (path : List PathSegment) : CorrelatedTemplateIssue :=
  ⟨"$parent is never a field name in correlated templates", path⟩

def payloadIssue (key : String) (path : List PathSegment) : CorrelatedTemplateIssue :=
  ⟨"Unsupported $parent reference inside " ++ key ++
    ": markers are not resolved in subquery payloads", path⟩

def forbiddenIssue (key : String) (path : List PathSegment) : CorrelatedTemplateIssue :=
  ⟨"Unsupported $parent reference inside " ++ key ++ ": markers are not resolved in " ++ key ++
    " values", path⟩

def elemMatchIssue (path : List PathSegment) : CorrelatedTemplateIssue :=
  ⟨"Unsupported $parent reference as a direct $elemMatch value", path⟩

def clauseIssue (key : String) (path : List PathSegment) : CorrelatedTemplateIssue :=
  ⟨"Unsupported $parent reference as a direct " ++ key ++
    " clause: clauses must be filter objects", path⟩

mutual

def scanTemplateValueNode (path : List PathSegment) (value : Value) :
    List CorrelatedTemplateIssue :=
  match escapePayload value with
  | some payload => if (escapedPath payload).isSome then [] else [escapeIssue path]
  | none =>
    match parentRef value with
    | some reference => if isValidParentRefPath reference then [] else [referencePathIssue path]
    | none =>
      match value with
      | .object entries =>
        if hasMarkerKey entries then [malformedIssue path]
        else scanTemplateObjectEntries path entries
      | .array items => scanTemplateItems path 0 items
      | _ => []

def scanTemplateItems (path : List PathSegment) (index : Nat) :
    List Value → List CorrelatedTemplateIssue
  | [] => []
  | item :: rest =>
    scanTemplateValueNode (path ++ [.index index]) item ++ scanTemplateItems path (index + 1) rest

def scanTemplateObjectEntries (basePath : List PathSegment) :
    List (String × Value) → List CorrelatedTemplateIssue
  | [] => []
  | (key, child) :: rest =>
    let childPath := basePath ++ [.key key]
    let scanned := scanTemplateValueNode childPath child
    (match keyRole key with
      | .parent => [fieldNameIssue childPath]
      | .payload => if containsParentMarkerShape child then [payloadIssue key childPath] else []
      | .forbidden =>
        if containsParentMarkerShape child then [forbiddenIssue key childPath] else []
      | .elemMatch =>
        if isParentRefMarker child || isEscapedParentRef child then [elemMatchIssue childPath]
        else scanned
      | .logical =>
        match child with
        | .array clauses => scanTemplateClauses key childPath 0 clauses
        | _ => scanned
      | .operator | .field => scanned) ++
    scanTemplateObjectEntries basePath rest

def scanTemplateClauses (key : String) (path : List PathSegment) (index : Nat) :
    List Value → List CorrelatedTemplateIssue
  | [] => []
  | clause :: rest =>
    let clausePath := path ++ [.index index]
    (if isParentRefMarker clause || isEscapedParentRef clause then [clauseIssue key clausePath]
      else
        match clause with
        | .object entries => scanTemplateObjectEntries clausePath entries
        | _ => []) ++
    scanTemplateClauses key path (index + 1) rest

end

def validateCorrelatedFilterTemplate (filter : Value) : List CorrelatedTemplateIssue :=
  match filter with
  | .object entries =>
    if isParentRefMarker filter || isEscapedParentRef filter then
      [⟨"Correlated include filter must not itself be a $parent reference", []⟩]
    else scanTemplateObjectEntries [] entries
  | _ => [⟨"Correlated include filter must be an object", []⟩]

/-- What a CorrelatedReferenceError is about. -/
inductive ReferenceFault where
  | fieldName
  | inside (key : String)
  | elemMatch
  | clause (key : String)
  | escape
  | path (reference : Value)
  | malformed
  | filterShape
  | emptyId
  | idShape

/-- `text` is the global `String` function. -/
def ReferenceFault.message (text : Value → String) : ReferenceFault → String
  | .fieldName => "$parent is never a field name in correlated templates"
  | .inside key => "Unsupported $parent reference inside " ++ key
  | .elemMatch => "Unsupported $parent reference as a direct $elemMatch value"
  | .clause key => "Unsupported $parent reference as a direct " ++ key ++ " clause"
  | .escape =>
    "Invalid $escape payload: expected \x7b \"$escape\": \x7b \"$parent\": \"<field>\" \x7d \x7d"
  | .path reference => "Invalid $parent reference path: " ++ text reference
  | .malformed =>
    "Malformed $parent reference: objects carrying $parent must be exactly " ++
      "\x7b \"$parent\": \"<field>\" \x7d"
  | .filterShape => "Correlated include filter must be an object"
  | .emptyId => "Correlated include id must be a non-empty string"
  | .idShape => "Correlated include id must be a string or $parent reference"

/-- What the resolver throws: its private signal or an error for the caller. -/
inductive Thrown where
  | unresolvable
  | reference (fault : ReferenceFault)

def readPath (path : String) : Value → List String → Except Thrown Value
  | current, [] => .ok current
  | current, segment :: rest =>
    if dangerousPathSegments.contains segment then
      .error (.reference (.path (.string path)))
    else
      match ownProperty current segment with
      | some value => readPath path value rest
      | none => .ok .undefined

def getOwnPathValue (parent : Value) (path : String) : Except Thrown Value :=
  readPath path parent (segments path)

/-- The value a marker stands for, before it is wrapped. -/
def substitute (parent : Value) (reference : Value) : Except Thrown Value :=
  match reference with
  | .string path =>
    if isValidParentRefPath reference then
      match getOwnPathValue parent path with
      | .ok value => if value.isNullish then .error .unresolvable else .ok value
      | .error thrown => .error thrown
    else .error (.reference (.path reference))
  | _ => .error (.reference (.path reference))

def literalParentRefObject (path : String) : Value :=
  .object [(parentMarkerKey, .string path)]

def wrapEq (value : Value) : Value :=
  .object [("$eq", value)]

/-- `out[key] = value` on an object made by `{}`, before the later keys. The setter behind
`__proto__` leaves no own key. -/
def putKey (key : String) (value : Value) (rest : Entries) : Entries :=
  if key = "__proto__" then rest else (key, value) :: rest

mutual

/-- Substituted values are data. In a bare field position, escaped literals and markers that
resolve to plain objects are wrapped. -/
def resolveValueNode (parent : Value) (bare : Bool) (template : Value) : Except Thrown Value :=
  match escapePayload template with
  | some payload =>
    match escapedPath payload with
    | some path =>
      let literal := literalParentRefObject path
      .ok (if bare then wrapEq literal else literal)
    | none => .error (.reference .escape)
  | none =>
    match parentRef template with
    | some reference =>
      (substitute parent reference).map fun value =>
        if bare && value.isPlainObject then wrapEq value else value
    | none =>
      match template with
      | .object entries =>
        if hasMarkerKey entries then .error (.reference .malformed)
        else (resolveObjectEntries parent entries).map .object
      | .array items => (resolveItems parent items).map .array
      | value => .ok value

def resolveItems (parent : Value) : List Value → Except Thrown (List Value)
  | [] => .ok []
  | item :: rest => do
    let value ← resolveValueNode parent false item
    let values ← resolveItems parent rest
    return value :: values

def resolveObjectEntries (parent : Value) : List (String × Value) → Except Thrown Entries
  | [] => .ok []
  | (key, child) :: rest => do
    let operand := resolveValueNode parent false child
    let bareValue := resolveValueNode parent true child
    let value ← (match keyRole key with
      | .parent => .error (.reference .fieldName)
      | .payload | .forbidden =>
        if containsParentMarkerShape child then .error (.reference (.inside key)) else .ok child
      | .elemMatch =>
        if isParentRefMarker child || isEscapedParentRef child then
          .error (.reference .elemMatch)
        else operand
      | .logical =>
        match child with
        | .array clauses => (resolveClauses parent key clauses).map .array
        | _ => operand
      | .operator => operand
      | .field => bareValue)
    let values ← resolveObjectEntries parent rest
    return putKey key value values

def resolveClauses (parent : Value) (key : String) : List Value → Except Thrown (List Value)
  | [] => .ok []
  | clause :: rest => do
    let value ← (if isParentRefMarker clause || isEscapedParentRef clause then
        .error (.reference (.clause key))
      else
        match clause with
        | .object entries => (resolveObjectEntries parent entries).map .object
        | value => .ok value)
    let values ← resolveClauses parent key rest
    return value :: values

end

inductive Resolution (α : Type) where
  | resolved (value : α)
  | unresolvable

/-- The `catch` of a resolver: its signal is an answer, an error stays one. -/
def settle {α : Type} : Except Thrown α → Except ReferenceFault (Resolution α)
  | .ok value => .ok (.resolved value)
  | .error .unresolvable => .ok .unresolvable
  | .error (.reference fault) => .error fault

def resolveCorrelatedFilterTemplate (filter parent : Value) :
    Except ReferenceFault (Resolution Value) :=
  settle <|
    match filter with
    | .object entries =>
      if isParentRefMarker filter || isEscapedParentRef filter then
        .error (.reference .filterShape)
      else (resolveObjectEntries parent entries).map .object
    | _ => .error (.reference .filterShape)

/-- The text of an identifier value, `none` for one that is no identifier. -/
def idText : Value → Option String
  | .string id => some id
  | .number text => some (numberText text)
  | .bool value => some (if value then "true" else "false")
  | .bigint value => some value.repr
  | _ => none

def resolveCorrelatedIdTemplate (id parent : Value) :
    Except ReferenceFault (Resolution String) :=
  settle <|
    match id with
    | .string text => if text = "" then .error (.reference .emptyId) else .ok text
    | _ =>
      match parentRef id with
      | some (.string path) =>
        if isValidParentRefPath (.string path) then
          match getOwnPathValue parent path with
          | .ok value =>
            match idText value with
            | some text => .ok text
            | none => .error .unresolvable
          | .error thrown => .error thrown
        else .error (.reference (.path (.string path)))
      | some reference => .error (.reference (.path reference))
      | none => .error (.reference .idShape)

mutual

/-- Markers of a filter in document order, outside the keys that are never resolved. -/
def referencePaths (value : Value) : List String :=
  match parentRef value with
  | some (.string path) => [path]
  | some _ => []
  | none =>
    if isEscapedParentRef value then []
    else
      match value with
      | .array items => referencePathsItems items
      | .object entries => referencePathsEntries entries
      | _ => []

def referencePathsItems : List Value → List String
  | [] => []
  | item :: rest => referencePaths item ++ referencePathsItems rest

def referencePathsEntries : List (String × Value) → List String
  | [] => []
  | (key, child) :: rest =>
    (if subqueryPayloadKeys.contains key || markerForbiddenOperatorKeys.contains key then []
      else referencePaths child) ++
    referencePathsEntries rest

end

/-- The templates of an include; an absent one is `undefined`. -/
structure CorrelatedInclude where
  id : Value
  filter : Value

/-- `collectFilterReferencePaths` of the filter and the reference of the id, each path
once. -/
def collectCorrelatedReferencePaths (entry : CorrelatedInclude) : List String :=
  let ids := match parentRef entry.id with
    | some (.string path) => [path]
    | _ => []
  let filters := match entry.filter with
    | .undefined => []
    | filter => referencePaths filter
  (ids ++ filters).eraseDups

end WebTsToolkit.AccessRouter.Correlated
