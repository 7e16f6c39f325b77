import WebTsToolkit.AccessRouter.CorrelatedAgreement

set_option autoImplicit false

namespace WebTsToolkit.AccessRouter.Correlated

open Js Library AccessRouter.Filter

/-- Where a key of a resolved filter comes from. -/
inductive Origin where
  | template
  | wrapper
  | parent
  deriving DecidableEq, Repr

/-- A value whose keys remember their origin; a leaf has no keys. -/
inductive Traced where
  | leaf (value : Value)
  | array (items : List Traced)
  | object (entries : List (Origin × String × Traced))
  | classed (kind : Js.Class) (fields : List (Origin × String × Traced))

mutual

def Traced.erase : Traced → Value
  | .leaf value => value
  | .array items => .array (eraseItems items)
  | .object entries => .object (eraseEntries entries)
  | .classed kind fields => .classed kind (eraseEntries fields)

def eraseItems : List Traced → List Value
  | [] => []
  | item :: rest => item.erase :: eraseItems rest

def eraseEntries : List (Origin × String × Traced) → List (String × Value)
  | [] => []
  | (_, key, value) :: rest => (key, value.erase) :: eraseEntries rest

end

mutual

/-- The value with every key from one origin. -/
def trace (origin : Origin) : Value → Traced
  | .array items => .array (traceItems origin items)
  | .object entries => .object (traceEntries origin entries)
  | .classed kind fields => .classed kind (traceEntries origin fields)
  | value => .leaf value

def traceItems (origin : Origin) : List Value → List Traced
  | [] => []
  | item :: rest => trace origin item :: traceItems origin rest

def traceEntries (origin : Origin) : List (String × Value) → List (Origin × String × Traced)
  | [] => []
  | (key, value) :: rest => (origin, key, trace origin value) :: traceEntries origin rest

end

def putTraced (key : String) (value : Traced) (rest : List (Origin × String × Traced)) :
    List (Origin × String × Traced) :=
  if key = "__proto__" then rest else (.template, key, value) :: rest

/-- What a marker becomes, with the wrapper of a bare field position. -/
def traceSubstitute (parent : Value) (bare : Bool) (reference : Value) : Except Thrown Traced :=
  (substitute parent reference).map fun value =>
    if bare && value.isPlainObject then .object [(.wrapper, "$eq", trace .parent value)]
    else trace .parent value

def traceLiteral (bare : Bool) (path : String) : Traced :=
  let literal := .object [(.template, parentMarkerKey, .leaf (.string path))]
  if bare then .object [(.wrapper, "$eq", literal)] else literal

mutual

/-- `resolveValueNode`, with the origin of every key. -/
def traceValueNode (parent : Value) (bare : Bool) (template : Value) : Except Thrown Traced :=
  match escapePayload template with
  | some payload =>
    match escapedPath payload with
    | some path => .ok (traceLiteral bare path)
    | none => .error (.reference .escape)
  | none =>
    match parentRef template with
    | some reference => traceSubstitute parent bare reference
    | none =>
      match template with
      | .object entries =>
        if hasMarkerKey entries then .error (.reference .malformed)
        else (traceObjectEntries parent entries).map .object
      | .array items => (traceNodes parent items).map .array
      | value => .ok (trace .template value)

def traceNodes (parent : Value) : List Value → Except Thrown (List Traced)
  | [] => .ok []
  | item :: rest =>
    traceValueNode parent false item >>= fun value =>
      traceNodes parent rest >>= fun values => .ok (value :: values)

def traceObjectEntries (parent : Value) :
    List (String × Value) → Except Thrown (List (Origin × String × Traced))
  | [] => .ok []
  | (key, child) :: rest =>
    let operand := traceValueNode parent false child
    let bareValue := traceValueNode parent true child
    (match keyRole key with
      | .parent => .error (.reference .fieldName)
      | .payload | .forbidden =>
        if containsParentMarkerShape child then .error (.reference (.inside key))
        else .ok (trace .template child)
      | .elemMatch =>
        if isParentRefMarker child || isEscapedParentRef child then
          .error (.reference .elemMatch)
        else operand
      | .logical =>
        match child with
        | .array clauses => (traceClauses parent key clauses).map .array
        | _ => operand
      | .operator => operand
      | .field => bareValue) >>= fun value =>
    traceObjectEntries parent rest >>= fun values => .ok (putTraced key value values)

def traceClauses (parent : Value) (key : String) : List Value → Except Thrown (List Traced)
  | [] => .ok []
  | clause :: rest =>
    (if isParentRefMarker clause || isEscapedParentRef clause then
        .error (.reference (.clause key))
      else
        match clause with
        | .object entries => (traceObjectEntries parent entries).map .object
        | value => .ok (trace .template value)) >>= fun value =>
    traceClauses parent key rest >>= fun values => .ok (value :: values)

end

def traceCorrelatedFilterTemplate (filter parent : Value) :
    Except ReferenceFault (Resolution Traced) :=
  settle <|
    match filter with
    | .object entries =>
      if isParentRefMarker filter || isEscapedParentRef filter then
        .error (.reference .filterShape)
      else (traceObjectEntries parent entries).map .object
    | _ => .error (.reference .filterShape)

/-- How MongoDB reads a value: as a query, as what a field is compared with, as a list of
either, or literally. -/
inductive Position where
  | query
  | operand
  | members (position : Position)
  | literal
  deriving DecidableEq, Repr

/-- Where the value of a key stands. -/
def childPosition (position : Position) (key : String) : Position :=
  match position with
  | .members _ | .literal => .literal
  | .query | .operand =>
    if logicalClauseKeys.contains key then .members .query
    else if key = "$not" then .operand
    else if key = "$elemMatch" then .query
    else if key = "$all" then .members .operand
    else if startsWithDollar key then .literal
    else if position = .query then .operand
    else .literal

def itemPosition : Position → Position
  | .members position => position
  | _ => .literal

def Position.isSyntax : Position → Bool
  | .query | .operand => true
  | .members _ | .literal => false

/-- Instances that the driver writes as embedded documents. -/
def isDocumentClass : Js.Class → Bool
  | .map | .document | .custom _ => true
  | .set | .native _ => false

mutual

/-- The operator keys at positions that MongoDB interprets, with their origins. -/
def syntaxKeys (position : Position) : Traced → List (Origin × String)
  | .leaf _ => []
  | .array items => syntaxKeysItems (itemPosition position) items
  | .object entries => syntaxKeysEntries position entries
  | .classed kind fields => if isDocumentClass kind then syntaxKeysEntries position fields else []

def syntaxKeysItems (position : Position) : List Traced → List (Origin × String)
  | [] => []
  | item :: rest => syntaxKeys position item ++ syntaxKeysItems position rest

def syntaxKeysEntries (position : Position) :
    List (Origin × String × Traced) → List (Origin × String)
  | [] => []
  | (origin, key, value) :: rest =>
    (if position.isSyntax && startsWithDollar key then [(origin, key)] else []) ++
      syntaxKeys (childPosition position key) value ++ syntaxKeysEntries position rest

end

/-- A marker of a template, with the position its value takes. -/
structure Substitution where
  position : Position
  bare : Bool
  path : String

mutual

/-- The markers that the resolver replaces, in document order. -/
def substitutions (position : Position) (bare : Bool) (template : Value) : List Substitution :=
  match escapePayload template with
  | some _ => []
  | none =>
    match parentRef template with
    | some (.string path) => [⟨position, bare, path⟩]
    | some _ => []
    | none =>
      match template with
      | .object entries => substitutionsEntries position entries
      | .array items => substitutionsItems (itemPosition position) items
      | _ => []

def substitutionsItems (position : Position) : List Value → List Substitution
  | [] => []
  | item :: rest => substitutions position false item ++ substitutionsItems position rest

def substitutionsEntries (position : Position) : List (String × Value) → List Substitution
  | [] => []
  | (key, child) :: rest =>
    let inner := childPosition position key
    let operand := substitutions inner false child
    let bareValue := substitutions inner true child
    (if key = "__proto__" then []
      else
        match keyRole key with
        | .parent | .payload | .forbidden => []
        | .logical =>
          match child with
          | .array clauses => substitutionsClauses (itemPosition inner) clauses
          | _ => operand
        | .elemMatch | .operator => operand
        | .field => bareValue) ++
    substitutionsEntries position rest

def substitutionsClauses (position : Position) : List Value → List Substitution
  | [] => []
  | clause :: rest =>
    (match clause with
      | .object entries => substitutionsEntries position entries
      | _ => []) ++
    substitutionsClauses position rest

end

/-- The value shows no operator key where the marker stands, unless it is wrapped there. -/
def Substitution.Harmless (parent : Value) (substitution : Substitution) : Prop :=
  ∀ value, getOwnPathValue parent substitution.path = .ok value →
    (substitution.bare = true → value.isPlainObject = false) →
    syntaxKeys substitution.position (trace .parent value) = []

section Erasure

theorem traceItems_eq (origin : Origin) (items : List Value) :
    traceItems origin items = items.map (trace origin) := by
  induction items with
  | nil => rfl
  | cons item rest ih => rw [traceItems, ih, List.map_cons]

theorem traceEntries_eq (origin : Origin) (entries : Entries) :
    traceEntries origin entries =
      entries.map fun entry => (origin, entry.1, trace origin entry.2) := by
  induction entries with
  | nil => rfl
  | cons entry rest ih => rw [traceEntries, ih, List.map_cons]

theorem eraseItems_eq (items : List Traced) : eraseItems items = items.map Traced.erase := by
  induction items with
  | nil => rfl
  | cons item rest ih => rw [eraseItems, ih, List.map_cons]

theorem eraseEntries_eq (entries : List (Origin × String × Traced)) :
    eraseEntries entries = entries.map fun entry => (entry.2.1, entry.2.2.erase) := by
  induction entries with
  | nil => rfl
  | cons entry rest ih => rw [eraseEntries, ih, List.map_cons]

theorem map_eq_self {α : Type} {f : α → α} {items : List α}
    (same : ∀ item ∈ items, f item = item) : items.map f = items := by
  rw [List.map_congr_left same, List.map_id']

theorem erase_trace (origin : Origin) (value : Value) : (trace origin value).erase = value := by
  induction value using Value.induction with
  | array items ih =>
    rw [trace, Traced.erase, traceItems_eq, eraseItems_eq, List.map_map, Value.array.injEq]
    exact map_eq_self ih
  | object entries ih =>
    rw [trace, Traced.erase, traceEntries_eq, eraseEntries_eq, List.map_map, Value.object.injEq]
    exact map_eq_self fun entry member => Prod.ext rfl (ih entry member)
  | classed kind fields ih =>
    rw [trace, Traced.erase, traceEntries_eq, eraseEntries_eq, List.map_map,
      Value.classed.injEq]
    exact ⟨rfl, map_eq_self fun entry member => Prod.ext rfl (ih entry member)⟩
  | leaf value leaf =>
    cases value with
    | array | object | classed => contradiction
    | _ => rfl

theorem erase_putTraced (key : String) (value : Traced)
    (rest : List (Origin × String × Traced)) :
    eraseEntries (putTraced key value rest) = putKey key value.erase (eraseEntries rest) := by
  unfold putTraced putKey
  split_ifs <;> rfl

theorem erase_traceLiteral (bare : Bool) (path : String) :
    (traceLiteral bare path).erase =
      if bare then wrapEq (literalParentRefObject path) else literalParentRefObject path := by
  cases bare <;> rfl

variable (parent : Value)

theorem erase_traceSubstitute (bare : Bool) (reference : Value) :
    (traceSubstitute parent bare reference).map Traced.erase =
      (substitute parent reference).map fun value =>
        if bare && value.isPlainObject then wrapEq value else value := by
  unfold traceSubstitute
  cases substitute parent reference with
  | error thrown => rfl
  | ok value =>
    simp only [Except.map]
    split_ifs
    · simp [Traced.erase, eraseEntries, erase_trace, wrapEq]
    · rw [erase_trace]

/-- The traced value that one entry gets. -/
def traceEntry (key : String) (child : Value) : Except Thrown Traced :=
  match keyRole key with
  | .parent => .error (.reference .fieldName)
  | .payload | .forbidden =>
    if containsParentMarkerShape child then .error (.reference (.inside key))
    else .ok (trace .template child)
  | .elemMatch =>
    if isParentRefMarker child || isEscapedParentRef child then .error (.reference .elemMatch)
    else traceValueNode parent false child
  | .logical =>
    match child with
    | .array clauses => (traceClauses parent key clauses).map .array
    | _ => traceValueNode parent false child
  | .operator => traceValueNode parent false child
  | .field => traceValueNode parent true child

theorem traceObjectEntries_cons (key : String) (child : Value) (rest : Entries) :
    traceObjectEntries parent ((key, child) :: rest) =
      traceEntry parent key child >>= fun value =>
        traceObjectEntries parent rest >>= fun values => .ok (putTraced key value values) := by
  unfold traceEntry
  conv_lhs => unfold traceObjectEntries

def traceClause (clause : Value) : Except Thrown Traced :=
  match clause with
  | .object entries => (traceObjectEntries parent entries).map .object
  | value => .ok (trace .template value)

theorem traceClauses_cons (key : String) (clause : Value) (rest : List Value) :
    traceClauses parent key (clause :: rest) =
      (if isParentRefMarker clause || isEscapedParentRef clause then
          .error (.reference (.clause key))
        else traceClause parent clause) >>= fun value =>
        traceClauses parent key rest >>= fun values => .ok (value :: values) := by
  unfold traceClause
  conv_lhs => unfold traceClauses

theorem traceValueNode_other (bare : Bool) {value : Value}
    (notArray : ∀ items, value ≠ .array items) (notObject : ∀ entries, value ≠ .object entries) :
    traceValueNode parent bare value = .ok (trace .template value) := by
  cases value with
  | array items => exact absurd rfl (notArray items)
  | object entries => exact absurd rfl (notObject entries)
  | _ => rfl

theorem map_map {α β γ : Type} (result : Except Thrown α) (f : α → β) (g : β → γ) :
    (result.map f).map g = result.map fun value => g (f value) := by
  cases result <;> rfl

/-- Erasure of two results one after the other. -/
theorem map_bind₂ {α β γ α' β' γ' : Type} {first : Except Thrown α} {second : Except Thrown β}
    {first' : Except Thrown α'} {second' : Except Thrown β'} {f : α → α'} {g : β → β'}
    {h : γ → γ'} {join : α → β → γ} {join' : α' → β' → γ'}
    (same : first.map f = first') (same' : second.map g = second')
    (joins : ∀ value values, h (join value values) = join' (f value) (g values)) :
    (first >>= fun value => second >>= fun values => .ok (join value values)).map h =
      first' >>= fun value => second' >>= fun values => .ok (join' value values) := by
  subst same same'
  cases first with
  | error thrown => rfl
  | ok value =>
    cases second with
    | error thrown => rfl
    | ok values => exact congrArg Except.ok (joins value values)

theorem erase_traceNodes {items : List Value}
    (node : ∀ item ∈ items, ∀ bare, (traceValueNode parent bare item).map Traced.erase =
      resolveValueNode parent bare item) :
    (traceNodes parent items).map eraseItems = resolveItems parent items := by
  induction items with
  | nil => rfl
  | cons item rest ih =>
    obtain ⟨first, later⟩ := List.forall_mem_cons.mp node
    exact map_bind₂ (first false) (ih later) fun _ _ => rfl

theorem erase_traceClauses {clauses : List Value}
    (fields : ∀ entries, .object entries ∈ clauses →
      (traceObjectEntries parent entries).map eraseEntries = resolveObjectEntries parent entries)
    (key : String) :
    (traceClauses parent key clauses).map eraseItems = resolveClauses parent key clauses := by
  induction clauses with
  | nil => rfl
  | cons clause rest ih =>
    rw [traceClauses_cons, resolveClauses_cons]
    refine map_bind₂ ?_
      (ih fun entries member => fields entries (List.mem_cons_of_mem _ member)) fun _ _ => rfl
    split_ifs
    · rfl
    · cases clause with
      | object entries =>
        rw [traceClause, resolveClause, ← fields entries List.mem_cons_self, map_map, map_map]
        rfl
      | _ => exact congrArg Except.ok (erase_trace _ _)

/-- Without the origins the traced resolver is the resolver. -/
theorem erase_traceValueNode :
    (∀ template bare, (traceValueNode parent bare template).map Traced.erase =
      resolveValueNode parent bare template) ∧
    ∀ entries, (traceObjectEntries parent entries).map eraseEntries =
      resolveObjectEntries parent entries := by
  refine template_induction ?array ?object ?other ?nil ?cons
  case array =>
    intro items ih bare
    rw [resolveValueNode_array, ← erase_traceNodes parent ih, map_map]
    exact map_map _ _ _
  case object =>
    intro entries ih bare
    rw [traceValueNode, resolveValueNode]
    cases escape : escapePayload (.object entries) with
    | some payload =>
      simp only
      cases escapedPath payload with
      | some path => exact congrArg Except.ok (erase_traceLiteral bare path)
      | none => rfl
    | none =>
      simp only
      cases marker : parentRef (.object entries) with
      | some reference => exact erase_traceSubstitute parent bare reference
      | none =>
        simp only
        split_ifs
        · rfl
        · rw [← ih, map_map, map_map]
          rfl
  case other =>
    intro value notArray notObject bare
    rw [traceValueNode_other parent bare notArray notObject,
      resolveValueNode_other parent bare notArray notObject]
    exact congrArg Except.ok (erase_trace _ _)
  case nil => rfl
  case cons =>
    intro key child rest node clauses later
    rw [traceObjectEntries_cons, resolveObjectEntries_cons]
    refine map_bind₂ ?_ later fun value values => erase_putTraced key value values
    unfold traceEntry resolveEntry
    cases keyRole key with
    | parent => rfl
    | payload | forbidden =>
      simp only
      split_ifs
      · rfl
      · exact congrArg Except.ok (erase_trace _ _)
    | elemMatch =>
      simp only
      split_ifs
      · rfl
      · exact node false
    | logical =>
      cases child with
      | array items =>
        simp only
        rw [← erase_traceClauses parent (clauses items rfl), map_map, map_map]
        rfl
      | _ => exact node false
    | operator => exact node false
    | field => exact node true

end Erasure

section Provenance

variable (parent : Value)

/-- No key comes from the parent. -/
def NoParentKey (keys : List (Origin × String)) : Prop :=
  ∀ key ∈ keys, key.1 ≠ .parent

theorem noParentKey_append (first second : List (Origin × String)) :
    NoParentKey (first ++ second) ↔ NoParentKey first ∧ NoParentKey second :=
  List.forall_mem_append

theorem syntaxKeysItems_eq (position : Position) (items : List Traced) :
    syntaxKeysItems position items = items.flatMap (syntaxKeys position) := by
  induction items with
  | nil => rfl
  | cons item rest ih => rw [syntaxKeysItems, ih, List.flatMap_cons]

theorem syntaxKeysEntries_eq (position : Position)
    (entries : List (Origin × String × Traced)) :
    syntaxKeysEntries position entries = entries.flatMap fun entry =>
      (if position.isSyntax && startsWithDollar entry.2.1 then [(entry.1, entry.2.1)] else []) ++
        syntaxKeys (childPosition position entry.2.1) entry.2.2 := by
  induction entries with
  | nil => rfl
  | cons entry rest ih => rw [syntaxKeysEntries, ih, List.flatMap_cons]

theorem origin_of_entries {origin : Origin} {entries : Entries}
    (inner : ∀ entry ∈ entries, ∀ position, ∀ key ∈ syntaxKeys position (trace origin entry.2),
      key.1 = origin)
    (position : Position) :
    ∀ key ∈ syntaxKeysEntries position (traceEntries origin entries), key.1 = origin := by
  intro key member
  rw [traceEntries_eq, syntaxKeysEntries_eq] at member
  obtain ⟨traced, listed, found⟩ := List.mem_flatMap.mp member
  obtain ⟨entry, member', rfl⟩ := List.mem_map.mp listed
  rcases List.mem_append.mp found with own | child
  · split_ifs at own
    · rw [List.mem_singleton.mp own]
    · contradiction
  · exact inner entry member' _ key child

/-- Every key of a traced value has its origin. -/
theorem origin_of_trace (origin : Origin) (value : Value) :
    ∀ position, ∀ key ∈ syntaxKeys position (trace origin value), key.1 = origin := by
  induction value using Value.induction with
  | array items ih =>
    intro position key member
    rw [trace, syntaxKeys, traceItems_eq, syntaxKeysItems_eq] at member
    obtain ⟨traced, listed, found⟩ := List.mem_flatMap.mp member
    obtain ⟨item, member', rfl⟩ := List.mem_map.mp listed
    exact ih item member' _ key found
  | object entries ih =>
    intro position
    rw [trace, syntaxKeys]
    exact origin_of_entries ih position
  | classed kind fields ih =>
    intro position key member
    rw [trace, syntaxKeys] at member
    split_ifs at member
    · exact origin_of_entries ih position key member
    · contradiction
  | leaf value leaf =>
    intro position key member
    cases value with
    | array | object | classed => contradiction
    | _ => contradiction

theorem noParentKey_template (position : Position) (value : Value) :
    NoParentKey (syntaxKeys position (trace .template value)) := by
  intro key member
  rw [origin_of_trace .template value position key member]
  decide

theorem noParentKey_parent_iff (position : Position) (value : Value) :
    NoParentKey (syntaxKeys position (trace .parent value)) ↔
      syntaxKeys position (trace .parent value) = [] := by
  constructor
  · intro none
    rw [List.eq_nil_iff_forall_not_mem]
    intro key member
    exact none key member (origin_of_trace .parent value position key member)
  · intro empty key member
    rw [empty] at member
    contradiction

theorem syntaxKeys_literal (origin : Origin) (value : Value) :
    syntaxKeys .literal (trace origin value) = [] := by
  have fields : ∀ entries : Entries,
      (∀ entry ∈ entries, syntaxKeys .literal (trace origin entry.2) = []) →
      syntaxKeysEntries .literal (traceEntries origin entries) = [] := by
    intro entries inner
    rw [traceEntries_eq, syntaxKeysEntries_eq, List.flatMap_map, List.flatMap_eq_nil_iff]
    intro entry member
    exact inner entry member
  induction value using Value.induction with
  | array items ih =>
    rw [trace, syntaxKeys, traceItems_eq, syntaxKeysItems_eq, List.flatMap_map,
      List.flatMap_eq_nil_iff]
    exact ih
  | object entries ih => exact fields entries ih
  | classed kind entries ih =>
    rw [trace, syntaxKeys, fields entries ih, ite_self]
  | leaf value leaf =>
    cases value with
    | array | object | classed => contradiction
    | _ => rfl

variable {position : Position}

/-- The wrapper is the only operator key around a literal. -/
theorem noParentKey_wrapper {traced : Traced} (silent : syntaxKeys .literal traced = []) :
    NoParentKey (syntaxKeys position (.object [(.wrapper, "$eq", traced)])) := by
  have inner : childPosition position "$eq" = .literal := by
    cases position <;> rfl
  intro key member
  rw [syntaxKeys, syntaxKeysEntries, syntaxKeysEntries, inner, silent, List.append_nil,
    List.append_nil] at member
  split_ifs at member
  · rw [List.mem_singleton.mp member]
    decide
  · contradiction

theorem noParentKey_literal (position : Position) (bare : Bool) (path : String) :
    NoParentKey (syntaxKeys position (traceLiteral bare path)) := by
  cases bare with
  | true => exact noParentKey_wrapper rfl
  | false =>
    have same : traceLiteral false path =
        trace .template (.object [(parentMarkerKey, .string path)]) := rfl
    rw [same]
    exact noParentKey_template position _

theorem noParentKey_substitute {bare : Bool} {reference : Value} {traced : Traced}
    (resolved : traceSubstitute parent bare reference = .ok traced) :
    ∃ path, reference = .string path ∧ (NoParentKey (syntaxKeys position traced) ↔
      (Substitution.mk position bare path).Harmless parent) := by
  obtain ⟨value, read, same⟩ := map_eq_ok resolved
  have valid := valid_of_substitute read
  obtain ⟨path, rfl⟩ := string_of_valid valid
  refine ⟨path, rfl, ?_⟩
  have found : getOwnPathValue parent path = .ok value := by
    rw [substitute, if_pos valid] at read
    split at read
    · rename_i source found
      split_ifs at read
      rw [found, Except.ok.inj read]
    · contradiction
  split_ifs at same with wrapped
  · subst same
    refine iff_of_true (noParentKey_wrapper (syntaxKeys_literal .parent value)) ?_
    intro value' found' unwrapped
    have same : value = value' := Except.ok.inj (found.symm.trans found')
    subst same
    obtain ⟨bare, plain⟩ := Bool.and_eq_true_iff.mp wrapped
    exact absurd (unwrapped bare) (by simp [plain])
  · subst same
    rw [noParentKey_parent_iff]
    constructor
    · intro silent value' found' _
      have same : value = value' := Except.ok.inj (found.symm.trans found')
      subst same
      exact silent
    · intro harmless
      refine harmless value found fun bare => ?_
      by_contra plain
      exact wrapped (Bool.and_eq_true_iff.mpr ⟨bare, by simpa using plain⟩)

theorem substitutionsEntries_cons (position : Position) (key : String) (child : Value)
    (rest : Entries) :
    substitutionsEntries position ((key, child) :: rest) =
      (if key = "__proto__" then []
        else
          match keyRole key with
          | .parent | .payload | .forbidden => []
          | .logical =>
            match child with
            | .array clauses =>
              substitutionsClauses (itemPosition (childPosition position key)) clauses
            | _ => substitutions (childPosition position key) false child
          | .elemMatch | .operator => substitutions (childPosition position key) false child
          | .field => substitutions (childPosition position key) true child) ++
      substitutionsEntries position rest := by
  conv_lhs => unfold substitutionsEntries

theorem substitutionsClauses_cons (position : Position) (clause : Value) (rest : List Value) :
    substitutionsClauses position (clause :: rest) =
      (match clause with
        | .object entries => substitutionsEntries position entries
        | _ => []) ++ substitutionsClauses position rest := by
  conv_lhs => unfold substitutionsClauses

/-- The keys show nothing of the parent exactly when each of the markers is harmless. -/
def Decided (keys : List (Origin × String)) (markers : List Substitution) : Prop :=
  NoParentKey keys ↔ ∀ marker ∈ markers, marker.Harmless parent

variable {parent}

theorem Decided.append {keys more : List (Origin × String)} {markers others : List Substitution}
    (first : Decided parent keys markers) (second : Decided parent more others) :
    Decided parent (keys ++ more) (markers ++ others) :=
  (noParentKey_append keys more).trans
    ((and_congr first second).trans List.forall_mem_append.symm)

theorem decided_template (position : Position) (value : Value) :
    Decided parent (syntaxKeys position (trace .template value)) [] :=
  iff_of_true (noParentKey_template position value) (by simp)

theorem decided_nodes {items : List Value}
    (node : ∀ item ∈ items, ∀ position bare traced, traceValueNode parent bare item = .ok traced →
      Decided parent (syntaxKeys position traced) (substitutions position bare item))
    (position : Position) (traced : List Traced) (resolved : traceNodes parent items = .ok traced) :
    Decided parent (syntaxKeysItems position traced) (substitutionsItems position items) := by
  induction items generalizing traced with
  | nil =>
    cases resolved
    exact iff_of_true (by simp [NoParentKey, syntaxKeysItems]) (by simp [substitutionsItems])
  | cons item rest ih =>
    obtain ⟨first, later⟩ := List.forall_mem_cons.mp node
    obtain ⟨value, here, resolved⟩ := bind_eq_ok resolved
    obtain ⟨values, after, same⟩ := bind_eq_ok resolved
    obtain rfl := Except.ok.inj same
    exact (first position false value here).append (ih later values after)

theorem decided_clauses {clauses : List Value}
    (fields : ∀ entries, .object entries ∈ clauses → ∀ position traced,
      traceObjectEntries parent entries = .ok traced →
      Decided parent (syntaxKeysEntries position traced) (substitutionsEntries position entries))
    (key : String) (position : Position) (traced : List Traced)
    (resolved : traceClauses parent key clauses = .ok traced) :
    Decided parent (syntaxKeysItems position traced) (substitutionsClauses position clauses) := by
  induction clauses generalizing traced with
  | nil =>
    cases resolved
    exact iff_of_true (by simp [NoParentKey, syntaxKeysItems]) (by simp [substitutionsClauses])
  | cons clause rest ih =>
    rw [traceClauses_cons] at resolved
    obtain ⟨value, here, next⟩ := bind_eq_ok resolved
    obtain ⟨values, after, same⟩ := bind_eq_ok next
    rw [← Except.ok.inj same, syntaxKeysItems, substitutionsClauses_cons]
    have later := ih (fun entries member => fields entries (List.mem_cons_of_mem _ member)) values
      after
    refine Decided.append ?_ later
    split_ifs at here
    cases clause with
    | object entries =>
      obtain ⟨inner, source, same⟩ := map_eq_ok here
      subst same
      exact fields entries List.mem_cons_self position inner source
    | _ =>
      rw [← Except.ok.inj here]
      exact decided_template position _

theorem decided_entry {key : String} {child : Value} {value : Traced} (own : key ≠ "__proto__")
    (node : ∀ position bare traced, traceValueNode parent bare child = .ok traced →
      Decided parent (syntaxKeys position traced) (substitutions position bare child))
    (clauses : ∀ items, child = .array items → ∀ entries, .object entries ∈ items →
      ∀ position traced, traceObjectEntries parent entries = .ok traced →
      Decided parent (syntaxKeysEntries position traced) (substitutionsEntries position entries))
    (resolved : traceEntry parent key child = .ok value) (rest : Entries)
    (traced : List (Origin × String × Traced))
    (later : Decided parent (syntaxKeysEntries position traced)
      (substitutionsEntries position rest)) :
    Decided parent (syntaxKeysEntries position ((.template, key, value) :: traced))
      (substitutionsEntries position ((key, child) :: rest)) := by
  rw [syntaxKeysEntries, substitutionsEntries_cons, if_neg own]
  refine Decided.append ?_ later
  have here : NoParentKey
      (if position.isSyntax && startsWithDollar key then [(.template, key)] else []) := by
    split_ifs <;> simp [NoParentKey]
  rw [Decided, noParentKey_append, and_iff_right here]
  unfold traceEntry at resolved
  cases role : keyRole key with
  | parent => simp [role] at resolved
  | payload | forbidden =>
    simp only [role] at resolved ⊢
    split_ifs at resolved
    cases resolved
    exact decided_template _ child
  | elemMatch =>
    simp only [role] at resolved ⊢
    split_ifs at resolved
    exact node _ false value resolved
  | logical =>
    simp only [role] at resolved ⊢
    cases child with
    | array items =>
      obtain ⟨inner, source, same⟩ := map_eq_ok resolved
      subst same
      exact decided_clauses (clauses items rfl) key _ inner source
    | _ => exact node _ false value resolved
  | operator =>
    simp only [role] at resolved ⊢
    exact node _ false value resolved
  | field =>
    simp only [role] at resolved ⊢
    exact node _ true value resolved

theorem decided_resolved :
    (∀ template position bare traced, traceValueNode parent bare template = .ok traced →
      Decided parent (syntaxKeys position traced) (substitutions position bare template)) ∧
    ∀ entries position traced, traceObjectEntries parent entries = .ok traced →
      Decided parent (syntaxKeysEntries position traced)
        (substitutionsEntries position entries) := by
  refine template_induction ?array ?object ?other ?nil ?cons
  case array =>
    intro items ih position bare traced resolved
    obtain ⟨inner, source, same⟩ := map_eq_ok resolved
    subst same
    exact decided_nodes ih (itemPosition position) inner source
  case object =>
    intro entries ih position bare traced resolved
    rw [traceValueNode] at resolved
    rw [substitutions]
    cases escape : escapePayload (.object entries) with
    | some payload =>
      simp only [escape] at resolved ⊢
      cases literal : escapedPath payload with
      | some path =>
        rw [literal] at resolved
        cases resolved
        exact iff_of_true (noParentKey_literal position bare path) (by simp)
      | none =>
        rw [literal] at resolved
        contradiction
    | none =>
      simp only [escape] at resolved ⊢
      cases marker : parentRef (.object entries) with
      | some reference =>
        simp only [marker] at resolved ⊢
        obtain ⟨path, rfl, harmless⟩ := noParentKey_substitute parent resolved
        simpa [Decided] using harmless
      | none =>
        simp only [marker] at resolved ⊢
        split_ifs at resolved
        obtain ⟨inner, source, same⟩ := map_eq_ok resolved
        subst same
        exact ih position inner source
  case other =>
    intro value notArray notObject position bare traced resolved
    rw [traceValueNode_other parent bare notArray notObject] at resolved
    cases resolved
    have none : substitutions position bare value = [] := by
      cases value with
      | array items => exact absurd rfl (notArray items)
      | object entries => exact absurd rfl (notObject entries)
      | _ => rfl
    rw [none]
    exact decided_template position value
  case nil =>
    intro position traced resolved
    cases resolved
    exact iff_of_true (by simp [NoParentKey, syntaxKeysEntries]) (by simp [substitutionsEntries])
  case cons =>
    intro key child rest node clauses later position traced resolved
    rw [traceObjectEntries_cons] at resolved
    obtain ⟨value, here, resolved⟩ := bind_eq_ok resolved
    obtain ⟨values, after, same⟩ := bind_eq_ok resolved
    obtain rfl := Except.ok.inj same
    rw [putTraced]
    split_ifs with proto
    · rw [substitutionsEntries_cons, if_pos proto]
      exact later position values after
    · exact decided_entry proto node clauses here rest values (later position values after)

end Provenance

/-- The markers of a filter template. -/
def filterSubstitutions : Value → List Substitution
  | .object entries => substitutionsEntries .query entries
  | _ => []

/-- Every operator key of a resolved filter comes from the template or is the wrapper exactly
when each marker is harmless where it stands: wrapped, or replaced by a value that shows no
operator key there. -/
theorem parent_data_is_no_syntax_iff (filter parent result : Value)
    (resolved : resolveCorrelatedFilterTemplate filter parent = .ok (.resolved result)) :
    ∃ traced, traceCorrelatedFilterTemplate filter parent = .ok (.resolved traced) ∧
      traced.erase = result ∧
      ((∀ key ∈ syntaxKeys .query traced, key.1 ≠ .parent) ↔
        ∀ marker ∈ filterSubstitutions filter, marker.Harmless parent) := by
  have values := settle_eq_resolved resolved
  cases filter with
  | object entries =>
    simp only at values
    split_ifs at values with carrier
    obtain ⟨inner, source, rfl⟩ := map_eq_ok values
    rw [← (erase_traceValueNode parent).2 entries] at source
    obtain ⟨traced, origin, rfl⟩ := map_eq_ok source
    refine ⟨.object traced, ?_, rfl, decided_resolved.2 entries .query traced origin⟩
    simp only [traceCorrelatedFilterTemplate]
    rw [if_neg carrier, origin]
    rfl
  | _ => contradiction

theorem parent_data_is_no_syntax_of_equality :
    ∃ traced, traceCorrelatedFilterTemplate
        (.object [("owner", .object [("$parent", .string "lead")])])
        (.object [("lead", .object [("$gt", .string "")])]) = .ok (.resolved traced) ∧
      traced.erase = .object [("owner", .object [("$eq", .object [("$gt", .string "")])])] ∧
      ((∀ key ∈ syntaxKeys .query traced, key.1 ≠ .parent) ↔
        ∀ marker ∈ filterSubstitutions (.object [("owner", .object [("$parent", .string "lead")])]),
          marker.Harmless (.object [("lead", .object [("$gt", .string "")])])) :=
  parent_data_is_no_syntax_iff _ _ _ rfl

/-- An accepted template that puts an operator of the parent under `$not`. -/
theorem parent_operator_under_not :
    validateCorrelatedFilterTemplate
        (.object [("owner", .object [("$not", .object [("$parent", .string "lead")])])]) = [] ∧
      resolveCorrelatedFilterTemplate
        (.object [("owner", .object [("$not", .object [("$parent", .string "lead")])])])
        (.object [("lead", .object [("$gt", .string "")])]) =
        .ok (.resolved (.object [("owner", .object [("$not", .object [("$gt", .string "")])])])) ∧
      ∃ traced, traceCorrelatedFilterTemplate
        (.object [("owner", .object [("$not", .object [("$parent", .string "lead")])])])
        (.object [("lead", .object [("$gt", .string "")])]) = .ok (.resolved traced) ∧
        (.parent, "$gt") ∈ syntaxKeys .query traced :=
  ⟨rfl, rfl, _, rfl, by decide⟩

end WebTsToolkit.AccessRouter.Correlated
