import WebTsToolkit.AccessRouter.Correlated
import WebTsToolkit.Library.Outcome

set_option autoImplicit false

namespace WebTsToolkit.AccessRouter.Correlated

open Js Library AccessRouter.Filter

theorem isEscapedParentRef_eq_false {value : Value} (absent : escapePayload value = none) :
    isEscapedParentRef value = false := by
  rw [isEscapedParentRef, absent]
  rfl

/-- Induction along the recursion that the validator, the resolver and the collector share:
logical clauses are entered as entries, everything else as a value. -/
theorem template_induction {Node : Value → Prop} {Fields : Entries → Prop}
    (array : ∀ items, (∀ item ∈ items, Node item) → Node (.array items))
    (object : ∀ entries, Fields entries → Node (.object entries))
    (other : ∀ value, (∀ items, value ≠ .array items) → (∀ entries, value ≠ .object entries) →
      Node value)
    (nil : Fields [])
    (cons : ∀ key child rest, Node child →
      (∀ clauses, child = .array clauses → ∀ entries, .object entries ∈ clauses → Fields entries) →
      Fields rest → Fields ((key, child) :: rest)) :
    (∀ value, Node value) ∧ ∀ entries, Fields entries := by
  have all : ∀ value, Node value ∧ (∀ entries, value = .object entries → Fields entries) ∧
      ∀ clauses, value = .array clauses → ∀ entries, .object entries ∈ clauses →
        Fields entries := by
    intro value
    induction value using Value.induction with
    | array items ih =>
      refine ⟨array items fun item member => (ih item member).1, by simp, ?_⟩
      rintro clauses same entries member
      cases same
      exact (ih _ member).2.1 entries rfl
    | object entries ih =>
      have fields : Fields entries := by
        clear object
        induction entries with
        | nil => exact nil
        | cons entry rest ih' =>
          obtain ⟨first, later⟩ := List.forall_mem_cons.mp ih
          exact cons entry.1 entry.2 rest first.1 first.2.2 (ih' later)
      refine ⟨object entries fields, ?_, by simp⟩
      rintro entries' same
      cases same
      exact fields
    | classed kind fields => exact ⟨other _ (by simp) (by simp), by simp, by simp⟩
    | leaf value leaf =>
      have simple : (∀ items, value ≠ .array items) ∧ ∀ entries, value ≠ .object entries := by
        constructor <;> rintro _ rfl <;> contradiction
      exact ⟨other value simple.1 simple.2, fun entries same => absurd same (simple.2 entries),
        fun items same => absurd same (simple.1 items)⟩
  refine ⟨fun value => (all value).1, fun entries => ?_⟩
  exact (all (.object entries)).2.1 entries rfl

section Errors

variable {α β : Type}

/-- The resolver does not fail with an error of its own. -/
def Safe (result : Except Thrown α) : Prop :=
  ∀ fault, result ≠ .error (.reference fault)

theorem safe_ok (value : α) : Safe (.ok value : Except Thrown α) := by
  intro fault same
  contradiction

theorem Safe.map {result : Except Thrown α} (safe : Safe result) (f : α → β) :
    Safe (result.map f) := by
  intro fault same
  cases result with
  | ok value => contradiction
  | error thrown => exact safe fault (by simpa [Except.map] using same)

theorem Safe.bind {result : Except Thrown α} (safe : Safe result) {next : α → Except Thrown β}
    (later : ∀ value, Safe (next value)) : Safe (result >>= next) := by
  intro fault same
  cases result with
  | ok value => exact later value fault same
  | error thrown =>
    have failed : (Except.error thrown : Except Thrown β) = .error (.reference fault) := same
    exact safe fault (by rw [Except.error.inj failed])

end Errors

section References

variable {parent : Value} {reference : Value}

theorem readPath_safe (path : String) (current : Value) (segments : List String)
    (harmless : ∀ segment ∈ segments, dangerousPathSegments.contains segment = false) :
    Safe (readPath path current segments) := by
  induction segments generalizing current with
  | nil => exact safe_ok current
  | cons segment rest ih =>
    obtain ⟨first, later⟩ := List.forall_mem_cons.mp harmless
    rw [readPath, first, if_neg Bool.false_ne_true]
    split
    · exact ih _ later
    · exact safe_ok _

/-- No segment of a valid path is one that the reader refuses. -/
theorem harmless_of_valid {path : String} (valid : isValidParentRefPath (.string path) = true) :
    ∀ segment ∈ segments path, dangerousPathSegments.contains segment = false := by
  intro segment member
  rw [isValidParentRefPath, Bool.and_eq_true, List.all_eq_true] at valid
  have checked := valid.2 segment member
  rw [Bool.and_eq_true, Bool.not_eq_true'] at checked
  exact checked.2

theorem string_of_valid (valid : isValidParentRefPath reference = true) :
    ∃ path, reference = .string path := by
  cases reference with
  | string path => exact ⟨path, rfl⟩
  | _ => contradiction

theorem substitute_safe (valid : isValidParentRefPath reference = true) :
    Safe (substitute parent reference) := by
  obtain ⟨path, rfl⟩ := string_of_valid valid
  have read : Safe (getOwnPathValue parent path) :=
    readPath_safe path parent _ (harmless_of_valid valid)
  intro fault
  rw [substitute, if_pos valid]
  split
  · split_ifs <;> simp
  · rename_i thrown failed
    intro same
    exact read fault (failed.trans (by simpa using same))

theorem valid_of_substitute {value : Value} (resolved : substitute parent reference = .ok value) :
    isValidParentRefPath reference = true := by
  unfold substitute at resolved
  split at resolved
  · split_ifs at resolved with valid
    exact valid
  · contradiction

end References

section Equations

variable (path : List PathSegment) (parent : Value) (bare : Bool)

theorem resolveValueNode_array (items : List Value) :
    resolveValueNode parent bare (.array items) = (resolveItems parent items).map .array := rfl

theorem scanTemplateValueNode_other {value : Value} (notArray : ∀ items, value ≠ .array items)
    (notObject : ∀ entries, value ≠ .object entries) : scanTemplateValueNode path value = [] := by
  cases value with
  | array items => exact absurd rfl (notArray items)
  | object entries => exact absurd rfl (notObject entries)
  | _ => rfl

theorem resolveValueNode_other {value : Value} (notArray : ∀ items, value ≠ .array items)
    (notObject : ∀ entries, value ≠ .object entries) :
    resolveValueNode parent bare value = .ok value := by
  cases value with
  | array items => exact absurd rfl (notArray items)
  | object entries => exact absurd rfl (notObject entries)
  | _ => rfl

/-- The issues of one entry. -/
def scanEntry (key : String) (child : Value) : List CorrelatedTemplateIssue :=
  let childPath := path ++ [.key key]
  match keyRole key with
  | .parent => [fieldNameIssue childPath]
  | .payload => if containsParentMarkerShape child then [payloadIssue key childPath] else []
  | .forbidden => if containsParentMarkerShape child then [forbiddenIssue key childPath] else []
  | .elemMatch =>
    if isParentRefMarker child || isEscapedParentRef child then [elemMatchIssue childPath]
    else scanTemplateValueNode childPath child
  | .logical =>
    match child with
    | .array clauses => scanTemplateClauses key childPath 0 clauses
    | _ => scanTemplateValueNode childPath child
  | .operator | .field => scanTemplateValueNode childPath child

theorem scanTemplateObjectEntries_cons (key : String) (child : Value) (rest : Entries) :
    scanTemplateObjectEntries path ((key, child) :: rest) =
      scanEntry path key child ++ scanTemplateObjectEntries path rest := by
  unfold scanEntry
  exact scanTemplateObjectEntries.eq_def path ((key, child) :: rest)

/-- The value that one entry gets. -/
def resolveEntry (key : String) (child : Value) : Except Thrown Value :=
  match keyRole key with
  | .parent => .error (.reference .fieldName)
  | .payload | .forbidden =>
    if containsParentMarkerShape child then .error (.reference (.inside key)) else .ok child
  | .elemMatch =>
    if isParentRefMarker child || isEscapedParentRef child then .error (.reference .elemMatch)
    else resolveValueNode parent false child
  | .logical =>
    match child with
    | .array clauses => (resolveClauses parent key clauses).map .array
    | _ => resolveValueNode parent false child
  | .operator => resolveValueNode parent false child
  | .field => resolveValueNode parent true child

theorem resolveObjectEntries_cons (key : String) (child : Value) (rest : Entries) :
    resolveObjectEntries parent ((key, child) :: rest) =
      resolveEntry parent key child >>= fun value =>
        resolveObjectEntries parent rest >>= fun values => .ok (putKey key value values) := by
  unfold resolveEntry
  exact resolveObjectEntries.eq_def parent ((key, child) :: rest)

/-- A clause that is neither a marker nor an escape is entered when it is an object. -/
def resolveClause (clause : Value) : Except Thrown Value :=
  match clause with
  | .object entries => (resolveObjectEntries parent entries).map .object
  | value => .ok value

theorem resolveClauses_cons (key : String) (clause : Value) (rest : List Value) :
    resolveClauses parent key (clause :: rest) =
      (if isParentRefMarker clause || isEscapedParentRef clause then
          .error (.reference (.clause key))
        else resolveClause parent clause) >>= fun value =>
        resolveClauses parent key rest >>= fun values => .ok (value :: values) := by
  unfold resolveClause
  exact resolveClauses.eq_def parent key (clause :: rest)

def scanClause (clause : Value) : List CorrelatedTemplateIssue :=
  match clause with
  | .object entries => scanTemplateObjectEntries path entries
  | _ => []

theorem scanTemplateClauses_cons (key : String) (index : Nat) (clause : Value)
    (rest : List Value) :
    scanTemplateClauses key path index (clause :: rest) =
      (if isParentRefMarker clause || isEscapedParentRef clause then
          [clauseIssue key (path ++ [.index index])]
        else scanClause (path ++ [.index index]) clause) ++
        scanTemplateClauses key path (index + 1) rest := by
  unfold scanClause
  exact scanTemplateClauses.eq_def key path index (clause :: rest)

end Equations

section Validation

theorem resolveItems_safe {items : List Value}
    (node : ∀ item ∈ items, ∀ path parent bare, scanTemplateValueNode path item = [] →
      Safe (resolveValueNode parent bare item))
    (path : List PathSegment) (index : Nat) (parent : Value)
    (clean : scanTemplateItems path index items = []) : Safe (resolveItems parent items) := by
  induction items generalizing index with
  | nil => exact safe_ok []
  | cons item rest ih =>
    obtain ⟨first, later⟩ := List.forall_mem_cons.mp node
    rw [scanTemplateItems, List.append_eq_nil_iff] at clean
    rw [resolveItems]
    refine (first _ parent false clean.1).bind fun value => ?_
    exact (ih later _ clean.2).bind fun values => safe_ok _

theorem resolveClauses_safe {clauses : List Value}
    (fields : ∀ entries, .object entries ∈ clauses → ∀ path parent,
      scanTemplateObjectEntries path entries = [] → Safe (resolveObjectEntries parent entries))
    (key : String) (path : List PathSegment) (index : Nat) (parent : Value)
    (clean : scanTemplateClauses key path index clauses = []) :
    Safe (resolveClauses parent key clauses) := by
  induction clauses generalizing index with
  | nil => exact safe_ok []
  | cons clause rest ih =>
    rw [scanTemplateClauses_cons, List.append_eq_nil_iff] at clean
    obtain ⟨here, after⟩ := clean
    have later := ih (fun entries member => fields entries (List.mem_cons_of_mem _ member)) _ after
    rw [resolveClauses_cons]
    split_ifs at here ⊢ with carrier
    refine Safe.bind ?_ fun value => later.bind fun values => safe_ok _
    cases clause with
    | object entries => exact (fields entries List.mem_cons_self _ parent here).map _
    | _ => exact safe_ok _

/-- A template without issues meets no error, at whatever parent it is resolved. -/
theorem resolve_safe :
    (∀ template path parent bare, scanTemplateValueNode path template = [] →
      Safe (resolveValueNode parent bare template)) ∧
    ∀ entries path parent, scanTemplateObjectEntries path entries = [] →
      Safe (resolveObjectEntries parent entries) := by
  refine template_induction ?array ?object ?other ?nil ?cons
  case array =>
    intro items ih path parent bare clean
    rw [resolveValueNode_array]
    exact (resolveItems_safe ih path 0 parent clean).map _
  case object =>
    intro entries ih path parent bare clean
    rw [scanTemplateValueNode] at clean
    rw [resolveValueNode]
    cases escape : escapePayload (.object entries) with
    | some payload =>
      simp only [escape] at clean ⊢
      cases literal : escapedPath payload with
      | some path => exact safe_ok _
      | none => simp [literal] at clean
    | none =>
      simp only [escape] at clean ⊢
      cases marker : parentRef (.object entries) with
      | some reference =>
        simp only [marker] at clean ⊢
        have valid : isValidParentRefPath reference = true := by
          by_contra invalid
          simp [invalid] at clean
        exact (substitute_safe valid).map _
      | none =>
        simp only [marker] at clean ⊢
        split_ifs at clean ⊢
        exact (ih path parent clean).map _
  case other =>
    intro value notArray notObject path parent bare _
    rw [resolveValueNode_other parent bare notArray notObject]
    exact safe_ok value
  case nil =>
    intro path parent _
    exact safe_ok []
  case cons =>
    intro key child rest node clauses later path parent clean
    rw [scanTemplateObjectEntries_cons, List.append_eq_nil_iff] at clean
    obtain ⟨here, after⟩ := clean
    rw [resolveObjectEntries_cons]
    unfold scanEntry at here
    unfold resolveEntry
    refine Safe.bind ?_ fun value => (later path parent after).bind fun values => safe_ok _
    cases role : keyRole key with
    | parent => simp [role] at here
    | payload | forbidden =>
      simp only [role] at here ⊢
      split_ifs at here ⊢
      exact safe_ok child
    | elemMatch =>
      simp only [role] at here ⊢
      split_ifs at here ⊢
      exact node _ parent false here
    | logical =>
      simp only [role] at here ⊢
      cases child with
      | array items =>
        exact (resolveClauses_safe (clauses items rfl) key _ 0 parent here).map _
      | _ => exact node _ parent false here
    | operator =>
      simp only [role] at here ⊢
      exact node _ parent false here
    | field =>
      simp only [role] at here ⊢
      exact node _ parent true here

theorem clean_of_resolveItems {items : List Value}
    (node : ∀ item ∈ items, ∀ path parent bare value,
      resolveValueNode parent bare item = .ok value → scanTemplateValueNode path item = [])
    (path : List PathSegment) (index : Nat) (parent : Value) (values : List Value)
    (resolved : resolveItems parent items = .ok values) :
    scanTemplateItems path index items = [] := by
  induction items generalizing index values with
  | nil => rfl
  | cons item rest ih =>
    obtain ⟨first, later⟩ := List.forall_mem_cons.mp node
    rw [resolveItems] at resolved
    obtain ⟨value, here, resolved⟩ := bind_eq_ok resolved
    obtain ⟨values, after, _⟩ := bind_eq_ok resolved
    rw [scanTemplateItems, first _ parent false value here, ih later _ values after]
    rfl

theorem clean_of_resolveClauses {clauses : List Value}
    (fields : ∀ entries, .object entries ∈ clauses → ∀ path parent values,
      resolveObjectEntries parent entries = .ok values → scanTemplateObjectEntries path entries = [])
    (key : String) (path : List PathSegment) (index : Nat) (parent : Value) (values : List Value)
    (resolved : resolveClauses parent key clauses = .ok values) :
    scanTemplateClauses key path index clauses = [] := by
  induction clauses generalizing index values with
  | nil => rfl
  | cons clause rest ih =>
    rw [resolveClauses_cons] at resolved
    obtain ⟨value, here, resolved⟩ := bind_eq_ok resolved
    obtain ⟨values, after, _⟩ := bind_eq_ok resolved
    have later := ih (fun entries member => fields entries (List.mem_cons_of_mem _ member))
      (index + 1) values after
    rw [scanTemplateClauses_cons, later, List.append_nil]
    split_ifs at here ⊢
    cases clause with
    | object entries =>
      obtain ⟨values', inner, _⟩ := map_eq_ok here
      exact fields entries List.mem_cons_self _ parent values' inner
    | _ => rfl

/-- What resolves at some parent has no issue. -/
theorem clean_of_resolve :
    (∀ template path parent bare value, resolveValueNode parent bare template = .ok value →
      scanTemplateValueNode path template = []) ∧
    ∀ entries path parent values, resolveObjectEntries parent entries = .ok values →
      scanTemplateObjectEntries path entries = [] := by
  refine template_induction ?array ?object ?other ?nil ?cons
  case array =>
    intro items ih path parent bare value resolved
    rw [resolveValueNode_array] at resolved
    obtain ⟨values, inner, _⟩ := map_eq_ok resolved
    exact clean_of_resolveItems ih path 0 parent values inner
  case object =>
    intro entries ih path parent bare value resolved
    rw [resolveValueNode] at resolved
    rw [scanTemplateValueNode]
    cases escape : escapePayload (.object entries) with
    | some payload =>
      simp only [escape] at resolved ⊢
      cases literal : escapedPath payload with
      | some path => rfl
      | none => simp [literal] at resolved
    | none =>
      simp only [escape] at resolved ⊢
      cases marker : parentRef (.object entries) with
      | some reference =>
        simp only [marker] at resolved ⊢
        obtain ⟨source, read, _⟩ := map_eq_ok resolved
        rw [if_pos (valid_of_substitute read)]
      | none =>
        simp only [marker] at resolved ⊢
        split_ifs at resolved ⊢
        obtain ⟨values, inner, _⟩ := map_eq_ok resolved
        exact ih path parent values inner
  case other =>
    intro value notArray notObject path parent bare _ _
    exact scanTemplateValueNode_other path notArray notObject
  case nil =>
    intro path parent _ _
    rfl
  case cons =>
    intro key child rest node clauses later path parent values resolved
    rw [resolveObjectEntries_cons] at resolved
    obtain ⟨value, here, resolved⟩ := bind_eq_ok resolved
    obtain ⟨values, after, _⟩ := bind_eq_ok resolved
    rw [scanTemplateObjectEntries_cons, later path parent values after, List.append_nil]
    unfold resolveEntry at here
    unfold scanEntry
    cases role : keyRole key with
    | parent => simp [role] at here
    | payload | forbidden =>
      simp only [role] at here ⊢
      split_ifs at here ⊢
      rfl
    | elemMatch =>
      simp only [role] at here ⊢
      split_ifs at here ⊢
      exact node _ parent false value here
    | logical =>
      simp only [role] at here ⊢
      cases child with
      | array items =>
        obtain ⟨values', inner, _⟩ := map_eq_ok here
        exact clean_of_resolveClauses (clauses items rfl) key _ 0 parent values' inner
      | _ => exact node _ parent false value here
    | operator =>
      simp only [role] at here ⊢
      exact node _ parent false value here
    | field =>
      simp only [role] at here ⊢
      exact node _ parent true value here

theorem settle_eq_error {α : Type} {result : Except Thrown α} {fault : ReferenceFault}
    (failed : settle result = .error fault) : result = .error (.reference fault) := by
  unfold settle at failed
  split at failed
  · contradiction
  · contradiction
  · rw [Except.error.inj failed]

theorem settle_eq_resolved {α : Type} {result : Except Thrown α} {value : α}
    (resolved : settle result = .ok (.resolved value)) : result = .ok value := by
  unfold settle at resolved
  split at resolved
  · simpa using resolved
  · simp at resolved
  · contradiction

/-- The validator and the resolver agree on every template: without issues no parent makes
the resolver throw an error, with an issue no parent resolves it. -/
theorem validator_agrees_with_resolver (filter : Value) :
    (validateCorrelatedFilterTemplate filter = [] → ∀ parent fault,
      resolveCorrelatedFilterTemplate filter parent ≠ .error fault) ∧
    (validateCorrelatedFilterTemplate filter ≠ [] → ∀ parent value,
      resolveCorrelatedFilterTemplate filter parent ≠ .ok (.resolved value)) := by
  cases filter with
  | object entries =>
    unfold validateCorrelatedFilterTemplate resolveCorrelatedFilterTemplate
    by_cases carrier : (isParentRefMarker (.object entries) ||
        isEscapedParentRef (.object entries)) = true
    · simp [carrier, settle]
    · simp only [carrier, if_false, Bool.false_eq_true]
      constructor
      · intro clean parent fault failed
        exact (resolve_safe.2 entries [] parent clean).map Value.object fault
          (settle_eq_error failed)
      · intro issues parent value resolved
        obtain ⟨values, inner, _⟩ := map_eq_ok (settle_eq_resolved resolved)
        exact issues (clean_of_resolve.2 entries [] parent values inner)
  | _ => simp [validateCorrelatedFilterTemplate, resolveCorrelatedFilterTemplate, settle]

end Validation

section Collection

/-- The two parents read alike at every path. -/
def Agree (parent other : Value) (paths : List String) : Prop :=
  ∀ path ∈ paths, getOwnPathValue parent path = getOwnPathValue other path

variable {parent other : Value}

theorem agree_append (first second : List String) :
    Agree parent other (first ++ second) ↔ Agree parent other first ∧ Agree parent other second := by
  simp only [Agree, List.forall_mem_append]

theorem substitute_agree {reference : Value}
    (agree : ∀ path, reference = .string path →
      getOwnPathValue parent path = getOwnPathValue other path) :
    substitute parent reference = substitute other reference := by
  unfold substitute
  split
  · rename_i path
    rw [agree path rfl]
  · rfl

theorem referencePaths_object {entries : Entries} (reference : parentRef (.object entries) = none)
    (escape : escapePayload (.object entries) = none) :
    referencePaths (.object entries) = referencePathsEntries entries := by
  rw [referencePaths, reference, isEscapedParentRef_eq_false escape]
  rfl

theorem referencePathsEntries_cons (key : String) (child : Value) (rest : Entries) :
    referencePathsEntries ((key, child) :: rest) =
      (if subqueryPayloadKeys.contains key || markerForbiddenOperatorKeys.contains key then []
        else referencePaths child) ++ referencePathsEntries rest := by
  conv_lhs => unfold referencePathsEntries

/-- The collector skips a key only where the resolver does not look for markers. -/
theorem skipped_iff (key : String) (ordinary : key ≠ parentMarkerKey) :
    (subqueryPayloadKeys.contains key || markerForbiddenOperatorKeys.contains key) = true ↔
      keyRole key = .payload ∨ keyRole key = .forbidden := by
  unfold keyRole
  rw [if_neg ordinary, Bool.or_eq_true]
  split_ifs with payload forbidden elemMatch logical operator <;> simp_all

theorem resolveItems_agree {items : List Value}
    (node : ∀ item ∈ items, ∀ bare, Agree parent other (referencePaths item) →
      resolveValueNode parent bare item = resolveValueNode other bare item)
    (agree : Agree parent other (referencePathsItems items)) :
    resolveItems parent items = resolveItems other items := by
  induction items with
  | nil => rfl
  | cons item rest ih =>
    obtain ⟨first, later⟩ := List.forall_mem_cons.mp node
    rw [referencePathsItems, agree_append] at agree
    rw [resolveItems, resolveItems, first false agree.1, ih later agree.2]

theorem resolveClauses_agree {clauses : List Value}
    (fields : ∀ entries, .object entries ∈ clauses →
      Agree parent other (referencePathsEntries entries) →
      resolveObjectEntries parent entries = resolveObjectEntries other entries)
    (key : String) (agree : Agree parent other (referencePathsItems clauses)) :
    resolveClauses parent key clauses = resolveClauses other key clauses := by
  induction clauses with
  | nil => rfl
  | cons clause rest ih =>
    rw [referencePathsItems, agree_append] at agree
    have later := ih (fun entries member => fields entries (List.mem_cons_of_mem _ member))
      agree.2
    rw [resolveClauses_cons, resolveClauses_cons, later]
    split_ifs with carrier
    · rfl
    · cases clause with
      | object entries =>
        simp only [Bool.or_eq_true, not_or, Bool.not_eq_true, isParentRefMarker,
          isEscapedParentRef, Option.isSome_eq_false_iff, Option.isNone_iff_eq_none] at carrier
        have here := agree.1
        rw [referencePaths_object carrier.1 carrier.2] at here
        rw [resolveClause, resolveClause, fields entries List.mem_cons_self here]
      | _ => rfl

/-- Parents that agree on the collected paths resolve a template alike. -/
theorem resolve_agree :
    (∀ template bare, Agree parent other (referencePaths template) →
      resolveValueNode parent bare template = resolveValueNode other bare template) ∧
    ∀ entries, Agree parent other (referencePathsEntries entries) →
      resolveObjectEntries parent entries = resolveObjectEntries other entries := by
  refine template_induction ?array ?object ?other ?nil ?cons
  case array =>
    intro items ih bare agree
    rw [resolveValueNode_array, resolveValueNode_array, resolveItems_agree ih agree]
  case object =>
    intro entries ih bare agree
    rw [resolveValueNode, resolveValueNode]
    cases escape : escapePayload (.object entries) with
    | some payload => rfl
    | none =>
      cases marker : parentRef (.object entries) with
      | some reference =>
        simp only
        rw [substitute_agree]
        rintro path rfl
        refine agree path ?_
        rw [referencePaths, marker]
        exact List.mem_singleton.mpr rfl
      | none =>
        rw [referencePaths_object marker escape] at agree
        simp only [ih agree]
  case other =>
    intro value notArray notObject bare _
    rw [resolveValueNode_other parent bare notArray notObject,
      resolveValueNode_other other bare notArray notObject]
  case nil =>
    intro _
    rfl
  case cons =>
    intro key child rest node clauses later agree
    rw [referencePathsEntries_cons, agree_append] at agree
    rw [resolveObjectEntries_cons, resolveObjectEntries_cons, later agree.2]
    have entry : resolveEntry parent key child = resolveEntry other key child := by
      unfold resolveEntry
      cases role : keyRole key with
      | parent | payload | forbidden => rfl
      | elemMatch | logical | operator | field =>
        have ordinary : key ≠ parentMarkerKey := by
          rintro rfl
          exact absurd role (by decide)
        have visited : ¬ (subqueryPayloadKeys.contains key ||
            markerForbiddenOperatorKeys.contains key) = true := by
          rw [skipped_iff key ordinary, role]
          decide
        rw [if_neg visited] at agree
        have whole := fun bare => node bare agree.1
        cases child with
        | array items =>
          simp only [whole, resolveClauses_agree (clauses items rfl) key agree.1]
        | _ => simp only [whole]
    rw [entry]

theorem mem_collectCorrelatedReferencePaths (entry : CorrelatedInclude) (path : String) :
    path ∈ collectCorrelatedReferencePaths entry ↔
      parentRef entry.id = some (.string path) ∨ path ∈ referencePaths entry.filter := by
  unfold collectCorrelatedReferencePaths
  rw [List.mem_eraseDups, List.mem_append]
  refine or_congr ?_ ?_
  · split
    · rename_i own same
      rw [same]
      simp [eq_comm]
    · rename_i other
      constructor
      · intro member
        contradiction
      · intro same
        exact absurd same (other path)
  · split
    · rename_i same
      rw [same]
      rfl
    · rfl

theorem resolveCorrelatedIdTemplate_agree {id : Value}
    (agree : ∀ path, parentRef id = some (.string path) →
      getOwnPathValue parent path = getOwnPathValue other path) :
    resolveCorrelatedIdTemplate id parent = resolveCorrelatedIdTemplate id other := by
  unfold resolveCorrelatedIdTemplate
  cases id with
  | string text => rfl
  | _ =>
    simp only
    split
    · rename_i path same
      rw [agree path same]
    · rfl
    · rfl

/-- Reference collection is complete: nothing else of a parent shows in what an include
resolves to, be it a value, a failure to resolve or an error. -/
theorem resolution_depends_on_collected_paths (entry : CorrelatedInclude) (parent other : Value)
    (agree : ∀ path ∈ collectCorrelatedReferencePaths entry,
      getOwnPathValue parent path = getOwnPathValue other path) :
    resolveCorrelatedFilterTemplate entry.filter parent =
        resolveCorrelatedFilterTemplate entry.filter other ∧
      resolveCorrelatedIdTemplate entry.id parent = resolveCorrelatedIdTemplate entry.id other := by
  simp only [mem_collectCorrelatedReferencePaths] at agree
  constructor
  · unfold resolveCorrelatedFilterTemplate
    cases filter : entry.filter with
    | object entries =>
      rw [filter] at agree
      simp only
      split_ifs with carrier
      · rfl
      · simp only [Bool.or_eq_true, not_or, Bool.not_eq_true, isParentRefMarker,
          isEscapedParentRef, Option.isSome_eq_false_iff, Option.isNone_iff_eq_none] at carrier
        rw [resolve_agree.2 entries fun path member => agree path (Or.inr (by
          rwa [referencePaths_object carrier.1 carrier.2]))]
    | _ => rfl
  · exact resolveCorrelatedIdTemplate_agree fun path same => agree path (Or.inl same)

theorem resolution_depends_on_collected_paths_owner :
    resolveCorrelatedFilterTemplate
        (.object [("owner", .object [("$parent", .string "team.lead")])])
        (.object [("team", .object [("lead", .string "a")]), ("note", .string "x")]) =
      resolveCorrelatedFilterTemplate
        (.object [("owner", .object [("$parent", .string "team.lead")])])
        (.object [("team", .object [("lead", .string "a")]), ("note", .string "y")]) ∧
    resolveCorrelatedIdTemplate .undefined
        (.object [("team", .object [("lead", .string "a")]), ("note", .string "x")]) =
      resolveCorrelatedIdTemplate .undefined
        (.object [("team", .object [("lead", .string "a")]), ("note", .string "y")]) := by
  refine resolution_depends_on_collected_paths
    ⟨.undefined, .object [("owner", .object [("$parent", .string "team.lead")])]⟩ _ _ ?_
  have collected : collectCorrelatedReferencePaths
      ⟨.undefined, .object [("owner", .object [("$parent", .string "team.lead")])]⟩ =
      ["team.lead"] := by
    rfl
  rw [collected]
  exact List.forall_mem_singleton.mpr rfl

end Collection

end WebTsToolkit.AccessRouter.Correlated
