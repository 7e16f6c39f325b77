import WebTsToolkit.AccessRouter.ServiceAuthorization
import WebTsToolkit.Library.Outcome

set_option autoImplicit false

namespace WebTsToolkit.AccessRouter

open Js FieldCatalog ServicePolicy Library

/-- How a call was issued: by `resolveServiceAuthorization` itself, by the write entry, as the
output of a write, or over the edge of a derivation. -/
inductive Issue where
  | resolved (input : ResolveServiceAuthorizationInput)
  | entry (input : ResolveServiceAuthorizationInput) (origin : WriteOperation)
  | output (parent : Nat) (branch : WriteOutputBranch)
  | derived (input : ResolveServiceAuthorizationInput)

/-- The call that a call was issued from. -/
def Issue.parent : Issue → Option Nat
  | .resolved input => input.parent
  | .entry _ _ => none
  | .output parent _ => some parent
  | .derived input => input.parent

def Issue.branch : Issue → Option WriteOutputBranch
  | .output _ branch => some branch
  | _ => none

/-- The calls with the history of their issue. -/
structure Issuance where
  calls : Calls
  issues : List Issue

inductive IssueEvent where
  | resolve (input : ResolveServiceAuthorizationInput) (admission : Admission)
  | resolveWrite (input : ResolveServiceAuthorizationInput) (origin : WriteOperation)
      (admission : Admission)
  | deriveWriteOutput (parent : Nat) (binding : AuthorizationBinding) (branch : WriteOutputBranch)
  | deriveQuery (input : ResolveServiceAuthorizationInput)

namespace Issuance

/-- `storeCallRecord` of a new call. -/
def issue (state : Issuance) (record : CallRecord) (how : Issue) : Issuance where
  calls := { state.calls with records := state.calls.records ++ [record] }
  issues := state.issues ++ [how]

/-- `resolveServiceAuthorization`, with what is stored for the call that it resolved. -/
def resolve (state : Issuance) (input : ResolveServiceAuthorizationInput) (admission : Admission)
    (stored : CallRecord × Bool → CallRecord × Issue) : Issuance :=
  match state.calls.assertParent input with
  | .error _ => state
  | .ok parent =>
    let actor := state.calls.actorPermissions input parent
    let captured := { state with calls := actor.1 }
    match actor.1.resolveRecord input parent actor.2 admission with
    | .error _ => captured
    | .ok resolved => captured.issue (stored resolved).1 (stored resolved).2

/-- One call of an issuer. A rejected one issues nothing. -/
def step (state : Issuance) : IssueEvent → Issuance
  | .resolve input admission =>
    state.resolve input admission fun resolved =>
      (resolved.1, if resolved.2 then .derived input else .resolved input)
  | .resolveWrite input origin admission =>
    if Calls.writeEntry input origin then
      state.resolve input admission fun resolved =>
        ({ resolved.1 with writeOrigin := some origin }, .entry input origin)
    else state
  | .deriveWriteOutput parent binding branch =>
    match state.calls.writeOutputRecord parent binding branch with
    | .ok record => state.issue record (.output parent branch)
    | .error _ => state
  | .deriveQuery input =>
    match state.calls.deriveQueryAuthorization input with
    | .ok (some record) => state.issue record (.derived input)
    | _ => state

def start : Issuance where
  calls := { records := [], captures := 0 }
  issues := []

end Issuance

/-- Any sequence of calls of the issuers. -/
def issuance : TransitionSystem Issuance IssueEvent where
  start := .start
  step := fun state event => some (state.step event)

variable {calls : Calls} {input : ResolveServiceAuthorizationInput} {record parent : CallRecord}
  {call : Nat} {result : Unit} {binding : AuthorizationBinding} {how : Issue} {state : Issuance}
  {above : Option CallRecord} {origin : WriteOperation}

theorem callRecord_eq_ok (found : calls.callRecord call = .ok record) :
    calls.records[call]? = some record := by
  unfold Calls.callRecord at found
  split at found
  · next listed => rw [listed, Except.ok.inj found]
  · contradiction

/-- A check that only throws. -/
theorem check_eq_ok {refused : Bool} {fault : AuthorizationFault}
    (passed : (if refused then (.error fault : Except AuthorizationFault Unit) else .ok ()) =
      .ok result) : refused = false := by
  cases refused with
  | false => rfl
  | true => contradiction

theorem assertAuthorizationBinding_eq_ok
    (checked : calls.assertAuthorizationBinding call binding = .ok result) :
    ∃ record, calls.records[call]? = some record ∧ record.binding.matches_ binding = true := by
  obtain ⟨record, found, checked⟩ := bind_eq_ok checked
  refine ⟨record, callRecord_eq_ok found, ?_⟩
  have passed := check_eq_ok checked
  rw [Bool.not_eq_false'] at passed
  exact passed

/-- A call keeps what its parent is bound to. -/
structure Inherits (parent record : CallRecord) : Prop where
  request : record.binding.request = parent.binding.request
  runtime : record.binding.runtime = parent.binding.runtime
  permissions : record.permissions = parent.permissions
  provenance : record.provenance = parent.provenance

theorem assertDerivedCall_eq_ok {one other : AuthorizationBinding}
    (checked : Calls.assertDerivedCall one other = .ok result) :
    other.request = one.request ∧ other.runtime = one.runtime := by
  have passed := check_eq_ok checked
  rw [Bool.or_eq_false_iff, bne_eq_false_iff_eq, bne_eq_false_iff_eq] at passed
  exact ⟨passed.1.symm, passed.2.symm⟩

/-- The policy that a parent gives a related call: its own entry, or one that grants nothing. -/
def relatedPolicy (parent : CallRecord) (path : String) : NormalizedServiceAuthorization :=
  ((parent.policy.related.lookup path).map NormalizedRelatedAuthorization.policy).getD requestPolicy

/-- What a call over an edge has of its parent. -/
inductive Edge (calls : Calls) (input : ResolveServiceAuthorizationInput) (call : Nat)
    (parent : CallRecord) (path : Option String) : EdgeKind → CallRecord → Prop where
  | embedded (longer : parent.binding.scope.length < input.binding.scope.length)
      (inside : parent.binding.scope <+: input.binding.scope)
      (model : input.binding.model = parent.binding.model ∧
        input.binding.modelName = parent.binding.modelName)
      (access : input.access.agreesWith parent.access = true)
      (output : isCatalogOutputPath parent.output.catalog
        (".".intercalate input.binding.scope) = true) :
      Edge calls input call parent path .embedded
        (Calls.sameModelRecord input call parent .embedded)
  | retry (origin : parent.queryOrigin = some .read) (access : input.access.queryOutputAccess = true)
      (model : input.binding.model = parent.binding.model ∧
        input.binding.modelName = parent.binding.modelName)
      (scope : input.binding.scope = parent.binding.scope) :
      Edge calls input call parent path .retry (Calls.sameModelRecord input call parent .retry)
  | related {record : CallRecord} (target : AuthorizationRelatedTarget)
      (member : target ∈ parent.relatedTargets) (named : some target.path = path)
      (modelName : input.binding.modelName = target.modelName)
      (scope : input.binding.scope = [])
      (kind : target.kind ≠ some .count)
      (policy : record.policy = relatedPolicy parent target.path)
      (made : calls.relatedRecord input parent target = .ok record) :
      Edge calls input call parent path .related record

theorem relatedRecord_policy {target : AuthorizationRelatedTarget}
    (made : calls.relatedRecord input parent target = .ok record) :
    record.policy = relatedPolicy parent target.path := by
  obtain ⟨policy, found, same⟩ := bind_eq_ok made
  rw [← Except.ok.inj same]
  unfold relatedPolicy
  unfold Calls.targetPolicy at found
  split at found
  · next entry listed =>
    rw [listed]
    exact (Except.ok.inj found).symm
  · next missing =>
    rw [missing]
    exact (Except.ok.inj found).symm

theorem relatedEdge_eq_ok {path : Option String} {target : AuthorizationRelatedTarget}
    (found : Calls.relatedEdge parent binding path = .ok target) :
    target ∈ parent.relatedTargets ∧ some target.path = path ∧
      binding.modelName = target.modelName ∧ binding.scope = [] := by
  unfold Calls.relatedEdge at found
  split at found
  · contradiction
  · next candidate listed =>
    split at found
    · contradiction
    · next passed =>
      rw [← Except.ok.inj found]
      simp only [Bool.or_eq_true, bne_iff_ne, Bool.not_eq_true', not_or, not_not,
        Bool.not_eq_false, List.isEmpty_iff] at passed
      have named := List.find?_some listed
      exact ⟨List.mem_of_find?_eq_some listed, eq_of_beq named, passed.1.1.symm, passed.2⟩

theorem embeddedEdge_eq_ok {access : AuthorizationAccess}
    (checked : Calls.embeddedEdge parent binding access = .ok result) :
    parent.binding.scope.length < binding.scope.length ∧
      parent.binding.scope <+: binding.scope ∧ access.agreesWith parent.access = true ∧
      isCatalogOutputPath parent.output.catalog (".".intercalate binding.scope) = true := by
  unfold Calls.embeddedEdge at checked
  split at checked
  · contradiction
  · next inside =>
    split at checked
    · contradiction
    · next output =>
      simp only [Bool.or_eq_true, decide_eq_true_eq, Bool.not_eq_true', not_or,
        Nat.not_le, Bool.not_eq_false] at inside output
      exact ⟨inside.1.1, List.isPrefixOf_iff_prefix.mp inside.1.2, inside.2, output⟩

theorem matches_iff {expected binding : AuthorizationBinding} :
    expected.matches_ binding = true ↔ expected.request = binding.request ∧
      expected.runtime = binding.runtime ∧ expected.model = binding.model ∧
      expected.modelName = binding.modelName ∧ expected.scope = binding.scope := by
  simp only [AuthorizationBinding.matches_, Bool.and_eq_true, beq_iff_eq, and_assoc]

/-- What `deriveQueryAuthorization` derives. -/
theorem deriveQueryAuthorization_eq_some
    (derived : calls.deriveQueryAuthorization input = .ok (some record)) :
    ∃ call edge parent, input.parent = some call ∧ input.snapshotDerivation = some edge ∧
      calls.records[call]? = some parent ∧ input.binding.request = parent.binding.request ∧
      input.binding.runtime = parent.binding.runtime ∧
      Edge calls input call parent edge.path edge.kind record := by
  unfold Calls.deriveQueryAuthorization at derived
  split at derived
  · next call edge from_ via =>
    obtain ⟨parent, found, derived⟩ := bind_eq_ok derived
    obtain ⟨_, _, derived⟩ := bind_eq_ok derived
    obtain ⟨_, same, derived⟩ := bind_eq_ok derived
    have listed := callRecord_eq_ok found
    obtain ⟨request, runtime⟩ := assertDerivedCall_eq_ok same
    have model {binding : AuthorizationBinding} {result : Unit}
        (checked : calls.assertAuthorizationBinding call binding = .ok result) :
        parent.binding.matches_ binding = true := by
      obtain ⟨other, listed', matched⟩ := assertAuthorizationBinding_eq_ok checked
      rw [listed] at listed'
      rw [Option.some.inj listed']
      exact matched
    refine ⟨call, edge, parent, from_, via, listed, request, runtime, ?_⟩
    split at derived
    · next kind =>
      obtain ⟨target, found, derived⟩ := bind_eq_ok derived
      split at derived
      · cases Except.ok.inj derived
      · next output =>
        obtain ⟨made, related, derived⟩ := bind_eq_ok derived
        have same := Option.some.inj (Except.ok.inj derived)
        obtain ⟨member, named, modelName, scope⟩ := relatedEdge_eq_ok found
        rw [same] at related
        rw [kind]
        exact .related target member named modelName scope output
          (relatedRecord_policy related) related
    · next kind =>
      obtain ⟨_, bound, derived⟩ := bind_eq_ok derived
      obtain ⟨_, inside, derived⟩ := bind_eq_ok derived
      obtain ⟨longer, within, access, output⟩ := embeddedEdge_eq_ok inside
      have matched := matches_iff.mp (model bound)
      rw [kind, ← Option.some.inj (Except.ok.inj derived)]
      exact .embedded longer within ⟨matched.2.2.1.symm, matched.2.2.2.1.symm⟩ access output
    · next kind =>
      split at derived
      · cases Except.ok.inj derived
      · next origin =>
        obtain ⟨_, _, derived⟩ := bind_eq_ok derived
        obtain ⟨_, bound, derived⟩ := bind_eq_ok derived
        have matched := matches_iff.mp (model bound)
        simp only [Bool.or_eq_true, bne_iff_ne, Bool.not_eq_true', not_or, not_not,
          Bool.not_eq_false] at origin
        rw [kind, ← Option.some.inj (Except.ok.inj derived)]
        exact .retry origin.1 origin.2 ⟨matched.2.2.1.symm, matched.2.2.2.1.symm⟩
          matched.2.2.2.2.symm
  · cases Except.ok.inj derived

/-- An entry for queries: parentless and unscoped, with an access that reads or lists and the
flag of its response. -/
structure QueryEntry (input : ResolveServiceAuthorizationInput) : Prop where
  parentless : input.parent = none
  unscoped : input.binding.scope = []
  service : input.applicability.getD .service = .service
  access : input.access.queryOutputAccess = true
  response : (input.access.operation = "read" ∧ input.readResponse = true) ∨
    (input.access.operation = "list" ∧ input.listResponse = true)

theorem queryEntry_of_isSome (found : (Calls.rootQueryOrigin input).isSome = true) :
    QueryEntry input := by
  unfold Calls.rootQueryOrigin at found
  split at found
  · next entry =>
    simp only [Bool.and_eq_true, Option.isNone_iff_eq_none, decide_eq_true_eq,
      List.isEmpty_iff] at entry
    refine ⟨entry.1.1.1, entry.1.2, entry.1.1.2, entry.2, ?_⟩
    split at found
    · next read =>
      rw [Bool.and_eq_true, beq_iff_eq] at read
      exact Or.inl ⟨read.2, read.1⟩
    · split at found
      · next list =>
        rw [Bool.and_eq_true, beq_iff_eq] at list
        exact Or.inr ⟨list.2, list.1⟩
      · contradiction
  · contradiction

/-- A call of the state, with its issue. -/
def Issuance.Listed (state : Issuance) (number : Nat) (record : CallRecord) (how : Issue) : Prop :=
  state.calls.records[number]? = some record ∧ state.issues[number]? = some how

/-- How the record of a call comes about, for each way to issue one. -/
inductive Genuine (state : Issuance) (number : Nat) (record : CallRecord) : Issue → Prop where
  | root {input : ResolveServiceAuthorizationInput} (parentless : input.parent = none)
      (provenance : record.provenance = number)
      (query : record.queryOrigin.isSome = true → QueryEntry input)
      (written : record.writeOrigin = none) (branch : record.writeOutputBranch = none)
      (mode : record.sourceMode = modeFor record.configuration record.queryOrigin) :
      Genuine state number record (.resolved input)
  | child {input : ResolveServiceAuthorizationInput} {call : Nat} {parent : CallRecord}
      {how : Issue} (parented : input.parent = some call) (before : call < number)
      (listed : state.Listed call parent how) (inherits : Inherits parent record)
      (query : record.queryOrigin = none)
      (written : ∀ origin, record.writeOrigin = some origin →
        parent.writeOrigin = some origin)
      (branch : record.writeOutputBranch = none)
      (mode : record.sourceMode = modeFor record.configuration record.queryOrigin) :
      Genuine state number record (.resolved input)
  | entry {input : ResolveServiceAuthorizationInput} {origin : WriteOperation}
      (parentless : input.parent = none)
      (provenance : record.provenance = number) (query : record.queryOrigin = none)
      (written : record.writeOrigin = some origin) (branch : record.writeOutputBranch = none)
      (mode : record.sourceMode = modeFor record.configuration record.queryOrigin) :
      Genuine state number record (.entry input origin)
  | output {call : Nat} {parent : CallRecord} {how : Issue} {branch : WriteOutputBranch}
      {origin : WriteOperation} (before : call < number)
      (listed : state.Listed call parent how) (inherits : Inherits parent record)
      (unbranched : parent.writeOutputBranch = none) (allowed : parent.writeOrigin = some origin)
      (same : origin = .upsert ∨ origin = branch.operation) (written : record.writeOrigin = none)
      (branched : record.writeOutputBranch = some branch) :
      Genuine state number record (.output call branch)
  | derived {input : ResolveServiceAuthorizationInput} {call : Nat} {edge : SnapshotDerivation}
      {parent : CallRecord} {how : Issue} {calls : Calls} (parented : input.parent = some call)
      (via : input.snapshotDerivation = some edge) (before : call < number)
      (listed : state.Listed call parent how)
      (request : input.binding.request = parent.binding.request)
      (runtime : input.binding.runtime = parent.binding.runtime)
      (edged : Edge calls input call parent edge.path edge.kind record) :
      Genuine state number record (.derived input)

/-- Calls are only added. -/
theorem Genuine.mono {state later : Issuance} {number : Nat}
    (genuine : Genuine state number record how)
    (kept : ∀ call parent how, state.Listed call parent how → later.Listed call parent how) :
    Genuine later number record how := by
  cases genuine with
  | root parentless provenance query written branch mode =>
    exact .root parentless provenance query written branch mode
  | child parented before listed inherits query written branch mode =>
    exact .child parented before (kept _ _ _ listed) inherits query written branch mode
  | entry parentless provenance query written branch mode =>
    exact .entry parentless provenance query written branch mode
  | output before listed inherits unbranched allowed same written branched =>
    exact .output before (kept _ _ _ listed) inherits unbranched allowed same written branched
  | derived parented via before listed request runtime edged =>
    exact .derived parented via before (kept _ _ _ listed) request runtime edged

/-- Every call of the state is genuine. -/
structure Issuance.Inv (state : Issuance) : Prop where
  paired : state.calls.records.length = state.issues.length
  genuine : ∀ number record how, state.Listed number record how → Genuine state number record how

theorem Issuance.listed_issue (inv : state.Inv) {number : Nat} {found : CallRecord}
    {foundHow : Issue} :
    (state.issue record how).Listed number found foundHow ↔
      state.Listed number found foundHow ∨
        (number = state.calls.records.length ∧ found = record ∧ foundHow = how) := by
  unfold Listed issue
  dsimp only
  rw [List.getElem?_append, List.getElem?_append, ← inv.paired]
  by_cases inside : number < state.calls.records.length
  · rw [if_pos inside, if_pos inside]
    constructor
    · exact Or.inl
    · intro listed
      rcases listed with listed | last
      · exact listed
      · omega
  · rw [if_neg inside, if_neg inside]
    constructor
    · intro listed
      have first := (List.getElem?_eq_some_iff.mp listed.1).1
      have here : number - state.calls.records.length = 0 := by
        rw [List.length_singleton] at first
        omega
      rw [here] at listed
      refine Or.inr ⟨by omega, (Option.some.inj listed.1).symm, (Option.some.inj listed.2).symm⟩
    · intro listed
      rcases listed with listed | last
      · have bound := (List.getElem?_eq_some_iff.mp listed.1).1
        omega
      · rw [last.1, Nat.sub_self, last.2.1, last.2.2]
        exact ⟨rfl, rfl⟩

/-- A new call that is genuine keeps the invariant. -/
theorem Issuance.Inv.issue (inv : state.Inv)
    (genuine : Genuine state state.calls.records.length record how) :
    (state.issue record how).Inv where
  paired := by
    show (state.calls.records ++ [record]).length = (state.issues ++ [how]).length
    rw [List.length_append, List.length_append, inv.paired]
    rfl
  genuine := by
    intro number found foundHow listed
    have kept : ∀ call parent how', state.Listed call parent how' →
        (state.issue record how).Listed call parent how' := by
      intro call parent how' before
      exact (listed_issue inv).mpr (Or.inl before)
    rcases (listed_issue inv).mp listed with before | last
    · exact (inv.genuine number found foundHow before).mono kept
    · rw [last.1, last.2.1, last.2.2]
      exact genuine.mono kept

/-- What `resolveServiceAuthorization` stores for a call that it issues itself. -/
structure Resolved (calls : Calls) (input : ResolveServiceAuthorizationInput)
    (parent : Option CallRecord) (permissions : AccessRouterPermissions) (record : CallRecord) :
    Prop where
  request : record.binding.request = input.binding.request
  runtime : record.binding.runtime = input.binding.runtime
  permissions : record.permissions = permissions
  provenance : record.provenance = (parent.map CallRecord.provenance).getD calls.next
  query : record.queryOrigin = Calls.rootQueryOrigin input
  written : record.writeOrigin = Calls.keptWriteOrigin input parent
  branch : record.writeOutputBranch = none
  mode : record.sourceMode = modeFor record.configuration record.queryOrigin

theorem resolvedRecord_eq_ok {permissions : AccessRouterPermissions}
    (made : calls.resolvedRecord input above permissions = .ok record) :
    Resolved calls input above permissions record := by
  obtain ⟨policy, _, made⟩ := bind_eq_ok made
  obtain ⟨_, _, made⟩ := bind_eq_ok made
  obtain ⟨_, _, made⟩ := bind_eq_ok made
  rw [← Except.ok.inj made]
  exact ⟨rfl, rfl, rfl, rfl, rfl, rfl, rfl, rfl⟩

theorem resolveRecord_eq_ok {permissions : AccessRouterPermissions} {admission : Admission}
    {edged : Bool}
    (made : calls.resolveRecord input above permissions admission = .ok (record, edged)) :
    (edged = true ∧ calls.deriveQueryAuthorization input = .ok (some record)) ∨
      (edged = false ∧ Resolved calls input above permissions record) := by
  obtain ⟨_, _, made⟩ := bind_eq_ok made
  obtain ⟨derived, found, made⟩ := bind_eq_ok made
  cases derived with
  | some other =>
    obtain ⟨same, kind⟩ := Prod.mk.inj (Except.ok.inj made)
    rw [same] at found
    exact Or.inl ⟨kind.symm, found⟩
  | none =>
    obtain ⟨_, _, made⟩ := bind_eq_ok made
    obtain ⟨other, resolved, made⟩ := bind_eq_ok made
    obtain ⟨same, kind⟩ := Prod.mk.inj (Except.ok.inj made)
    rw [same] at resolved
    exact Or.inr ⟨kind.symm, resolvedRecord_eq_ok resolved⟩

theorem assertParent_eq_ok (checked : calls.assertParent input = .ok above) :
    (input.parent = none ∧ above = none) ∨
      ∃ call parent, input.parent = some call ∧ above = some parent ∧
        calls.records[call]? = some parent ∧ input.binding.request = parent.binding.request ∧
        input.binding.runtime = parent.binding.runtime := by
  unfold Calls.assertParent at checked
  split at checked
  · next parentless => exact Or.inl ⟨parentless, (Except.ok.inj checked).symm⟩
  · next call parented =>
    obtain ⟨parent, found, checked⟩ := bind_eq_ok checked
    obtain ⟨_, same, checked⟩ := bind_eq_ok checked
    obtain ⟨request, runtime⟩ := assertDerivedCall_eq_ok same
    exact Or.inr ⟨call, parent, parented, (Except.ok.inj checked).symm, callRecord_eq_ok found,
      request, runtime⟩

theorem captureAuthorizationPermissions_records (calls : Calls)
    (permissions : AccessRouterPermissions) (outputOnly : Bool) :
    (calls.captureAuthorizationPermissions permissions outputOnly).1.records = calls.records := by
  unfold Calls.captureAuthorizationPermissions
  split
  · rfl
  · rfl
  · rfl

theorem actorPermissions_records (calls : Calls) (input : ResolveServiceAuthorizationInput)
    (above : Option CallRecord) :
    (calls.actorPermissions input above).1.records = calls.records := by
  cases above with
  | none => exact captureAuthorizationPermissions_records calls _ _
  | some parent => rfl

/-- A call that exists has an issue. -/
theorem Issuance.Inv.listed (inv : state.Inv) (found : state.calls.records[call]? = some record) :
    ∃ how, state.Listed call record how := by
  have inside := (List.getElem?_eq_some_iff.mp found).1
  rw [inv.paired] at inside
  exact ⟨state.issues[call], found, List.getElem?_eq_getElem inside⟩

theorem before_of_found (found : calls.records[call]? = some record) :
    call < calls.records.length :=
  (List.getElem?_eq_some_iff.mp found).1

/-- The capture of an actor changes no call. -/
theorem Issuance.Inv.captured (inv : state.Inv) {captured : Calls}
    (records : captured.records = state.calls.records) :
    ({ state with calls := captured } : Issuance).Inv where
  paired := by
    show captured.records.length = state.issues.length
    rw [records, inv.paired]
  genuine := by
    intro number record how listed
    unfold Listed at listed
    rw [records] at listed
    apply (inv.genuine number record how listed).mono
    intro call parent how' before
    show captured.records[call]? = some parent ∧ _
    rw [records]
    exact before

theorem genuine_of_derived (inv : state.Inv)
    (derived : state.calls.deriveQueryAuthorization input = .ok (some record)) :
    Genuine state state.calls.records.length record (.derived input) := by
  obtain ⟨call, edge, parent, parented, via, found, request, runtime, edged⟩ :=
    deriveQueryAuthorization_eq_some derived
  obtain ⟨how, listed⟩ := inv.listed found
  exact .derived parented via (before_of_found found) listed request runtime edged

theorem keptWriteOrigin_eq_some {parent : CallRecord}
    (kept : Calls.keptWriteOrigin input (some parent) = some origin) :
    parent.writeOrigin = some origin := by
  rw [Calls.keptWriteOrigin] at kept
  split at kept
  · next same =>
    simp only [Bool.and_eq_true, decide_eq_true_eq] at same
    rw [← Option.some.inj kept]
    exact same.1.1.1.1.1.1
  · contradiction

theorem rootQueryOrigin_of_parent (parented : input.parent = some call) :
    Calls.rootQueryOrigin input = none := by
  unfold Calls.rootQueryOrigin
  rw [parented]
  rfl

/-- What is stored for a call that was not derived over an edge. -/
theorem genuine_of_resolved (inv : state.Inv)
    (checked : state.calls.assertParent input = .ok above)
    (resolved : Resolved state.calls input above
      (state.calls.actorPermissions input above).2 record) :
    Genuine state state.calls.records.length record (.resolved input) := by
  rcases assertParent_eq_ok checked with root | child
  · obtain ⟨parentless, none_⟩ := root
    have provenance := resolved.provenance
    have written := resolved.written
    rw [none_] at provenance written
    apply Genuine.root parentless provenance
    · intro found
      rw [resolved.query] at found
      exact queryEntry_of_isSome found
    · exact written
    · exact resolved.branch
    · exact resolved.mode
  · obtain ⟨call, parent, parented, some_, found, request, runtime⟩ := child
    obtain ⟨how, listed⟩ := inv.listed found
    have provenance := resolved.provenance
    have written := resolved.written
    have permissions := resolved.permissions
    rw [some_] at provenance written permissions
    apply Genuine.child parented (before_of_found found) listed
    · exact ⟨resolved.request.trans request, resolved.runtime.trans runtime, permissions,
        provenance⟩
    · rw [resolved.query, rootQueryOrigin_of_parent parented]
    · intro origin kept
      exact keptWriteOrigin_eq_some (written.symm.trans kept)
    · exact resolved.branch
    · exact resolved.mode

theorem writeEntry_iff (entry : Calls.writeEntry input origin = true) :
    input.parent = none ∧ input.access.operation = origin.text := by
  unfold Calls.writeEntry AuthorizationAccess.writeBranchAccess at entry
  simp only [Bool.and_eq_true, Option.isNone_iff_eq_none, beq_iff_eq] at entry
  exact ⟨entry.1.1.1, entry.2.1.1.1.1⟩

/-- A write entry is no entry for queries. -/
theorem rootQueryOrigin_of_writeEntry (entry : Calls.writeEntry input origin = true) :
    Calls.rootQueryOrigin input = none := by
  cases found : Calls.rootQueryOrigin input with
  | none => rfl
  | some queryOrigin =>
    have isSome : (Calls.rootQueryOrigin input).isSome = true := by
      rw [found]
      rfl
    have query := queryEntry_of_isSome isSome
    have operation := (writeEntry_iff entry).2
    rcases query.response with read | list
    · rw [read.1] at operation
      cases origin <;> exact absurd operation (by decide)
    · rw [list.1] at operation
      cases origin <;> exact absurd operation (by decide)

/-- What `resolveWriteServiceAuthorization` stores. -/
theorem genuine_of_entry (entry : Calls.writeEntry input origin = true)
    (checked : state.calls.assertParent input = .ok above)
    (resolved : Resolved state.calls input above
      (state.calls.actorPermissions input above).2 record) :
    Genuine state state.calls.records.length { record with writeOrigin := some origin }
      (.entry input origin) := by
  have parentless := (writeEntry_iff entry).1
  rcases assertParent_eq_ok checked with root | child
  · have provenance := resolved.provenance
    rw [root.2] at provenance
    refine Genuine.entry parentless ?_ ?_ ?_ ?_ ?_
    · exact provenance
    · exact resolved.query.trans (rootQueryOrigin_of_writeEntry entry)
    · rfl
    · exact resolved.branch
    · exact resolved.mode
  · obtain ⟨call, parent, parented, _⟩ := child
    rw [parentless] at parented
    contradiction

theorem genuine_of_output (inv : state.Inv) {branch : WriteOutputBranch}
    (made : state.calls.writeOutputRecord call binding branch = .ok record) :
    Genuine state state.calls.records.length record (.output call branch) := by
  obtain ⟨_, _, made⟩ := bind_eq_ok made
  obtain ⟨parent, found, made⟩ := bind_eq_ok made
  have found := callRecord_eq_ok found
  split at made
  · contradiction
  · next origin allowed =>
    split at made
    · contradiction
    · next passed =>
      obtain ⟨how, listed⟩ := inv.listed found
      simp only [Bool.or_eq_true, Bool.and_eq_true, decide_eq_true_eq, not_or, not_and,
        Bool.not_eq_true, Option.isSome_eq_false_iff, Option.isNone_iff_eq_none,
        ne_eq, not_not] at passed
      rw [← Except.ok.inj made]
      refine Genuine.output (before_of_found found) listed ?_ passed.1.1.1 allowed ?_ rfl rfl
      · exact ⟨rfl, rfl, rfl, rfl⟩
      · by_cases upsert : origin = .upsert
        · exact Or.inl upsert
        · exact Or.inr (passed.1.2 upsert)

/-- A resolved call is stored as how it came about says. -/
theorem Issuance.Inv.resolve (inv : state.Inv) {admission : Admission}
    {stored : CallRecord × Bool → CallRecord × Issue}
    (derives : ∀ record, state.calls.deriveQueryAuthorization input = .ok (some record) →
      Genuine state state.calls.records.length (stored (record, true)).1 (stored (record, true)).2)
    (resolves : ∀ above record, state.calls.assertParent input = .ok above →
      Resolved state.calls input above (state.calls.actorPermissions input above).2 record →
      Genuine state state.calls.records.length (stored (record, false)).1
        (stored (record, false)).2) : (state.resolve input admission stored).Inv := by
  unfold Issuance.resolve
  split
  · exact inv
  · next above checked =>
    dsimp only
    have records := actorPermissions_records state.calls input above
    have captured := inv.captured records
    split
    · exact captured
    · next resolved made =>
      apply captured.issue
      have moved {number : Nat} {record : CallRecord} {how : Issue}
          (genuine : Genuine state number record how) :
          Genuine { state with calls := (state.calls.actorPermissions input above).1 } number
            record how := by
        apply genuine.mono
        intro call parent how' listed
        show (state.calls.actorPermissions input above).1.records[call]? = some parent ∧ _
        rw [records]
        exact listed
      show Genuine _ (state.calls.actorPermissions input above).1.records.length _ _
      rw [records]
      obtain ⟨record, edged⟩ := resolved
      rcases resolveRecord_eq_ok made with derived | own
      · rw [derived.1]
        apply moved
        apply derives
        have same : (state.calls.actorPermissions input above).1.deriveQueryAuthorization
            input = state.calls.deriveQueryAuthorization input := by
          unfold Calls.deriveQueryAuthorization Calls.assertAuthorizationBinding
            Calls.callRecord Calls.relatedRecord Calls.next
          rw [records]
        rw [← same]
        exact derived.2
      · rw [own.1]
        apply moved
        apply resolves above record checked
        have provenance := own.2.provenance
        unfold Calls.next at provenance
        rw [records] at provenance
        exact { own.2 with provenance := provenance }

theorem Issuance.inv_step (inv : state.Inv) (event : IssueEvent) : (state.step event).Inv := by
  cases event with
  | resolve input admission =>
    apply inv.resolve
    · intro record derived
      exact genuine_of_derived inv derived
    · intro above record checked resolved
      exact genuine_of_resolved inv checked resolved
  | resolveWrite input origin admission =>
    rw [step]
    split
    · next entry =>
      apply inv.resolve
      · intro record derived
        obtain ⟨call, _, _, parented, _⟩ := deriveQueryAuthorization_eq_some derived
        rw [(writeEntry_iff entry).1] at parented
        contradiction
      · intro above record checked resolved
        exact genuine_of_entry entry checked resolved
    · exact inv
  | deriveWriteOutput parent binding branch =>
    rw [step]
    split
    · next record made => exact inv.issue (genuine_of_output inv made)
    · exact inv
  | deriveQuery input =>
    rw [step]
    split
    · next record derived => exact inv.issue (genuine_of_derived inv derived)
    · exact inv

theorem inv_reachable (reached : issuance.Reachable state) : state.Inv := by
  apply reached.invariant
  · constructor
    · rfl
    · intro number record how listed
      exact absurd listed.1 (by simp [issuance, Issuance.start])
  · intro before event after inv taken
    rw [← Option.some.inj taken]
    exact Issuance.inv_step inv event

end WebTsToolkit.AccessRouter
