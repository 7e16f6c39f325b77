import WebTsToolkit.AccessRouter.CallLineage

set_option autoImplicit false

namespace WebTsToolkit.AccessRouter

open Js FieldCatalog ServicePolicy Library

/-- The chain of parents of a call, from its own issue to that of the root. -/
inductive Lineage (state : Issuance) : Nat → Nat → List Issue → Prop where
  | root {number : Nat} {how : Issue} (issued : state.issues[number]? = some how)
      (parentless : how.parent = none) : Lineage state number number [how]
  | child {number parent root : Nat} {how : Issue} {above : List Issue}
      (issued : state.issues[number]? = some how) (parented : how.parent = some parent)
      (rest : Lineage state parent root above) : Lineage state number root (how :: above)

/-- Issued over an embedded, a related or a retry edge. -/
def Issue.IsEdge : Issue → Prop
  | .derived _ => True
  | _ => False

/-- The edges above a call lead to such an issue. -/
def LeadsTo (lineage : List Issue) (source : Issue → Prop) : Prop :=
  ∃ edges how rest, lineage = edges ++ how :: rest ∧ (∀ edge ∈ edges, edge.IsEdge) ∧ source how

/-- A root that was resolved for a query. -/
def Issue.IsQueryRoot : Issue → Prop
  | .resolved input => QueryEntry input
  | _ => False

/-- What the authority of a call can be traced to. -/
structure Traceable (state : Issuance) (record : CallRecord) (root : Nat) (lineage : List Issue) :
    Prop where
  root : ∃ rootRecord, state.calls.records[root]? = some rootRecord ∧
    rootRecord.provenance = root ∧ Inherits rootRecord record
  query : record.queryOrigin.isSome = true →
    LeadsTo lineage fun how => how.IsQueryRoot ∨ how.branch.isSome = true
  branch : ∀ branch, record.writeOutputBranch = some branch →
    LeadsTo lineage (fun how => how.branch = some branch) ∧
      lineage.filterMap Issue.branch = [branch] ∧
      ∃ input origin, lineage.getLast? = some (.entry input origin) ∧
        (origin = .upsert ∨ origin = branch.operation)
  mode : record.sourceMode ≠ .isolated →
    record.queryOrigin.isSome = true ∨ record.writeOutputBranch.isSome = true

/-- What a call that was issued over an edge has of its parent. -/
def EdgeTraceable (state : Issuance) (record : CallRecord) : Issue → Prop
  | .derived input =>
    ∃ calls call edge parent, input.parent = some call ∧ input.snapshotDerivation = some edge ∧
      state.calls.records[call]? = some parent ∧
      Edge calls input call parent edge.path edge.kind record
  | _ => True

variable {state : Issuance} {record parent : CallRecord} {lineage : List Issue} {root : Nat}
  {how : Issue} {number : Nat} {input : ResolveServiceAuthorizationInput}

theorem LeadsTo.here {above : List Issue} {source : Issue → Prop} (holds : source how) :
    LeadsTo (how :: above) source :=
  ⟨[], how, above, rfl, fun _ member => absurd member List.not_mem_nil, holds⟩

theorem LeadsTo.edge {source : Issue → Prop} (edge : how.IsEdge) (above : LeadsTo lineage source) :
    LeadsTo (how :: lineage) source := by
  obtain ⟨edges, last, rest, same, each, holds⟩ := above
  refine ⟨how :: edges, last, rest, ?_, ?_, holds⟩
  · rw [same, List.cons_append]
  · intro other member
    rcases List.mem_cons.mp member with first | later
    · rw [first]
      exact edge
    · exact each other later

theorem LeadsTo.mono {source target : Issue → Prop} (leads : LeadsTo lineage source)
    (weaker : ∀ how, source how → target how) : LeadsTo lineage target := by
  obtain ⟨edges, how, rest, same, each, holds⟩ := leads
  exact ⟨edges, how, rest, same, each, weaker how holds⟩

/-- A write origin comes from the entry at the root, with no output of a write in between. -/
def WrittenFrom (record : CallRecord) (lineage : List Issue) : Prop :=
  ∀ origin, record.writeOrigin = some origin → lineage.filterMap Issue.branch = [] ∧
    ∃ input, lineage.getLast? = some (.entry input origin)

theorem Inherits.trans {first second third : CallRecord} (inherits : Inherits first second)
    (later : Inherits second third) : Inherits first third where
  request := later.request.trans inherits.request
  runtime := later.runtime.trans inherits.runtime
  permissions := later.permissions.trans inherits.permissions
  provenance := later.provenance.trans inherits.provenance

theorem Inherits.refl (record : CallRecord) : Inherits record record :=
  ⟨rfl, rfl, rfl, rfl⟩

theorem Traceable.root_child (traced : Traceable state parent root lineage)
    (inherits : Inherits parent record) : ∃ rootRecord,
      state.calls.records[root]? = some rootRecord ∧ rootRecord.provenance = root ∧
        Inherits rootRecord record := by
  obtain ⟨rootRecord, listed, provenance, above⟩ := traced.root
  exact ⟨rootRecord, listed, provenance, above.trans inherits⟩

theorem Lineage.ne_nil (chain : Lineage state number root lineage) : lineage ≠ [] := by
  cases chain with
  | root | child => exact List.cons_ne_nil _ _

theorem getLast?_cons_of_ne_nil (above : lineage ≠ []) :
    (how :: lineage).getLast? = lineage.getLast? := by
  cases lineage with
  | nil => exact absurd rfl above
  | cons first rest => exact List.getLast?_cons_cons

/-- What a record over an edge takes from its parent. -/
structure TakesFrom (parent record : CallRecord) : Prop where
  permissions : record.permissions = parent.permissions
  provenance : record.provenance = parent.provenance
  written : record.writeOrigin = none
  branch : record.writeOutputBranch = parent.writeOutputBranch
  query : record.queryOrigin.isSome = true →
    parent.queryOrigin.isSome = true ∨ parent.writeOutputBranch.isSome = true
  mode : record.sourceMode ≠ .isolated → record.queryOrigin.isSome = true ∨
    (record.sourceMode = parent.sourceMode ∧ record.queryOrigin = parent.queryOrigin)

theorem sourceMode_of_modeFor (mode : record.sourceMode =
    modeFor record.configuration record.queryOrigin) (trusted : record.sourceMode ≠ .isolated) :
    record.queryOrigin.isSome = true := by
  cases origin : record.queryOrigin with
  | none =>
    rw [origin] at mode
    exact absurd mode trusted
  | some queryOrigin => rfl

theorem relatedRecord_takes {calls : Calls} {target : AuthorizationRelatedTarget}
    (made : calls.relatedRecord input parent target = .ok record) :
    TakesFrom parent record ∧ record.binding.request = input.binding.request ∧
      record.binding.runtime = input.binding.runtime := by
  obtain ⟨policy, _, made⟩ := bind_eq_ok made
  have same := Except.ok.inj made
  subst same
  refine ⟨⟨rfl, rfl, rfl, rfl, ?_, ?_⟩, rfl, rfl⟩
  · intro queried
    dsimp only at queried
    split at queried
    · next origin =>
      simp only [Bool.or_eq_true, Bool.and_eq_true] at origin
      rcases origin with origin | origin
      · exact Or.inl origin.1
      · exact Or.inr origin.1
    · contradiction
  · intro trusted
    exact Or.inl (sourceMode_of_modeFor rfl trusted)

theorem Edge.takes {calls : Calls} {call : Nat} {path : Option String} {kind : EdgeKind}
    (edged : Edge calls input call parent path kind record) :
    TakesFrom parent record ∧ record.binding.request = input.binding.request ∧
      record.binding.runtime = input.binding.runtime := by
  cases edged with
  | embedded longer inside model access output | retry origin access model scope =>
    exact ⟨⟨rfl, rfl, rfl, rfl, Or.inl, fun _ => Or.inr ⟨rfl, rfl⟩⟩, rfl, rfl⟩
  | related target member named modelName scope kind policy made =>
    exact relatedRecord_takes made

/-- What holds of a call along its chain of parents. -/
structure Traced (state : Issuance) (record : CallRecord) (root : Nat) (lineage : List Issue) :
    Prop where
  traceable : Traceable state record root lineage
  written : WrittenFrom record lineage

/-- A call without parent. -/
theorem traced_root (found : state.calls.records[number]? = some record)
    (provenance : record.provenance = number)
    (query : record.queryOrigin.isSome = true → how.IsQueryRoot)
    (written : WrittenFrom record [how]) (branch : record.writeOutputBranch = none)
    (mode : record.sourceMode = modeFor record.configuration record.queryOrigin) :
    Traced state record number [how] where
  traceable :=
    { root := ⟨record, found, provenance, Inherits.refl record⟩
      query := fun queried => LeadsTo.here (Or.inl (query queried))
      branch := by
        intro branch' branched
        rw [branch] at branched
        contradiction
      mode := fun trusted => Or.inl (sourceMode_of_modeFor mode trusted) }
  written := written

/-- A call that is resolved below another keeps nothing but a write origin. -/
theorem traced_child (above : Traced state parent root lineage)
    (chain : Lineage state number root lineage) (inherits : Inherits parent record)
    (query : record.queryOrigin = none)
    (written : ∀ origin, record.writeOrigin = some origin → parent.writeOrigin = some origin)
    (branch : record.writeOutputBranch = none)
    (mode : record.sourceMode = modeFor record.configuration record.queryOrigin) :
    Traced state record root (.resolved input :: lineage) where
  traceable :=
    { root := above.traceable.root_child inherits
      query := by
        intro queried
        rw [query] at queried
        contradiction
      branch := by
        intro branch' branched
        rw [branch] at branched
        contradiction
      mode := fun trusted => Or.inl (sourceMode_of_modeFor mode trusted) }
  written := by
    intro origin kept
    obtain ⟨none_, entry, last⟩ := above.written origin (written origin kept)
    exact ⟨none_, entry, (getLast?_cons_of_ne_nil chain.ne_nil).trans last⟩

/-- The output of a write. -/
theorem traced_output {number call : Nat} {branch : WriteOutputBranch} {origin : WriteOperation}
    (above : Traced state parent root lineage) (chain : Lineage state number root lineage)
    (inherits : Inherits parent record) (allowed : parent.writeOrigin = some origin)
    (same : origin = .upsert ∨ origin = branch.operation) (written : record.writeOrigin = none)
    (branched : record.writeOutputBranch = some branch) :
    Traced state record root (.output call branch :: lineage) where
  traceable :=
    { root := above.traceable.root_child inherits
      query := fun _ => LeadsTo.here (Or.inr rfl)
      branch := by
        intro branch' branched'
        rw [branched] at branched'
        rw [← Option.some.inj branched']
        obtain ⟨none_, input, last⟩ := above.written origin allowed
        refine ⟨LeadsTo.here rfl, ?_, input, origin, ?_, same⟩
        · show branch :: lineage.filterMap Issue.branch = [branch]
          rw [none_]
        · exact (getLast?_cons_of_ne_nil chain.ne_nil).trans last
      mode := by
        intro _
        rw [branched]
        exact Or.inr rfl }
  written := by
    intro other kept
    rw [written] at kept
    contradiction

/-- A call over an edge. -/
theorem traced_edge (above : Traced state parent root lineage)
    (chain : Lineage state number root lineage) (inherits : Inherits parent record)
    (takes : TakesFrom parent record) :
    Traced state record root (.derived input :: lineage) where
  traceable :=
    { root := above.traceable.root_child inherits
      query := by
        intro queried
        apply LeadsTo.edge (show Issue.IsEdge (.derived input) from trivial)
        rcases takes.query queried with kept | branched
        · exact above.traceable.query kept
        · obtain ⟨branch, same⟩ := Option.isSome_iff_exists.mp branched
          apply (above.traceable.branch branch same).1.mono
          intro how holds
          rw [holds]
          exact Or.inr rfl
      branch := by
        intro branch branched
        rw [takes.branch] at branched
        obtain ⟨leads, only, entry, origin, last, same⟩ := above.traceable.branch branch branched
        exact ⟨leads.edge trivial, only, entry, origin,
          (getLast?_cons_of_ne_nil chain.ne_nil).trans last, same⟩
      mode := by
        intro trusted
        rcases takes.mode trusted with queried | kept
        · exact Or.inl queried
        · rw [kept.1] at trusted
          rw [kept.2, takes.branch]
          exact above.traceable.mode trusted }
  written := by
    intro origin kept
    rw [takes.written] at kept
    contradiction

/-- Every call has a chain of parents, along which its authority is traced. -/
theorem traced_of_listed (inv : state.Inv) (number : Nat) : ∀ record how,
    state.Listed number record how → ∃ root lineage, Lineage state number root lineage ∧
      Traced state record root lineage ∧ EdgeTraceable state record how := by
  induction number using Nat.strongRecOn with
  | ind number ih =>
    intro record how listed
    have genuine := inv.genuine number record how listed
    cases genuine with
    | @root input parentless provenance query written branch mode =>
      refine ⟨number, [.resolved input], Lineage.root listed.2 parentless, ?_, trivial⟩
      have isRoot : record.queryOrigin.isSome = true → Issue.IsQueryRoot (.resolved input) :=
        query
      apply traced_root listed.1 provenance isRoot ?_ branch mode
      intro origin kept
      rw [written] at kept
      contradiction
    | entry parentless provenance query written branch mode =>
      refine ⟨number, _, Lineage.root listed.2 rfl, ?_, trivial⟩
      apply traced_root listed.1 provenance ?_ ?_ branch mode
      · intro queried
        rw [query] at queried
        contradiction
      · intro origin kept
        rw [written] at kept
        rw [← Option.some.inj kept]
        exact ⟨rfl, _, rfl⟩
    | child parented before above inherits query written branch mode =>
      obtain ⟨root, lineage, chain, traced, _⟩ := ih _ before _ _ above
      exact ⟨root, _, Lineage.child listed.2 parented chain,
        traced_child traced chain inherits query written branch mode, trivial⟩
    | output before above inherits unbranched allowed same written branched =>
      obtain ⟨root, lineage, chain, traced, _⟩ := ih _ before _ _ above
      exact ⟨root, _, Lineage.child listed.2 rfl chain,
        traced_output traced chain inherits allowed same written branched, trivial⟩
    | derived parented via before above request runtime edged =>
      obtain ⟨root, lineage, chain, traced, _⟩ := ih _ before _ _ above
      obtain ⟨takes, sameRequest, sameRuntime⟩ := edged.takes
      have inherits : Inherits _ record :=
        ⟨sameRequest.trans request, sameRuntime.trans runtime, takes.permissions,
          takes.provenance⟩
      exact ⟨root, _, Lineage.child listed.2 parented chain,
        traced_edge traced chain inherits takes,
        ⟨_, _, _, _, parented, via, above.1, edged⟩⟩

/-- The authority of every issued call can be traced to a genuine entry. -/
theorem authority_traceable (state : Issuance) (reached : issuance.Reachable state) (number : Nat)
    (record : CallRecord) (issued : state.calls.records[number]? = some record) :
    ∃ how root lineage, state.issues[number]? = some how ∧ Lineage state number root lineage ∧
      Traceable state record root lineage ∧ EdgeTraceable state record how := by
  have inv := inv_reachable reached
  obtain ⟨how, listed⟩ := inv.listed issued
  obtain ⟨root, lineage, chain, traced, edge⟩ := traced_of_listed inv number record how listed
  exact ⟨how, root, lineage, listed.2, chain, traced.traceable, edge⟩

def exampleCatalog : AuthorizationFieldCatalog where
  paths := ["title"]
  persistedPaths := none
  arrayPaths := []
  schemaVirtualPaths := []
  metadataPaths := []
  dynamicPaths := []
  containerPaths := []
  virtualPaths := []
  virtualScopePaths := []
  opaquePaths := []
  referencePaths := []
  protectedPaths := []

def exampleConfiguration : AuthorizationConfiguration where
  catalog := exampleCatalog
  readAuthorizationMode := some .trusted
  listAuthorizationMode := none
  createAuthorizationMode := none
  updateAuthorizationMode := none
  documentPermissionField := none

def writeAccess (branch : WriteOutputBranch) : AuthorizationAccess where
  operation := "upsert"
  rowAccess := if branch = .update then some "update" else none
  virtualAccess := branch.text
  outputAccess := "read"
  docPermissionsAccess := branch.text

def readAccess : AuthorizationAccess where
  operation := "read"
  rowAccess := some "read"
  virtualAccess := "read"
  outputAccess := "read"
  docPermissionsAccess := "read"

def authorTarget : AuthorizationRelatedTarget where
  path := "author"
  modelName := "User"
  configuration := exampleConfiguration
  model := none
  kind := none
  relatedTargets := none

def exampleBinding (modelName : String) : AuthorizationBinding where
  request := 1
  runtime := 2
  model := 3
  modelName := modelName
  scopePath := none

def upsertInput : ResolveServiceAuthorizationInput where
  binding := exampleBinding "Post"
  access := writeAccess .update
  configuration := exampleConfiguration
  requestPermissions := .application 7 false
  authorization := .undefined
  applicability := some .mutation
  relatedTargets := some [authorTarget]
  parent := none
  listResponse := false
  readResponse := false
  snapshotDerivation := none

def createInput : ResolveServiceAuthorizationInput :=
  { upsertInput with
    access := writeAccess .create
    applicability := some .create
    parent := some 0
    snapshotDerivation :=
      some { kind := .retry, parentBinding := exampleBinding "Post", path := none } }

def authorInput : ResolveServiceAuthorizationInput :=
  { upsertInput with
    binding := exampleBinding "User"
    access := readAccess
    applicability := none
    parent := some 2
    snapshotDerivation :=
      some { kind := .related, parentBinding := exampleBinding "Post", path := some "author" } }

/-- An upsert that creates, and the author of its output. -/
def upsertEvents : List IssueEvent :=
  [.resolveWrite upsertInput .upsert { preflight := none, copies := none },
    .resolve createInput { preflight := none, copies := none },
    .deriveWriteOutput 1 (exampleBinding "Post") .create, .deriveQuery authorInput]

theorem authority_traceable_upsertEvents : ∃ state record,
    issuance.run upsertEvents = some state ∧ state.calls.records[3]? = some record ∧
      (record.queryOrigin, record.writeOutputBranch, record.sourceMode) =
        (some .read, some .create, .trusted) ∧
      ∃ how root lineage, state.issues[3]? = some how ∧ Lineage state 3 root lineage ∧
        Traceable state record root lineage ∧ EdgeTraceable state record how := by
  have ran : (issuance.run upsertEvents).bind (fun state => (state.calls.records[3]?).map
      fun record => (record.queryOrigin, record.writeOutputBranch, record.sourceMode)) =
        some (some .read, some .create, .trusted) := by
    decide +kernel
  obtain ⟨state, same, found⟩ := Option.bind_eq_some_iff.mp ran
  obtain ⟨record, listed, fields⟩ := Option.map_eq_some_iff.mp found
  exact ⟨state, record, same, listed, fields, authority_traceable state
    (TransitionSystem.Reachable.of_run same) 3 record listed⟩

end WebTsToolkit.AccessRouter
