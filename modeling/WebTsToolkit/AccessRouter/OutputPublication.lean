import WebTsToolkit.AccessRouter.ServiceAuthorization

set_option autoImplicit false

namespace WebTsToolkit.AccessRouter

open Js ServicePolicy

/-- An error: one of the library, or any other. -/
inductive Failure where
  | controlled (fault : AuthorizationFault)
  | application (identity : Nat)

def closedPublication : Failure :=
  .controlled (.detail "closed output publication")

def closedStage : Failure :=
  .controlled (.detail "closed document stage")

/-- How a promise stands. -/
inductive Settlement (α : Type) where
  | pending
  | fulfilled (value : α)
  | rejected (error : Failure)

abbrev DocumentGrants := List (String × Bool)

namespace DocumentGrants

def protectedKeys : List String :=
  ["__proto__", "constructor", "prototype", "_doc", "$__", "__v", "_permissions", "_view", "_edit"]

def grantEntry (metadataField : String) (entry : String × Value) :
    Except AuthorizationFault (String × Bool) :=
  if protectedKeys.contains entry.1 || entry.1 == metadataField then
    .error (.detail "protected or symbol document grant key")
  else
    match entry.2 with
    | .bool granted => .ok (entry.1, granted)
    | _ => .error (.detail "document grants require enumerable literal boolean data properties")

/-- `normalizeDocumentGrants`, apart from the work that it debits. -/
def normalize (value : Value) (metadataField : String) : Except AuthorizationFault DocumentGrants :=
  match value with
  | .object entries =>
    if 20000 < entries.length + 1 then
      .error (.detail "document grants exceed structural limits")
    else entries.mapM (grantEntry metadataField)
  | _ => .error (.detail "document grants must be a plain boolean record")

end DocumentGrants

/-- Where a field decision stands. -/
inductive DecisionState where
  | pending
  | fulfilled
  | rejected
  deriving DecidableEq

/-- A decision; its promise is only made for a reader that needs one. -/
structure FieldDecision where
  state : DecisionState
  value : Option Bool
  promise : Option (Settlement Bool)

inductive StageState where
  | created
  | resolving
  | ready
  | building
  | closed
  deriving DecidableEq

/-- The part of a stage that is cleared in the end. The source is known by its identity, the
owning stage by its number. -/
structure StageContents where
  call : Nat
  binding : AuthorizationBinding
  access : AuthorizationAccess
  source : Nat
  borrowed : Bool
  result : Option (Settlement DocumentGrants)
  emptyHelperFacts : Bool
  grants : Option DocumentGrants
  decisions : List (String × FieldDecision)
  owning : Option (Nat × AuthorizationBinding)

structure StageRecord where
  state : StageState
  generation : Nat
  failure : Option Failure
  contents : Option StageContents

/-- A promise that an owner tracks: the result of a stage, a decision, or work of the library. -/
inductive TrackedWork where
  | result (stage : Nat)
  | decision (stage : Nat) (key : String)
  | library (number : Nat)
  deriving DecidableEq

/-- The record of an owner, with the numbers of the stages and the resources that it retains. -/
structure PublicationRecord where
  closed : Bool
  failure : Option Failure
  pending : List TrackedWork
  stages : List Nat
  resources : List Nat

namespace PublicationRecord

def new : PublicationRecord where
  closed := false
  failure := none
  pending := []
  stages := []
  resources := []

/-- `assertOutputPublication`. -/
def check (owner : PublicationRecord) : Except Failure Unit :=
  match owner.failure with
  | some failure => .error failure
  | none => if owner.closed then .error closedPublication else .ok ()

def isEmpty (owner : PublicationRecord) : Bool :=
  owner.closed && owner.pending.isEmpty && owner.stages.isEmpty && owner.resources.isEmpty

end PublicationRecord

namespace StageRecord

/-- `closeDocumentStage`. -/
def close (record : StageRecord) (error : Option Failure) (clear : Bool) : StageRecord where
  state := .closed
  generation := if record.state = .closed then record.generation else record.generation + 1
  failure := record.failure.or error
  contents := if clear then none else record.contents

end StageRecord

/-- What a new stage is asked for. An inherited source comes from the owning stage's. -/
structure StageRequest where
  call : Nat
  binding : AuthorizationBinding
  owning : Option (Nat × AuthorizationBinding)
  inherited : Bool

/-- Application code that runs, or whose promise is awaited: the hydration of a source, a grant
resolver, the predicate of a field. -/
inductive Activation where
  | hydrating (request : StageRequest)
  | resolving (stage generation : Nat)
  | deciding (stage : Nat) (binding : AuthorizationBinding) (key : String) (generation : Nat)

/-- How far `runOutputPublication` has come: not called, in its operation, in its first close, in
the close of its `catch`, over. -/
inductive Boundary where
  | idle
  | running
  | closing
  | closingAgain
  | published
  | failed
  deriving DecidableEq

/-- What happened. An answer is a boolean that a reader of a decision gets. -/
inductive PublicationFact where
  | stageCreated (stage : Nat)
  | resolverStarted (stage : Nat)
  | predicateStarted (stage : Nat) (key : String)
  | factsCommitted (stage : Nat)
  | decided (stage : Nat) (key : String) (value : Bool)
  | answered (stage : Nat) (key : String) (value : Bool)
  | tracked (work : TrackedWork)
  | finished (work : TrackedWork)
  | released (resource : Nat)
  deriving DecidableEq

/-- One owner with its stages. Application code that runs synchronously is stacked in `running`,
the innermost first. -/
structure Publication where
  owner : PublicationRecord
  stages : List StageRecord
  bound : List Nat
  running : List Activation
  awaiting : List Activation
  resourcesMade : Nat
  worksMade : Nat
  boundary : Boundary
  facts : List PublicationFact

namespace Publication

def note (state : Publication) (facts : List PublicationFact) : Publication :=
  { state with facts := state.facts ++ facts }

/-- The closers that the owner retains are called. -/
def closeStages (state : Publication) (error : Option Failure) (clear : Bool) : Publication :=
  { state with
    stages := state.stages.mapIdx fun number record =>
      if number ∈ state.owner.stages then record.close error clear else record }

/-- `failOutputPublication`. -/
def fail (state : Publication) (error : Option Failure) : Publication :=
  if state.owner.isEmpty then state
  else
    let failure := state.owner.failure.or
      (error.or (some (.controlled (.detail "output publication failed"))))
    ({ state with owner := { state.owner with failure, closed := true } }).closeStages failure false

/-- A change of the contents of a stage that is not cleared. -/
def modifyContents (state : Publication) (number : Nat) (change : StageContents → StageContents) :
    Publication :=
  { state with
    stages := state.stages.modify number fun record =>
      { record with contents := record.contents.map change } }

def track (state : Publication) (work : TrackedWork) : Publication :=
  { state with
    owner := { state.owner with pending := state.owner.pending ++ [work] }
    facts := state.facts ++ [.tracked work] }

/-- The handler of a tracked promise, when the promise has settled. -/
def untrack (state : Publication) (work : TrackedWork) : Publication :=
  { state with
    owner := { state.owner with pending := state.owner.pending.filter (· ≠ work) }
    facts := state.facts ++ [.finished work] }

end Publication

end WebTsToolkit.AccessRouter
