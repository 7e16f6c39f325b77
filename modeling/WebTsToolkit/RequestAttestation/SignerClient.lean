import WebTsToolkit.Library.TransitionSystem
import WebTsToolkit.RequestAttestation.Verify

set_option autoImplicit false

namespace WebTsToolkit.RequestAttestation

open Library

/-- What is thrown: a `SignerClientError` with its code and message, or any other value. -/
inductive SignerFault where
  | client (code message : String)
  | other (identity : Nat)
  deriving DecidableEq

namespace SignerFault

def superseded : SignerFault :=
  .client "SIGNER_LOAD_FAILED" "Signer load was superseded."

def timeout : SignerFault :=
  .client "SIGNER_LOAD_TIMEOUT" "Signer load timed out."

def isTimeout : SignerFault → Bool
  | .client code _ => code == "SIGNER_LOAD_TIMEOUT"
  | .other _ => false

end SignerFault

/-- An imported signer. Its `keyId` is `none` where reading it throws. -/
structure RequestSigner where
  identity : Nat
  keyId : Option String
  deriving DecidableEq

/-- What two discoveries are compared by. -/
structure ValidatedMetadata where
  keyId : String
  signerUrl : String
  deriving DecidableEq

def isRetirementRetryCandidate : SignerFault → Bool
  | .client code _ => code == "SIGNER_LOAD_FAILED" || code == "SIGNER_MODULE_INVALID"
  | .other _ => false

abbrev LoadOutcome := Except SignerFault RequestSigner

/-- What a load waits for. -/
inductive LoadStage where
  | fetchFirst
  | importFirst (first : ValidatedMetadata)
  | fetchSecond (first : ValidatedMetadata) (importError : SignerFault)
  | importSecond
  | finished (outcome : LoadOutcome)

namespace LoadStage

/-- A discovery is over. -/
def fetched (aborted : Bool) : LoadStage → Except SignerFault ValidatedMetadata → Option LoadStage
  | .fetchFirst, .ok first => some (.importFirst first)
  | .fetchFirst, .error fault => some (.finished (.error fault))
  | .fetchSecond _ _, .error fault => some (.finished (.error fault))
  | .fetchSecond first importError, .ok second =>
    if second.keyId = first.keyId ∧ second.signerUrl = first.signerUrl then
      some (.finished (.error importError))
    else if aborted then some (.finished (.error importError))
    else some .importSecond
  | _, _ => none

/-- An import is over. -/
def imported (aborted : Bool) : LoadStage → LoadOutcome → Option LoadStage
  | .importFirst _, .ok signer => some (.finished (.ok signer))
  | .importFirst first, .error fault =>
    if !isRetirementRetryCandidate fault then some (.finished (.error fault))
    else if aborted then some (.finished (.error fault))
    else some (.fetchSecond first fault)
  | .importSecond, outcome => some (.finished outcome)
  | _, _ => none

def outcome : LoadStage → Option LoadOutcome
  | .finished outcome => some outcome
  | _ => none

end LoadStage

/-- A load: what its race has been decided as, and what its callers got. -/
structure SignerLoad where
  generation : Nat
  aborted : Bool
  timer : Bool
  stage : LoadStage
  raced : Option LoadOutcome
  settled : Option LoadOutcome

/-- What happened. A load is known by its number, and an invalidation is one that had an effect. -/
inductive SignerFact where
  | started (load : Nat)
  | joined (load : Nat)
  | served (signer : RequestSigner)
  | installed (load : Nat) (signer : RequestSigner)
  | invalidated
  | disposed
  | timedOut (load : Nat)
  deriving DecidableEq

/-- The state of one client. `starting` are the loads whose first fetch is being called, the
innermost first: such a call may come back to the client before its load is pending. -/
structure SignerClient where
  active : Option RequestSigner
  pending : Option Nat
  starting : List Nat
  pendingGeneration : Nat
  generation : Nat
  disposed : Bool
  currentAborter : Option Nat
  awaitingReplacement : Bool
  loads : List SignerLoad
  facts : List SignerFact

/-- Each event runs without interruption. Between the start of a load and its launch only the calls
come that `fetch` makes. -/
inductive SignerEvent where
  | getSigner
  | launched
  | invalidate (observedKeyId : String)
  | dispose
  | fetched (load : Nat) (result : Except SignerFault ValidatedMetadata)
  | imported (load : Nat) (result : LoadOutcome)
  | timedOut (load : Nat)
  | reacted (load : Nat)

namespace SignerClient

def note (state : SignerClient) (fact : SignerFact) : SignerClient :=
  { state with facts := state.facts ++ [fact] }

def setLoad (state : SignerClient) (number : Nat) (load : SignerLoad) : SignerClient :=
  { state with loads := state.loads.set number load }

/-- `startLoad` up to its call of `fetch`. -/
def startLoad (state : SignerClient) : SignerClient :=
  let load : SignerLoad := {
    generation := state.generation
    aborted := false
    timer := true
    stage := .fetchFirst
    raced := none
    settled := none }
  { state with
    pendingGeneration := state.generation
    currentAborter := some state.loads.length
    starting := state.loads.length :: state.starting
    loads := state.loads ++ [load]
    facts := state.facts ++ [.started state.loads.length] }

/-- The rest of `startLoad`, once `fetch` has returned a promise. -/
def launched (state : SignerClient) : Option SignerClient :=
  match state.starting with
  | [] => none
  | number :: starting => some { state with pending := some number, starting }

/-- `getSigner`, which throws where the client is disposed. -/
def getSigner (state : SignerClient) : SignerClient :=
  if state.disposed then state
  else
    match state.active with
    | some signer => state.note (.served signer)
    | none =>
      match state.pending with
      | some number =>
        if state.pendingGeneration = state.generation then state.note (.joined number)
        else { state with pending := none }.startLoad
      | none => state.startLoad

/-- The invalidation where it has an effect. -/
def supersede (state : SignerClient) : SignerClient :=
  { state with
    active := none
    awaitingReplacement := true
    generation := state.generation + 1
    pending := none
    facts := state.facts ++ [.invalidated] }

def invalidate (state : SignerClient) (observedKeyId : String) : SignerClient :=
  if state.disposed then state
  else if !isToken 64 observedKeyId then state
  else
    match state.active with
    | some signer => if signer.keyId = some observedKeyId then state.supersede else state
    | none => if state.awaitingReplacement then state else state.supersede

/-- `currentAborter.abort()`. -/
def abort (state : SignerClient) (number : Nat) : SignerClient :=
  { state with loads := state.loads.modify number fun load => { load with aborted := true } }

def dispose (state : SignerClient) : SignerClient :=
  if state.disposed then state
  else
    let aborted := match state.currentAborter with
      | some number => state.abort number
      | none => state
    { aborted with
      disposed := true
      active := none
      awaitingReplacement := false
      generation := state.generation + 1
      currentAborter := none
      pending := none
      facts := state.facts ++ [.disposed] }

def releaseLoad (state : SignerClient) (number : Nat) (load : SignerLoad) : SignerClient :=
  { state.setLoad number { load with timer := false } with
    pending := if state.pending = some number then none else state.pending
    currentAborter := if state.currentAborter = some number then none else state.currentAborter }

/-- The reaction of `tracked` to a race that was decided. -/
def react (state : SignerClient) (number : Nat) (load : SignerLoad) (outcome : LoadOutcome) :
    SignerClient :=
  let ownsGeneration := state.pending == some number && load.generation == state.generation
  match outcome with
  | .ok signer =>
    if state.disposed || !ownsGeneration then
      state.releaseLoad number { load with settled := some (.error .superseded) }
    else { state.releaseLoad number { load with settled := some (.ok signer) } with
      active := some signer
      awaitingReplacement := false
      facts := state.facts ++ [.installed number signer] }
  | .error fault =>
    let released := state.releaseLoad number { load with settled := some (.error fault) }
    if ownsGeneration && fault.isTimeout then
      { released with generation := state.generation + 1 }
    else released

/-- A load goes on, and its outcome decides its race where nothing did. -/
def advance (state : SignerClient) (number : Nat) (load : SignerLoad) (stage : LoadStage) :
    SignerClient :=
  state.setLoad number { load with stage, raced := load.raced.or stage.outcome }

/-- The timer of a load, which aborts its discovery. -/
def expire (state : SignerClient) (number : Nat) (load : SignerLoad) : SignerClient :=
  (state.setLoad number { load with
    aborted := true, timer := false
    raced := load.raced.or (some (.error .timeout)) }).note (.timedOut number)

/-- A load that may go on, as no code of the client runs. -/
def idleLoad (state : SignerClient) (number : Nat) : Option SignerLoad :=
  if state.starting.isEmpty then state.loads[number]? else none

/-- No reaction is queued: a timer only fires then. -/
def isQuiescent (state : SignerClient) : Bool :=
  state.loads.all fun load => load.raced.isNone || load.settled.isSome

def step (state : SignerClient) : SignerEvent → Option SignerClient
  | .getSigner => some state.getSigner
  | .launched => state.launched
  | .invalidate observedKeyId => some (state.invalidate observedKeyId)
  | .dispose => some state.dispose
  | .fetched number result =>
    (state.idleLoad number).bind fun load =>
      (load.stage.fetched load.aborted result).map fun stage => state.advance number load stage
  | .imported number result =>
    (state.idleLoad number).bind fun load =>
      (load.stage.imported load.aborted result).map fun stage => state.advance number load stage
  | .timedOut number =>
    (state.idleLoad number).bind fun load =>
      if load.timer && state.isQuiescent then some (state.expire number load) else none
  | .reacted number =>
    (state.idleLoad number).bind fun load =>
      match load.raced, load.settled with
      | some outcome, none => some (state.react number load outcome)
      | _, _ => none

/-- `fetch` asks the client for no signer, unless that is disposed. -/
def FetchStaysOut (state : SignerClient) : SignerEvent → Prop
  | .getSigner => state.starting = [] ∨ state.disposed = true
  | _ => True

instance : DecidableRel FetchStaysOut := fun state event =>
  match event with
  | .getSigner => inferInstanceAs (Decidable (state.starting = [] ∨ state.disposed = true))
  | .launched | .invalidate _ | .dispose | .fetched _ _ | .imported _ _ | .timedOut _
  | .reacted _ => isTrue trivial

/-- What happened after a load started. -/
def since (number : Nat) : List SignerFact → Option (List SignerFact)
  | [] => none
  | fact :: facts => if fact = .started number then some facts else since number facts

/-- An effective invalidation, or the disposal. -/
def supersedes : SignerFact → Bool
  | .invalidated => true
  | .disposed => true
  | _ => false

/-- Something superseded a load since it started. -/
def superseded (number : Nat) (facts : List SignerFact) : Bool :=
  ((since number facts).getD []).any supersedes

/-- The last invalidation is not followed by a new signer yet. -/
def awaits (facts : List SignerFact) : Bool :=
  facts.foldl (fun awaiting fact =>
    match fact with
    | .invalidated => true
    | .installed _ _ => false
    | _ => awaiting) false

theorem since_isSome_iff (number : Nat) (facts : List SignerFact) :
    (since number facts).isSome = true ↔ .started number ∈ facts := by
  induction facts with
  | nil => simp [since]
  | cons first facts ih =>
    unfold since
    split
    · next same =>
      rw [same]
      simp
    · next other =>
      rw [ih, List.mem_cons]
      constructor
      · exact Or.inr
      · intro member
        rcases member with same | later
        · exact absurd same.symm other
        · exact later

theorem since_cons (number : Nat) (fact : SignerFact) (facts : List SignerFact) :
    since number (fact :: facts) =
      if fact = .started number then some facts else since number facts := rfl

theorem since_append (number : Nat) (facts new : List SignerFact) :
    since number (facts ++ new) =
      ((since number facts).map fun after => after ++ new).or (since number new) := by
  induction facts with
  | nil => rfl
  | cons first facts ih =>
    rw [List.cons_append, since_cons, since_cons]
    split
    · rfl
    · exact ih

variable {facts : List SignerFact} {number : Nat}

/-- A load that was started is superseded by what supersedes it. -/
theorem superseded_append (started : .started number ∈ facts) (fact : SignerFact) :
    superseded number (facts ++ [fact]) = (superseded number facts || supersedes fact) := by
  have isSome := (since_isSome_iff number facts).mpr started
  obtain ⟨after, found⟩ := Option.isSome_iff_exists.mp isSome
  unfold superseded
  rw [since_append, found]
  simp

/-- A load that starts is not superseded. -/
theorem superseded_started (fresh : .started number ∉ facts) :
    superseded number (facts ++ [.started number]) = false := by
  have none_ : since number facts = none := by
    apply Option.not_isSome_iff_eq_none.mp
    intro isSome
    exact fresh ((since_isSome_iff number facts).mp isSome)
  unfold superseded
  rw [since_append, none_]
  simp [since]

theorem awaits_append (facts : List SignerFact) (fact : SignerFact) :
    awaits (facts ++ [fact]) =
      match fact with
      | .invalidated => true
      | .installed _ _ => false
      | _ => awaits facts := by
  unfold awaits
  rw [List.foldl_append]
  rfl

/-- The load is pending or about to be. -/
def Opened (state : SignerClient) (number : Nat) : Prop :=
  state.pending = some number ∨ state.starting = [number]

/-- The load that callers join. -/
def Current (state : SignerClient) (number : Nat) : Prop :=
  state.Opened number ∧ state.pendingGeneration = state.generation

structure LoadOk (state : SignerClient) (number : Nat) (load : SignerLoad) : Prop where
  started : .started number ∈ state.facts
  free : load.settled = none → superseded number state.facts = false → state.Current number
  raced : load.settled.isSome = true → load.raced.isSome = true
  timer : load.settled.isSome = true → load.timer = false
  timedOut : .timedOut number ∈ state.facts → load.raced = some (.error .timeout)
  resolved : ∀ signer, load.settled = some (.ok signer) → .installed number signer ∈ state.facts

structure CurrentOk (state : SignerClient) (number : Nat) : Prop where
  active : state.active = none
  aborter : state.currentAborter = some number
  current : superseded number state.facts = false

/-- Why a signer was installed. -/
structure InstalledOk (before : List SignerFact) (number : Nat) : Prop where
  started : .started number ∈ before
  current : superseded number before = false
  inTime : .timedOut number ∉ before

/-- What happened goes with what the client keeps of it. -/
structure LogOk (state : SignerClient) : Prop where
  known : ∀ number, .started number ∈ state.facts ∨ .timedOut number ∈ state.facts →
    number < state.loads.length
  closed : state.disposed = true ↔ .disposed ∈ state.facts
  awaiting : state.disposed = false → state.awaitingReplacement = awaits state.facts
  installed : ∀ before number signer after,
    state.facts = before ++ .installed number signer :: after → InstalledOk before number
  alternate : ∀ before after, state.facts = before ++ .invalidated :: after →
    awaits before = false

structure Inv (state : SignerClient) : Prop extends LogOk state where
  loads : ∀ number load, state.loads[number]? = some load → LoadOk state number load
  opened : ∀ number, state.Opened number → ∃ load, state.loads[number]? = some load ∧
    load.settled = none ∧ load.generation = state.pendingGeneration
  alone : state.starting = [] ∨ ∃ number, state.starting = [number] ∧ state.pending = none
  behind : state.pendingGeneration ≤ state.generation
  current : ∀ number, state.Current number → CurrentOk state number
  empty : state.disposed = true → state.active = none ∧ ∀ number, ¬state.Current number
  absent : state.awaitingReplacement = true → state.active = none

variable {state next : SignerClient} {fact : SignerFact}

theorem LoadOk.change {load : SignerLoad} (ok : LoadOk state number load)
    (grown : next.facts = state.facts ++ [fact])
    (current : state.Current number → supersedes fact = false → next.Current number)
    (inTime : fact = .timedOut number → load.raced = some (.error .timeout) := by nofun) :
    LoadOk next number load := by
  refine { ok with started := ?_, free := ?_, timedOut := ?_, resolved := ?_ }
  · rw [grown]
    exact List.mem_append_left _ ok.started
  · intro unsettled still
    rw [grown, superseded_append ok.started, Bool.or_eq_false_iff] at still
    exact current (ok.free unsettled still.1) still.2
  · intro happened
    rw [grown] at happened
    rcases List.mem_append.mp happened with before | now
    · exact ok.timedOut before
    · exact inTime (List.mem_singleton.mp now).symm
  · intro signer settled
    rw [grown]
    exact List.mem_append_left _ (ok.resolved signer settled)

/-- A fact that is the last of a list, or stands before it. -/
theorem split_append {facts before after : List SignerFact} {fact found : SignerFact}
    (same : facts ++ [fact] = before ++ found :: after) :
    (∃ rest, after = rest ++ [fact] ∧ facts = before ++ found :: rest) ∨
      (facts = before ∧ fact = found) := by
  rcases List.eq_nil_or_concat after with none_ | some_
  · rw [none_] at same
    obtain ⟨first, last⟩ := List.append_inj' same rfl
    exact Or.inr ⟨first, List.singleton_inj.mp last⟩
  · obtain ⟨rest, last, isLast⟩ := some_
    rw [isLast, List.concat_eq_append, ← List.cons_append, ← List.append_assoc] at same
    obtain ⟨first, lasts⟩ := List.append_inj' same rfl
    rw [isLast, List.concat_eq_append, ← List.singleton_inj.mp lasts]
    exact Or.inl ⟨rest, rfl, first⟩

/-- What a fact is added for. -/
def FactOk (state next : SignerClient) : SignerFact → Prop
  | .started number => number < next.loads.length
  | .timedOut number => number < next.loads.length
  | .installed number _ => InstalledOk state.facts number
  | .invalidated => awaits state.facts = false
  | _ => True

theorem LogOk.add (ok : LogOk state) (fact : SignerFact)
    (awaiting : next.disposed = false → next.awaitingReplacement =
      match fact with
      | .invalidated => true
      | .installed _ _ => false
      | _ => state.awaitingReplacement)
    (new : FactOk state next fact)
    (grown : next.facts = state.facts ++ [fact] := by rfl)
    (size : state.loads.length ≤ next.loads.length := by exact Nat.le_refl _)
    (closed : next.disposed = (fact == .disposed || state.disposed) := by rfl) : LogOk next where
  known number happened := by
    have before (known : number < state.loads.length) : number < next.loads.length :=
      Nat.lt_of_lt_of_le known size
    rw [grown] at happened
    simp only [List.mem_append, List.mem_singleton] at happened
    rcases happened with (old | rfl) | (old | rfl)
    · exact before (ok.known number (Or.inl old))
    · exact new
    · exact before (ok.known number (Or.inr old))
    · exact new
  closed := by
    rw [closed, grown, Bool.or_eq_true, ok.closed, beq_iff_eq, List.mem_append,
      List.mem_singleton, or_comm, eq_comm]
  awaiting live := by
    rw [closed, Bool.or_eq_false_iff] at live
    rw [awaiting (closed.trans (Bool.or_eq_false_iff.mpr live)), grown, awaits_append,
      ok.awaiting live.2]
  installed before number signer after split := by
    rw [grown] at split
    rcases split_append split with ⟨rest, _, same⟩ | ⟨rfl, rfl⟩
    · exact ok.installed before number signer rest same
    · exact new
  alternate before after split := by
    rw [grown] at split
    rcases split_append split with ⟨rest, _, same⟩ | ⟨rfl, rfl⟩
    · exact ok.alternate before rest same
    · exact new

end SignerClient

/-- One client under any order of calls and completions. -/
def signerClient : TransitionSystem SignerClient SignerEvent where
  start := {
    active := none
    pending := none
    starting := []
    pendingGeneration := 0
    generation := 0
    disposed := false
    currentAborter := none
    awaitingReplacement := false
    loads := []
    facts := [] }
  step := SignerClient.step

end WebTsToolkit.RequestAttestation
