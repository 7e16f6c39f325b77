import WebTsToolkit.Library.Outcome
import WebTsToolkit.Library.TransitionSystem
import WebTsToolkit.OidcVault.DpopReplayPolicy
import WebTsToolkit.OidcVaultMemory.DpopReplay

set_option autoImplicit false

namespace WebTsToolkit.OidcVaultMemory.DpopReplayOnce

open Js Library OidcVault Library.Ledger

/-- How far a call of `verifyAndReserve` has come. The store answers at once; its promise is
delivered later. -/
inductive Call where
  | verifying
  | reserving (request : ReplayRequest) (answer : Option Bool)
  | settled (request : Option ReplayRequest) (result : Except DpopFailure DpopReplayResult)

/-- All calls of all verifiers, and the store that they share. `lastReading` is the last finite
reading of the store's clock. -/
structure State where
  store : DpopReplayReservations
  lastReading : Option ℚ
  calls : List Call

/-- The verifiers have the same options and namespace; they differ in their clocks, which each
event reads anew. -/
inductive Event where
  | call
  /-- The preflight is over, with `none` where it threw, and the checks run up to the store. -/
  | verified (number : Nat) (verified : Option Value) (readings : Readings) (storeNow : Number)
  | deliver (number : Nat)

namespace State

def setCall (state : State) (number : Nat) (call : Call) : State :=
  { state with calls := state.calls.set number call }

/-- The answer of the store as the caller awaits it. -/
def answerOf : Except DpopReplayError Bool → Option Bool
  | .ok reserved => some reserved
  | .error _ => none

/-- `reserveDpopProof` of the memory store, at a reading that is not before an earlier one. -/
def reserve (state : State) (number : Nat) (request : ReplayRequest) (storeNow : Number) :
    Option State :=
  match request.replayKey with
  | none => some (state.setCall number (.reserving request none))
  | some replayKey =>
    let outcome := state.store.reserve (some replayKey) (.finite request.expiresAt) storeNow
    let called := { state with store := outcome.1 }.setCall number
      (.reserving request (answerOf outcome.2))
    match storeNow with
    | .finite now =>
      if state.lastReading.all (· ≤ now) then some { called with lastReading := some now }
      else none
    | _ => some called

variable (policy : ResolvedDeviceBindingOptions) (digest : String → String)
  (effectiveNamespace : List String)

def step (state : State) (event : Event) : Option State :=
  match event with
  | .call => some { state with calls := state.calls ++ [.verifying] }
  | .verified number verified readings storeNow =>
    match state.calls[number]? with
    | some .verifying =>
      match verified with
      | none => some (state.setCall number (.settled none (.error .preflight)))
      | some verified =>
        match policy.checkProof digest effectiveNamespace readings verified with
        | .error failure => some (state.setCall number (.settled none (.error failure)))
        | .ok (.challenge nonce) =>
          some (state.setCall number (.settled none (.ok (.nonceChallenge nonce))))
        | .ok (.reserve request) => state.reserve number request storeNow
    | _ => none
  | .deliver number =>
    match state.calls[number]? with
    | some (.reserving request answer) =>
      some (state.setCall number (.settled (some request) (policy.conclude request answer)))
    | _ => none

def start (maxEntries : Nat) : State where
  store := .new maxEntries
  lastReading := none
  calls := []

end State

/-- Any number of calls, in any order. -/
def system (policy : ResolvedDeviceBindingOptions) (digest : String → String)
    (effectiveNamespace : List String) (maxEntries : Nat) : TransitionSystem State Event where
  start := .start maxEntries
  step := State.step policy digest effectiveNamespace

/-- The request of a call that the store has admitted. -/
def Call.reserved : Call → Option ReplayRequest
  | .reserving request (some true) => some request
  | .settled (some request) (.ok (.accepted _ _ _)) => some request
  | _ => none

/-- The request that a call made, if any. -/
def Call.request : Call → Option ReplayRequest
  | .reserving request _ => some request
  | .settled request _ => request
  | .verifying => none

variable {policy : ResolvedDeviceBindingOptions} {digest : String → String}
  {effectiveNamespace : List String}

/-- A request is determined by the proof's key, identifier and time, and is in the window. -/
structure Proper (policy : ResolvedDeviceBindingOptions) (digest : String → String)
    (effectiveNamespace : List String) (request : ReplayRequest) : Prop where
  key : request.replayKey =
    createDpopReplayKey digest effectiveNamespace request.claims.jkt request.claims.jti
  expiry : request.expiresAt =
    (request.claims.iat + policy.proofMaxAgeSeconds + policy.clockSkewSeconds) * 1000
  notFuture : -policy.clockSkewSeconds * 1000 ≤ request.now - request.claims.iat * 1000
  notStale : request.now - request.claims.iat * 1000 <
    (policy.proofMaxAgeSeconds + policy.clockSkewSeconds) * 1000

theorem getDpopReplayExpiresAt_eq_some {iat now age skew expiresAt : Int}
    (found : getDpopReplayExpiresAt iat now age skew = some expiresAt) :
    expiresAt = (iat + age + skew) * 1000 ∧ iat * 1000 - now ≤ skew * 1000 ∧
      now < expiresAt := by
  rw [getDpopReplayExpiresAt] at found
  split at found
  · contradiction
  · simp only at found
    split at found
    · contradiction
    · next inside =>
      have same := Option.some.inj found
      simp only [Bool.or_eq_true, decide_eq_true_eq, not_or, not_lt, not_le] at inside
      omega

variable {request : ReplayRequest} {state : State} {number : Nat}

theorem proper_of_checkProof (freshness : policy.ignoreFreshnessFailure = false)
    {readings : Readings} {verified : Value}
    (checked : policy.checkProof digest effectiveNamespace readings verified =
      .ok (.reserve request)) : Proper policy digest effectiveNamespace request := by
  obtain ⟨claims, _, checked⟩ := bind_eq_ok checked
  obtain ⟨now, _, checked⟩ := bind_eq_ok checked
  obtain ⟨expiresAt, expires, checked⟩ := bind_eq_ok checked
  obtain ⟨challenge, _, checked⟩ := bind_eq_ok checked
  cases challenge with
  | some nonce =>
    have impossible := Except.ok.inj checked
    contradiction
  | none =>
    have same := Checked.reserve.inj (Except.ok.inj checked)
    delta ResolvedDeviceBindingOptions.checkedExpiresAt at expires
    rw [freshness] at expires
    split at expires
    · next deadline found =>
      have deadline_eq := Except.ok.inj expires
      obtain ⟨value, near, ahead⟩ := getDpopReplayExpiresAt_eq_some found
      subst same
      refine ⟨rfl, ?_, ?_, ?_⟩
      · show expiresAt = (claims.iat + policy.proofMaxAgeSeconds + policy.clockSkewSeconds) * 1000
        omega
      · show -policy.clockSkewSeconds * 1000 ≤ now - claims.iat * 1000
        omega
      · show now - claims.iat * 1000 <
          (policy.proofMaxAgeSeconds + policy.clockSkewSeconds) * 1000
        omega
    · contradiction

/-- A call keeps its admission when the answer is delivered. -/
theorem reserved_conclude (replay : policy.ignoreReplayFailure = false) (request : ReplayRequest)
    (answer : Option Bool) :
    (Call.settled (some request) (policy.conclude request answer)).reserved =
      (Call.reserving request answer).reserved := by
  unfold ResolvedDeviceBindingOptions.conclude
  rw [replay]
  cases answer with
  | none => rfl
  | some admitted => cases admitted <;> rfl

/-- What holds of one call at any time. -/
structure CallOk (policy : ResolvedDeviceBindingOptions) (digest : String → String)
    (effectiveNamespace : List String) (state : State) (call : Call) : Prop where
  proper : ∀ request, call.request = some request →
    Proper policy digest effectiveNamespace request
  spent : ∀ request, call.reserved = some request →
    ∃ replayKey last, request.replayKey = some replayKey ∧ state.lastReading = some last ∧
      Spent last state.store.ledger replayKey (request.expiresAt : ℚ)
  made : ∀ request jkt alg expiresAt,
    call = .settled request (.ok (.accepted jkt alg expiresAt)) → request.isSome = true

/-- What holds of the calls and the store at any time. -/
structure Inv (policy : ResolvedDeviceBindingOptions) (digest : String → String)
    (effectiveNamespace : List String) (state : State) : Prop where
  coherent : state.store.Coherent
  calls : ∀ (number : Nat) call, state.calls[number]? = some call →
    CallOk policy digest effectiveNamespace state call
  once : ∀ (number other : Nat) call call' request request', number ≠ other →
    state.calls[number]? = some call → state.calls[other]? = some call' →
    call.reserved = some request → call'.reserved = some request' →
    request.replayKey = request'.replayKey → request.expiresAt ≠ request'.expiresAt

/-- The calls after one is set. -/
theorem calls_set {number other : Nat} {call found : Call}
    (listed : (state.calls.set number call)[other]? = some found) :
    (other = number ∧ found = call) ∨ (other ≠ number ∧ state.calls[other]? = some found) := by
  rw [List.getElem?_set] at listed
  split at listed
  · next same =>
    split at listed
    · exact Or.inl ⟨same.symm, (Option.some.inj listed).symm⟩
    · contradiction
  · next apart => exact Or.inr ⟨fun same => apart same.symm, listed⟩

/-- A call goes on, with no admission that another call has. -/
theorem Inv.setCall (inv : Inv policy digest effectiveNamespace state) {next : Call}
    (ok : CallOk policy digest effectiveNamespace state next)
    (apart : ∀ (other : Nat) call request request', other ≠ number →
      state.calls[other]? = some call → next.reserved = some request →
      call.reserved = some request' → request.replayKey = request'.replayKey →
      request.expiresAt ≠ request'.expiresAt) :
    Inv policy digest effectiveNamespace (state.setCall number next) where
  coherent := inv.coherent
  calls := by
    intro other found listed
    rcases calls_set listed with ⟨_, set⟩ | ⟨_, kept⟩
    · rw [set]
      exact { ok with }
    · have held := inv.calls other found kept
      exact { held with }
  once := by
    intro first second found found' request request' distinct listed listed' reserved reserved' key
    rcases calls_set listed with ⟨here, set⟩ | ⟨away, kept⟩
    · rcases calls_set listed' with ⟨here', _⟩ | ⟨away', kept'⟩
      · exact absurd (here.trans here'.symm) distinct
      · rw [set] at reserved
        exact apart second found' request request' away' kept' reserved reserved' key
    · rcases calls_set listed' with ⟨_, set'⟩ | ⟨_, kept'⟩
      · rw [set'] at reserved'
        exact (apart first found request' request away kept reserved' reserved key.symm).symm
      · exact inv.once first second found found' request request' distinct kept kept' reserved
          reserved' key

/-- The store goes on at a later reading. -/
theorem Inv.passes (inv : Inv policy digest effectiveNamespace state)
    {store : DpopReplayReservations} {now : ℚ} (coherent : store.Coherent)
    (forward : state.lastReading.all (· ≤ now) = true)
    (keeps : KeepsLive now state.store.ledger store.ledger) :
    Inv policy digest effectiveNamespace { state with store, lastReading := some now } where
  coherent := coherent
  calls := by
    intro number call listed
    have held := inv.calls number call listed
    refine ⟨held.proper, ?_, held.made⟩
    intro request reserved
    obtain ⟨replayKey, last, key, reading, spent⟩ := held.spent request reserved
    rw [reading, Option.all_some, decide_eq_true_eq] at forward
    exact ⟨replayKey, now, key, rfl, spent.keeps forward keeps⟩
  once := inv.once

theorem safeInteger_intCast {number integer : Int}
    (safe : (Number.finite (number : ℚ)).safeInteger = some integer) : integer = number := by
  simp only [Number.safeInteger] at safe
  split at safe
  · exact (Option.some.inj safe).symm.trans (Rat.num_intCast number)
  · contradiction

/-- What a call of the store's `reserve` at a finite reading leaves of the invariant. -/
theorem reserve_finite {store : DpopReplayReservations} (coherent : store.Coherent)
    (replayKey : String) (expiresAt : Int) (now : ℚ) :
    let outcome := store.reserve (some replayKey) (.finite expiresAt) (.finite now)
    outcome.1.Coherent ∧ KeepsLive now store.ledger outcome.1.ledger ∧
      (outcome.2 = .ok true → Reserves now replayKey (expiresAt : ℚ) store.ledger
        outcome.1.ledger) := by
  let call : DpopReplayReservations.Call :=
    { replayKey := some replayKey, expiresAt := .finite expiresAt, now := now }
  have exact_ := coherent.perform call
  refine ⟨exact_.coherent, exact_.keeps, ?_⟩
  intro accepted
  have requested : call.request = some (replayKey, expiresAt) := by
    cases asked : call.request with
    | none =>
      have refused := (exact_.refused asked).1
      exact absurd (refused.symm.trans accepted) (by simp)
    | some request =>
      obtain ⟨expiry, sameExpiry, later⟩ := Option.bind_eq_some_iff.mp asked
      have value : expiry = expiresAt := safeInteger_intCast sameExpiry
      split at later
      · contradiction
      · rw [← Option.some.inj later, value]
  obtain ⟨dead, recorded⟩ := exact_.of_reserved requested accepted
  have ahead := (DpopReplayReservations.admissible_ahead requested).1
  refine ⟨not_le.mp ahead, ?_, recorded, exact_.keeps⟩
  intro other listed
  by_contra late
  apply dead
  show ((store.ledger.prune now) replayKey).isSome = true
  rw [prune_eq_some.mpr ⟨listed, not_le.mp late⟩]
  rfl

/-- A call that admits nothing and was not admitted is as it should be. -/
theorem CallOk.of_none {call : Call} (none_ : call.reserved = none)
    (proper : ∀ request, call.request = some request →
      Proper policy digest effectiveNamespace request) (made : ∀ request jkt alg expiresAt,
      call = .settled request (.ok (.accepted jkt alg expiresAt)) → request.isSome = true) :
    CallOk policy digest effectiveNamespace state call where
  proper := proper
  spent := by
    intro request reserved
    rw [none_] at reserved
    contradiction
  made := made

theorem Inv.setCall_none (inv : Inv policy digest effectiveNamespace state) {next : Call}
    (none_ : next.reserved = none) (proper : ∀ request, next.request = some request →
      Proper policy digest effectiveNamespace request) (made : ∀ request jkt alg expiresAt,
      next = .settled request (.ok (.accepted jkt alg expiresAt)) → request.isSome = true) :
    Inv policy digest effectiveNamespace (state.setCall number next) := by
  apply inv.setCall (CallOk.of_none none_ proper made)
  intro other call request request' _ _ reserved
  rw [none_] at reserved
  contradiction

/-- A request that fails at the store. -/
theorem Inv.refused (inv : Inv policy digest effectiveNamespace state)
    (proper : Proper policy digest effectiveNamespace request) {answer : Option Bool}
    (refused : answer ≠ some true) (number : Nat) :
    Inv policy digest effectiveNamespace (state.setCall number (.reserving request answer)) := by
  apply inv.setCall_none
  · unfold Call.reserved
    split
    · next same =>
      have admitted := (Call.reserving.inj same).2
      exact absurd admitted refused
    · contradiction
    · rfl
  · intro request' same
    rw [← Option.some.inj same]
    exact proper
  · intro request' jkt alg expiresAt same
    contradiction

theorem inv_reserve {state next : State} (inv : Inv policy digest effectiveNamespace state)
    {storeNow : Number} (proper : Proper policy digest effectiveNamespace request)
    (taken : state.reserve number request storeNow = some next) :
    Inv policy digest effectiveNamespace next := by
  unfold State.reserve at taken
  split at taken
  · rw [← Option.some.inj taken]
    exact inv.refused proper (show none ≠ some true by simp) number
  · next replayKey key =>
    dsimp only at taken
    split at taken
    · next now =>
      split at taken
      · next forward =>
        obtain ⟨coherent, keeps, reserves⟩ :=
          reserve_finite inv.coherent replayKey request.expiresAt now
        have passed := inv.passes coherent forward keeps
        rw [← Option.some.inj taken]
        by_cases admitted : (state.store.reserve (some replayKey)
            (.finite request.expiresAt) (.finite now)).2 = .ok true
        · have reserves := reserves admitted
          rw [admitted]
          apply passed.setCall
          · constructor
            · intro request' same
              rw [← Option.some.inj same]
              exact proper
            · intro request' same
              rw [← Option.some.inj same]
              exact ⟨replayKey, now, key, rfl, Or.inr reserves.recorded⟩
            · intro request' jkt alg expiresAt same
              contradiction
          · intro other call request' request'' _ listed same reserved sameKey sameExpiry
            rw [← Option.some.inj same] at sameKey sameExpiry
            obtain ⟨replayKey', last, key', reading, spent⟩ :=
              (inv.calls other call listed).spent request'' reserved
            rw [reading, Option.all_some, decide_eq_true_eq] at forward
            rw [key, key'] at sameKey
            rw [← Option.some.inj sameKey, ← sameExpiry] at spent
            exact spent.not_reserves forward reserves
        · apply passed.refused proper
          intro same
          apply admitted
          unfold State.answerOf at same
          split at same
          · next found => rw [found, Option.some.inj same]
          · contradiction
      · contradiction
    · next infinite =>
      have unchanged : state.store.reserve (some replayKey) (.finite request.expiresAt)
          storeNow = (state.store, .error .clock) := by
        unfold DpopReplayReservations.reserve
        split
        · next now => exact absurd rfl (infinite now)
        · rfl
      rw [unchanged] at taken
      rw [← Option.some.inj taken]
      exact inv.refused proper (show none ≠ some true by simp) number

/-- A call that settles without a request. -/
theorem Inv.settles (inv : Inv policy digest effectiveNamespace state)
    {result : Except DpopFailure DpopReplayResult}
    (unaccepted : ∀ jkt alg expiresAt, result ≠ .ok (.accepted jkt alg expiresAt)) (number : Nat) :
    Inv policy digest effectiveNamespace (state.setCall number (.settled none result)) := by
  apply inv.setCall_none
  · rfl
  · intro request same
    contradiction
  · intro request jkt alg expiresAt same
    exact absurd (Call.settled.inj same).2 (unaccepted jkt alg expiresAt)

theorem inv_deliver (replay : policy.ignoreReplayFailure = false)
    (inv : Inv policy digest effectiveNamespace state) {answer : Option Bool}
    (here : state.calls[number]? = some (.reserving request answer)) :
    Inv policy digest effectiveNamespace
      (state.setCall number (.settled (some request) (policy.conclude request answer))) := by
  have held := inv.calls number _ here
  have same := reserved_conclude replay request answer
  apply inv.setCall
  · constructor
    · exact held.proper
    · rw [same]
      exact held.spent
    · intro request' jkt alg expiresAt settled
      rw [← (Call.settled.inj settled).1]
      rfl
  · intro other call request' request'' apart listed reserved
    rw [same] at reserved
    exact inv.once number other _ call request' request'' apart.symm here listed reserved

theorem inv_step (freshness : policy.ignoreFreshnessFailure = false)
    (replay : policy.ignoreReplayFailure = false) {state next : State} {event : Event}
    (inv : Inv policy digest effectiveNamespace state)
    (taken : state.step policy digest effectiveNamespace event = some next) :
    Inv policy digest effectiveNamespace next := by
  cases event with
  | call =>
    rw [← Option.some.inj taken]
    have added (number : Nat) (call : Call)
        (listed : (state.calls ++ [.verifying])[number]? = some call) :
        state.calls[number]? = some call ∨ call = .verifying := by
      rw [List.getElem?_append] at listed
      split at listed
      · exact Or.inl listed
      · have member := List.mem_of_getElem? listed
        exact Or.inr (List.mem_singleton.mp member)
    constructor
    · exact inv.coherent
    · intro number call listed
      rcases added number call listed with before | new
      · have held := inv.calls number call before
        exact { held with }
      · rw [new]
        apply CallOk.of_none rfl
        · intro request same
          contradiction
        · intro request jkt alg expiresAt same
          contradiction
    · intro number other call call' request request' apart listed listed' reserved reserved'
      rcases added number call listed with before | new
      · rcases added other call' listed' with before' | new
        · exact inv.once number other call call' request request' apart before before'
            reserved reserved'
        · rw [new] at reserved'
          contradiction
      · rw [new] at reserved
        contradiction
  | verified number verified readings storeNow =>
    simp only [State.step] at taken
    split at taken
    · split at taken
      · rw [← Option.some.inj taken]
        apply inv.settles
        intro jkt alg expiresAt same
        contradiction
      · split at taken
        · rw [← Option.some.inj taken]
          apply inv.settles
          intro jkt alg expiresAt same
          contradiction
        · rw [← Option.some.inj taken]
          apply inv.settles
          intro jkt alg expiresAt same
          cases same
        · next request checked =>
          exact inv_reserve inv (proper_of_checkProof freshness checked) taken
    · contradiction
  | deliver number =>
    simp only [State.step] at taken
    split at taken
    · next request answer here =>
      rw [← Option.some.inj taken]
      exact inv_deliver replay inv here
    · contradiction

theorem inv_start (maxEntries : Nat) :
    Inv policy digest effectiveNamespace (.start maxEntries) where
  coherent := DpopReplayReservations.coherent_new maxEntries
  calls := by
    intro number call listed
    contradiction
  once := by
    intro number other call call' request request' _ listed
    contradiction

/-- A call that has returned accepted, for this proof. -/
def Accepted (state : State) (number : Nat) (request : ReplayRequest) : Prop :=
  ∃ jkt alg expiresAt,
    state.calls[number]? = some (.settled (some request) (.ok (.accepted jkt alg expiresAt)))

/-- The proof that a request is for. -/
def sameProof (request request' : ReplayRequest) : Prop :=
  request.claims.jkt = request'.claims.jkt ∧ request.claims.jti = request'.claims.jti ∧
    request.claims.iat = request'.claims.iat

/-- What the policy promises of the calls that returned. -/
structure AcceptedOnce (policy : ResolvedDeviceBindingOptions) (state : State) : Prop where
  /-- Whatever is accepted is accepted for a proof. -/
  proof : ∀ (number : Nat) request jkt alg expiresAt,
    state.calls[number]? = some (.settled request (.ok (.accepted jkt alg expiresAt))) →
    ∃ proof, request = some proof
  once : ∀ first second request request', Accepted state first request →
    Accepted state second request' → sameProof request request' → first = second
  window : ∀ number request, Accepted state number request →
    -policy.clockSkewSeconds * 1000 ≤ request.now - request.claims.iat * 1000 ∧
      request.now - request.claims.iat * 1000 <
        (policy.proofMaxAgeSeconds + policy.clockSkewSeconds) * 1000

theorem accepted_once (policy : ResolvedDeviceBindingOptions) (digest : String → String)
    (effectiveNamespace : List String) (maxEntries : Nat)
    (freshness : policy.ignoreFreshnessFailure = false)
    (replay : policy.ignoreReplayFailure = false) (state : State)
    (reached : (system policy digest effectiveNamespace maxEntries).Reachable state) :
    AcceptedOnce policy state := by
  have inv : Inv policy digest effectiveNamespace state := by
    apply reached.invariant (inv_start maxEntries)
    intro before event after held taken
    exact inv_step freshness replay held taken
  constructor
  · intro number request jkt alg expiresAt listed
    exact Option.isSome_iff_exists.mp
      ((inv.calls number _ listed).made request jkt alg expiresAt rfl)
  · intro first second request request' accepted accepted' same
    obtain ⟨jkt, alg, expiresAt, listed⟩ := accepted
    obtain ⟨jkt', alg', expiresAt', listed'⟩ := accepted'
    by_contra apart
    have proper := (inv.calls first _ listed).proper request rfl
    have proper' := (inv.calls second _ listed').proper request' rfl
    apply inv.once first second _ _ request request' apart listed listed' rfl rfl
    · rw [proper.key, proper'.key, same.1, same.2.1]
    · rw [proper.expiry, proper'.expiry, same.2.2]
  · intro number request accepted
    obtain ⟨jkt, alg, expiresAt, listed⟩ := accepted
    have proper := (inv.calls number _ listed).proper request rfl
    exact ⟨proper.notFuture, proper.notStale⟩

def examplePolicy : ResolvedDeviceBindingOptions where
  algorithms := ["ES256"]
  proofMaxAgeSeconds := 60
  clockSkewSeconds := 5
  nonceVerify := none
  ignoreFreshnessFailure := false
  ignoreReplayFailure := false
  maxAge_bounds := by decide
  clockSkew_bounds := by decide

def exampleProof : Value :=
  .object [("binding", .object [("type", .string "dpop"),
      ("jkt", .string "0123456789012345678901234567890123456789abA"), ("alg", .string "ES256")]),
    ("iat", .number "1000"), ("jti", .string "proof")]

def exampleReadings (now : String) : Readings :=
  { now := some (.number now), fallbackNow := .undefined, issuedNonce := none }

/-- The second verifier, whose clock is late, presents a proof after its reservation is over. -/
def exampleEvents : List Event :=
  [.call, .call, .verified 0 (some exampleProof) (exampleReadings "1000000") (.finite 1000000),
    .deliver 0, .verified 1 (some exampleProof) (exampleReadings "1001000") (.finite 1065000),
    .deliver 1]

def State.returned (state : State) : List Bool :=
  state.calls.map fun call =>
    match call with
    | .settled _ (.ok (.accepted _ _ _)) => true
    | _ => false

theorem accepted_once_exampleEvents : ∃ state,
    (system examplePolicy id ["api"] 4).run exampleEvents = some state ∧
      state.returned = [true, false] ∧ AcceptedOnce examplePolicy state := by
  have runs : ((system examplePolicy id ["api"] 4).run exampleEvents).map State.returned =
      some [true, false] := by
    decide +kernel
  obtain ⟨state, same, returned⟩ := Option.map_eq_some_iff.mp runs
  exact ⟨state, same, returned, accepted_once examplePolicy id ["api"] 4 rfl rfl state
    (TransitionSystem.Reachable.of_run same)⟩

end WebTsToolkit.OidcVaultMemory.DpopReplayOnce
