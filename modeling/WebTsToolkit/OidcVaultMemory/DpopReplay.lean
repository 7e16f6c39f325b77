import WebTsToolkit.Js.Double
import WebTsToolkit.Library.HeapTable

set_option autoImplicit false

namespace WebTsToolkit.OidcVaultMemory

open Js Library Library.Ledger

/-- A reservation is an object with an identity, the how manieth that its store made. Its mutable
`index` is its position in the heap. -/
structure DpopReservation where
  identity : Nat
  replayKey : String
  expiresAt : Int
  deriving DecidableEq, Repr

namespace DpopReservation

/-- The expiry, to compare it with clock readings that need not be integers. -/
def expiry (reservation : DpopReservation) : ℚ :=
  reservation.expiresAt

end DpopReservation

/-- The map and the heap of the reservations. -/
structure DpopReplayReservations where
  entries : HeapTable String DpopReservation
  maxEntries : Nat
  made : Nat

inductive DpopReplayError where
  /-- `OIDC vault DPoP replay store clock is invalid.` -/
  | clock
  | capacity
  deriving DecidableEq, Repr

/-- The most expired entries that one reservation removes besides its own key. -/
def dpopSweepBatchSize : Nat := 64

/-- The check of how far an expiry may be ahead. -/
def beyondHorizon (now expiry : ℚ) : Bool :=
  360000 < subtract expiry now

/-- The key and the expiry of an input that `reserve` does not refuse; a replay key that is no
string is none. -/
def admissible (replayKey : Option String) (expiresAt : Number) (now : ℚ) :
    Option (String × Int) := do
  let replayKey ← replayKey
  let expiresAt ← expiresAt.safeInteger
  if expiresAt ≤ now ∨ beyondHorizon now expiresAt then none else some (replayKey, expiresAt)

namespace DpopReplayReservations

def new (maxEntries : Nat) : DpopReplayReservations where
  entries := .empty
  maxEntries := maxEntries
  made := 0

/-- The part of `reserve` past its checks of the input. -/
def reserveChecked (store : DpopReplayReservations) (replayKey : String) (expiresAt : Int)
    (now : ℚ) : DpopReplayReservations × Except DpopReplayError Bool :=
  if store.entries.live DpopReservation.expiry replayKey now then (store, .ok false)
  else
    let reclaimed := store.entries.reclaim DpopReservation.replayKey DpopReservation.expiry
      replayKey now dpopSweepBatchSize
    if store.maxEntries ≤ reclaimed.size then
      ({ store with entries := reclaimed }, .error .capacity)
    else
      let reservation : DpopReservation := { identity := store.made, replayKey, expiresAt }
      ({ store with
          entries := reclaimed.insert DpopReservation.replayKey DpopReservation.expiry reservation
          made := store.made + 1 }, .ok true)

/-- `DpopReplayReservations.reserve`. -/
def reserve (store : DpopReplayReservations) (replayKey : Option String) (expiresAt now : Number) :
    DpopReplayReservations × Except DpopReplayError Bool :=
  match now with
  | .finite now =>
    match admissible replayKey expiresAt now with
    | some request => store.reserveChecked request.1 request.2 now
    | none => (store, .ok false)
  | _ => (store, .error .clock)

/-- One call of `reserve` at a finite reading of the clock. -/
structure Call where
  replayKey : Option String
  expiresAt : Number
  now : ℚ

/-- The key and the expiry of a call that is not refused. -/
def Call.request (call : Call) : Option (String × Int) :=
  admissible call.replayKey call.expiresAt call.now

def perform (store : DpopReplayReservations) (call : Call) :
    DpopReplayReservations × Except DpopReplayError Bool :=
  store.reserve call.replayKey call.expiresAt (.finite call.now)

/-- What the map says: the expiry of each key. -/
def ledger (store : DpopReplayReservations) : Ledger String ℚ :=
  ofRows DpopReservation.expiry store.entries.rows

/-- The keys whose reservation has not expired. -/
def unexpired (store : DpopReplayReservations) (now : ℚ) : Set String :=
  (store.ledger.prune now).liveKeys

/-- The map and the heap hold the same reservations, each at its index and none before an earlier
one, and at most as many as the store may hold. -/
structure Coherent (store : DpopReplayReservations) : Prop where
  sound : store.entries.Sound DpopReservation.replayKey DpopReservation.expiry
  within : store.entries.size ≤ store.maxEntries

/-- What one call does to a store, and its answer. -/
structure Exact (call : Call) (before after : DpopReplayReservations)
    (answer : Except DpopReplayError Bool) : Prop where
  coherent : Coherent after
  maxEntries : after.maxEntries = before.maxEntries
  keeps : KeepsLive call.now before.ledger after.ledger
  refused : call.request = none → answer = .ok false ∧ after = before
  duplicate : ∀ replayKey expiresAt, call.request = some (replayKey, expiresAt) →
    replayKey ∈ before.unexpired call.now → answer = .ok false ∧ after = before
  full : answer = .error .capacity ↔ ∃ replayKey expiresAt,
    call.request = some (replayKey, expiresAt) ∧ replayKey ∉ before.unexpired call.now ∧
      (before.unexpired call.now).ncard = before.maxEntries
  reserved : ∀ replayKey expiresAt, call.request = some (replayKey, expiresAt) →
    replayKey ∉ before.unexpired call.now →
    (before.unexpired call.now).ncard ≠ before.maxEntries →
    answer = .ok true ∧ after.ledger replayKey = some (expiresAt : ℚ)

variable {store : DpopReplayReservations}

/-- The outcome that an answer to an admissible call stands for. -/
def outcome : Except DpopReplayError Bool → Outcome
  | .ok true => .reserved
  | .ok false => .duplicate
  | .error .capacity => .capacity
  | .error .clock => .rejected

theorem outcome_injective : Function.Injective outcome := by
  intro first second same
  rcases first with (_ | _) | (_ | _) <;> rcases second with (_ | _) | (_ | _) <;>
    first | rfl | contradiction

variable {replayKey : String} {expiresAt : Int} {call : Call}

theorem admissible_ahead (admitted : call.request = some (replayKey, expiresAt)) :
    ¬(expiresAt : ℚ) ≤ call.now ∧ beyondHorizon call.now expiresAt = false := by
  obtain ⟨_, _, admitted⟩ := Option.bind_eq_some_iff.mp admitted
  obtain ⟨_, _, admitted⟩ := Option.bind_eq_some_iff.mp admitted
  split at admitted
  · contradiction
  · next inside =>
    obtain ⟨_, same⟩ := Prod.mk.inj (Option.some.inj admitted)
    rw [same, not_or] at inside
    exact ⟨inside.1, Bool.eq_false_iff.mpr inside.2⟩

/-- The reservation that an admissible call makes. -/
def added (store : DpopReplayReservations) (replayKey : String) (expiresAt : Int) :
    DpopReservation :=
  { identity := store.made, replayKey, expiresAt }

theorem reserveChecked_eq (store : DpopReplayReservations)
    (admitted : call.request = some (replayKey, expiresAt)) :
    ((store.reserveChecked replayKey expiresAt call.now).1.entries,
        outcome (store.reserveChecked replayKey expiresAt call.now).2) =
      store.entries.reserve DpopReservation.replayKey DpopReservation.expiry beyondHorizon
        store.maxEntries dpopSweepBatchSize call.now (store.added replayKey expiresAt) := by
  obtain ⟨ahead, near⟩ := admissible_ahead admitted
  have later : ¬(store.added replayKey expiresAt).expiry ≤ call.now := ahead
  have within : ¬beyondHorizon call.now (store.added replayKey expiresAt).expiry = true := by
    show ¬beyondHorizon call.now expiresAt = true
    rw [near]
    exact Bool.false_ne_true
  have key : (store.added replayKey expiresAt).replayKey = replayKey := rfl
  rw [reserveChecked, HeapTable.reserve, if_neg later, if_neg within, key]
  split
  · rfl
  · simp only
    split
    · rfl
    · rfl

theorem reserveChecked_maxEntries (store : DpopReplayReservations) (replayKey : String)
    (expiresAt : Int) (now : ℚ) :
    (store.reserveChecked replayKey expiresAt now).1.maxEntries = store.maxEntries := by
  rw [reserveChecked]
  split
  · rfl
  · simp only
    split <;> rfl

/-- A replay leaves the store as it is. -/
theorem reserveChecked_refused {replayKey : String} {expiresAt : Int} {now : ℚ}
    (refused : (store.reserveChecked replayKey expiresAt now).2 = .ok false) :
    (store.reserveChecked replayKey expiresAt now).1 = store := by
  rw [reserveChecked] at refused ⊢
  split
  · rfl
  · next fresh =>
    simp only [if_neg fresh] at refused
    split at refused <;> cases refused

theorem Coherent.perform (coherent : Coherent store) (call : Call) :
    Exact call store (store.perform call).1 (store.perform call).2 := by
  have request : admissible call.replayKey call.expiresAt call.now = call.request := rfl
  unfold DpopReplayReservations.perform DpopReplayReservations.reserve
  dsimp only
  rw [request]
  clear request
  cases admitted : call.request with
  | none =>
    exact
      { coherent := coherent
        maxEntries := rfl
        keeps := fun _ _ found _ => found
        refused := fun _ => ⟨rfl, rfl⟩
        duplicate := by
          intro replayKey expiresAt same
          rw [admitted] at same
          contradiction
        full := by
          constructor
          · intro failed
            cases failed
          · intro asked
            obtain ⟨_, _, same, _⟩ := asked
            rw [admitted] at same
            contradiction
        reserved := by
          intro replayKey expiresAt same
          rw [admitted] at same
          contradiction }
  | some request =>
    obtain ⟨replayKey, expiresAt⟩ := request
    obtain ⟨ahead, near⟩ := admissible_ahead admitted
    have maxEntries := reserveChecked_maxEntries store replayKey expiresAt call.now
    obtain ⟨sound, within, updated, answer⟩ := coherent.sound.reserve beyondHorizon
      coherent.within (show 0 < dpopSweepBatchSize by decide) call.now
      (store.added replayKey expiresAt)
    rw [← reserveChecked_eq store admitted] at sound within updated answer
    let request : Request String ℚ := { now := call.now, key := replayKey, deadline := expiresAt }
    let after := store.reserveChecked replayKey expiresAt call.now
    have updated : after.1.ledger.prune request.now =
      (store.ledger.reserve store.maxEntries beyondHorizon request).1 := updated
    have answer : outcome after.2 =
      (store.ledger.reserve store.maxEntries beyondHorizon request).2 := answer
    have ahead : ¬request.deadline ≤ request.now := ahead
    have near : beyondHorizon request.now request.deadline = false := near
    have only {key : String} {time : Int} (same : call.request = some (key, time)) :
        key = replayKey ∧ time = expiresAt := by
      rw [admitted, Option.some.injEq, Prod.mk.injEq] at same
      exact ⟨same.1.symm, same.2.symm⟩
    constructor
    · refine ⟨sound, ?_⟩
      show after.1.entries.size ≤ after.1.maxEntries
      rw [maxEntries]
      exact within
    · exact maxEntries
    · exact keepsLive_of_prune updated
    · intro none_
      rw [admitted] at none_
      contradiction
    · intro key time same live
      rw [(only same).1] at live
      have live : request.key ∈ (store.ledger.prune request.now).liveKeys := live
      rw [reserve_of_ahead ahead near, if_pos live] at answer
      have refused : after.2 = .ok false := outcome_injective answer
      exact ⟨refused, reserveChecked_refused refused⟩
    · constructor
      · intro failed
        have failed : outcome after.2 = .capacity := congrArg outcome failed
        rw [answer, reserve_of_ahead ahead near] at failed
        refine ⟨replayKey, expiresAt, admitted, ?_⟩
        split at failed
        · contradiction
        · next dead =>
          split at failed
          · next crowded => exact ⟨dead, crowded⟩
          · contradiction
      · intro asked
        obtain ⟨key, time, same, dead, crowded⟩ := asked
        rw [(only same).1] at dead
        have dead : request.key ∉ (store.ledger.prune request.now).liveKeys := dead
        have crowded : (store.ledger.prune request.now).liveKeys.ncard = store.maxEntries :=
          crowded
        rw [reserve_of_ahead ahead near, if_neg dead, if_pos crowded] at answer
        exact outcome_injective answer
    · intro key time same dead room
      rw [(only same).1] at dead ⊢
      rw [(only same).2]
      have dead : request.key ∉ (store.ledger.prune request.now).liveKeys := dead
      have room : (store.ledger.prune request.now).liveKeys.ncard ≠ store.maxEntries := room
      rw [reserve_of_ahead ahead near, if_neg dead, if_neg room] at answer updated
      have recorded : after.1.ledger.prune request.now replayKey = some (expiresAt : ℚ) := by
        rw [updated]
        exact Function.update_self _ _ _
      exact ⟨outcome_injective answer, (prune_eq_some.mp recorded).1⟩

theorem coherent_new (maxEntries : Nat) : Coherent (new maxEntries) where
  sound := HeapTable.Sound.empty
  within := Nat.zero_le _

theorem coherent_after (calls : List Call) : ∀ store, Coherent store →
    Coherent (after perform store calls) := by
  induction calls with
  | nil =>
    intro store coherent
    exact coherent
  | cons call calls ih =>
    intro store coherent
    exact ih (store.perform call).1 (coherent.perform call).coherent

/-- A reservation stays recorded until its expiry has passed. -/
theorem spent_after (calls : List Call) {expiry later : ℚ} :
    ∀ (store : DpopReplayReservations) (now : ℚ), Coherent store →
      Spent now store.ledger replayKey expiry → now ≤ later →
      (∀ call ∈ calls, now ≤ call.now ∧ call.now ≤ later) →
      (calls.map Call.now).Pairwise (· ≤ ·) →
      Spent later (after perform store calls).ledger replayKey expiry := by
  induction calls with
  | nil =>
    intro store now _ spent forward _ _
    exact spent.keeps forward fun _ _ found _ => found
  | cons call calls ih =>
    intro store now coherent spent forward inside sorted
    have exact_ := coherent.perform call
    have here := inside call List.mem_cons_self
    rw [List.map_cons, List.pairwise_cons] at sorted
    apply ih (store.perform call).1 call.now exact_.coherent
      (spent.keeps here.1 exact_.keeps) here.2
    · intro other member
      exact ⟨sorted.1 _ (List.mem_map_of_mem member),
        (inside other (List.mem_cons_of_mem call member)).2⟩
    · exact sorted.2

/-- What holds of one call in a run: what it does is exact, and it reserves no key that an earlier
call has reserved up to an expiry ahead. -/
structure ExactCall (maxEntries : Nat) (before : List Call) (call : Call) : Prop where
  exact : Exact call (after perform (new maxEntries) before)
    ((after perform (new maxEntries) before).perform call).1
    ((after perform (new maxEntries) before).perform call).2
  once : ∀ first earlier middle replayKey (expiresAt again : Int),
    before = first ++ earlier :: middle →
    earlier.request = some (replayKey, expiresAt) →
    ((after perform (new maxEntries) first).perform earlier).2 = .ok true →
    call.request = some (replayKey, again) →
    ((after perform (new maxEntries) before).perform call).2 = .ok true →
    (expiresAt : ℚ) ≤ call.now

/-- A key that a call reserves has no unexpired reservation before it, and its expiry is recorded
after it. -/
theorem Exact.of_reserved {before after : DpopReplayReservations}
    {answer : Except DpopReplayError Bool} (exact_ : Exact call before after answer)
    (requested : call.request = some (replayKey, expiresAt)) (accepted : answer = .ok true) :
    replayKey ∉ before.unexpired call.now ∧ after.ledger replayKey = some (expiresAt : ℚ) := by
  have dead : replayKey ∉ before.unexpired call.now := by
    intro live
    have refused := (exact_.duplicate replayKey expiresAt requested live).1
    rw [accepted] at refused
    cases refused
  have room : (before.unexpired call.now).ncard ≠ before.maxEntries := by
    intro crowded
    have failed := exact_.full.mpr ⟨replayKey, expiresAt, requested, dead, crowded⟩
    rw [accepted] at failed
    cases failed
  exact ⟨dead, (exact_.reserved replayKey expiresAt requested dead room).2⟩

theorem reservations_exact (maxEntries : Nat) (calls before rest : List Call) (call : Call)
    (forward : (calls.map Call.now).Pairwise (· ≤ ·)) (split : calls = before ++ call :: rest) :
    ExactCall maxEntries before call where
  exact := (coherent_after before (new maxEntries) (coherent_new maxEntries)).perform call
  once := by
    intro first earlier middle replayKey expiresAt again earlierSplit reserved accepted
      requested answered
    have start := coherent_after first (new maxEntries) (coherent_new maxEntries)
    have made := start.perform earlier
    have whole := coherent_after before (new maxEntries) (coherent_new maxEntries)
    have recorded := (made.of_reserved reserved accepted).2
    have dead := ((whole.perform call).of_reserved requested answered).1
    rw [split, earlierSplit, List.append_assoc, List.cons_append, List.pairwise_map,
      List.pairwise_append, List.pairwise_cons, List.pairwise_append, List.pairwise_cons] at forward
    obtain ⟨_, ⟨fromEarlier, sorted, _, toCall⟩, _⟩ := forward
    have last : earlier.now ≤ call.now :=
      fromEarlier call (List.mem_append_right middle List.mem_cons_self)
    have between : ∀ other ∈ middle, earlier.now ≤ other.now ∧ other.now ≤ call.now := by
      intro other member
      exact ⟨fromEarlier other (List.mem_append_left _ member),
        toCall other member call List.mem_cons_self⟩
    have spent : Spent call.now (after perform (new maxEntries) before).ledger replayKey
        (expiresAt : ℚ) := by
      rw [earlierSplit, after, List.foldl_append]
      exact spent_after middle _ earlier.now made.coherent (Or.inr recorded) last between
        (List.pairwise_map.mpr sorted)
    rcases spent with past | listed
    · exact past
    · by_contra ahead
      apply dead
      show ((after perform (new maxEntries) before).ledger.prune call.now replayKey).isSome = true
      rw [prune_eq_some.mpr ⟨listed, not_le.mp ahead⟩]
      rfl

/-- The key reserved until 100 is refused at 50 and free again at 100. -/
def exampleCalls : List Call :=
  [{ replayKey := some "proof", expiresAt := .finite 100, now := 1 / 2 },
    { replayKey := some "proof", expiresAt := .finite 200, now := 50 },
    { replayKey := some "proof", expiresAt := .finite 200, now := 100 }]

theorem reservations_exact_exampleCalls : ExactCall 1 (exampleCalls.take 2)
    { replayKey := some "proof", expiresAt := .finite 200, now := 100 } :=
  reservations_exact 1 exampleCalls (exampleCalls.take 2) [] _ (by decide +kernel) rfl

end DpopReplayReservations

end WebTsToolkit.OidcVaultMemory
