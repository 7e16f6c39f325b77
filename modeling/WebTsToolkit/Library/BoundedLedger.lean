import Mathlib.Data.List.AList
import Mathlib.Data.Set.Card
import WebTsToolkit.Library.ExpiringLedger

set_option autoImplicit false

namespace WebTsToolkit.Library.Ledger

variable {κ τ : Type} [LinearOrder τ]

/-- The entries that are live. -/
def prune (now : τ) (ledger : Ledger κ τ) : Ledger κ τ :=
  fun key => (ledger key).filter fun deadline => decide (now < deadline)

theorem prune_eq_some {now : τ} {ledger : Ledger κ τ} {key : κ} {deadline : τ} :
    ledger.prune now key = some deadline ↔ ledger key = some deadline ∧ now < deadline := by
  rw [prune, Option.filter_eq_some_iff, decide_eq_true_iff]

theorem prune_prune {now later : τ} (forward : now ≤ later) (ledger : Ledger κ τ) :
    (ledger.prune now).prune later = ledger.prune later := by
  funext key
  apply Option.ext
  intro deadline
  rw [prune_eq_some, prune_eq_some, prune_eq_some]
  constructor
  · intro both
    exact ⟨both.1.1, both.2⟩
  · intro both
    exact ⟨⟨both.1, lt_of_le_of_lt forward both.2⟩, both.2⟩

inductive Outcome where
  | reserved
  | duplicate
  | expired
  | capacity
  | rejected
  deriving DecidableEq, Repr

structure Request (κ τ : Type) where
  now : τ
  key : κ
  deadline : τ

def liveKeys (ledger : Ledger κ τ) : Set κ :=
  { key | (ledger key).isSome = true }

section Reserving

variable [DecidableEq κ] (limit : Nat) (tooFar : τ → τ → Bool)

open Classical in
/-- What a reservation means: a ledger of the live deadlines, at most `limit` of them. -/
noncomputable def reserve (ledger : Ledger κ τ) (request : Request κ τ) :
    Ledger κ τ × Outcome :=
  let live := ledger.prune request.now
  if request.deadline ≤ request.now then (live, .expired)
  else if tooFar request.now request.deadline then (live, .rejected)
  else if request.key ∈ live.liveKeys then (live, .duplicate)
  else if live.liveKeys.ncard = limit then (live, .capacity)
  else (Function.update live request.key (some request.deadline), .reserved)

variable {limit tooFar} {ledger : Ledger κ τ} {request : Request κ τ}

theorem reserve_of_past (past : request.deadline ≤ request.now) :
    ledger.reserve limit tooFar request = (ledger.prune request.now, .expired) := by
  rw [reserve]
  exact if_pos past

theorem reserve_of_far (ahead : ¬request.deadline ≤ request.now)
    (far : tooFar request.now request.deadline = true) :
    ledger.reserve limit tooFar request = (ledger.prune request.now, .rejected) := by
  rw [reserve]
  simp only [if_neg ahead]
  exact if_pos far

open Classical in
theorem reserve_of_ahead (ahead : ¬request.deadline ≤ request.now)
    (near : tooFar request.now request.deadline = false) :
    ledger.reserve limit tooFar request =
      if request.key ∈ (ledger.prune request.now).liveKeys then
        (ledger.prune request.now, .duplicate)
      else if (ledger.prune request.now).liveKeys.ncard = limit then
        (ledger.prune request.now, .capacity)
      else
        (Function.update (ledger.prune request.now) request.key (some request.deadline),
          .reserved) := by
  rw [reserve]
  simp only [if_neg ahead, near, Bool.false_eq_true, if_false]

/-- Only live entries count. -/
theorem reserve_prune : (ledger.prune request.now).reserve limit tooFar request =
    ledger.reserve limit tooFar request := by
  rw [reserve, reserve, prune_prune (le_refl request.now)]

/-- No live entry is ever lost. -/
theorem reserve_keeps : KeepsLive request.now ledger (ledger.reserve limit tooFar request).1 := by
  intro key deadline listed ahead
  have live : ledger.prune request.now key = some deadline := prune_eq_some.mpr ⟨listed, ahead⟩
  rw [reserve]
  by_cases past : request.deadline ≤ request.now
  · simp only [if_pos past]
    exact live
  · simp only [if_neg past]
    split
    · exact live
    · split
      · exact live
      · next absent =>
        split
        · exact live
        · have apart : key ≠ request.key := by
            intro same
            apply absent
            rw [← same]
            show (ledger.prune request.now key).isSome = true
            rw [live]
            rfl
          show Function.update (ledger.prune request.now) request.key (some request.deadline) key =
            some deadline
          rw [Function.update_of_ne apart]
          exact live

/-- A reservation is one of a key without a live entry. -/
theorem reserve_reserves (reserved : (ledger.reserve limit tooFar request).2 = .reserved) :
    Reserves request.now request.key request.deadline ledger
      (ledger.reserve limit tooFar request).1 := by
  have keeps : KeepsLive request.now ledger (ledger.reserve limit tooFar request).1 :=
    reserve_keeps
  rw [reserve] at reserved keeps ⊢
  by_cases past : request.deadline ≤ request.now
  · simp only [if_pos past] at reserved
    contradiction
  · simp only [if_neg past] at reserved keeps ⊢
    split at reserved
    · contradiction
    · next near =>
      split at reserved
      · contradiction
      · next absent =>
        split at reserved
        · contradiction
        · next room =>
          rw [if_neg near, if_neg absent, if_neg room] at keeps ⊢
          refine ⟨not_le.mp past, ?_, Function.update_self _ _ _, keeps⟩
          intro other listed
          by_contra ahead
          apply absent
          have live : ledger.prune request.now request.key = some other :=
            prune_eq_some.mpr ⟨listed, not_le.mp ahead⟩
          show (ledger.prune request.now request.key).isSome = true
          rw [live]
          rfl

variable {after : Ledger κ τ}

/-- A ledger whose live part is the result of a reservation has lost nothing live. -/
theorem keepsLive_of_prune
    (updated : after.prune request.now = (ledger.reserve limit tooFar request).1) :
    KeepsLive request.now ledger after := by
  intro key deadline listed ahead
  have kept : (ledger.reserve limit tooFar request).1 key = some deadline :=
    reserve_keeps key deadline listed ahead
  rw [← updated, prune_eq_some] at kept
  exact kept.1

theorem reserves_of_prune
    (updated : after.prune request.now = (ledger.reserve limit tooFar request).1)
    (reserved : (ledger.reserve limit tooFar request).2 = .reserved) :
    Reserves request.now request.key request.deadline ledger after := by
  have reserves := reserve_reserves reserved
  have recorded := reserves.recorded
  rw [← updated, prune_eq_some] at recorded
  exact ⟨reserves.ahead, reserves.free, recorded.1, keepsLive_of_prune updated⟩

variable {σ γ ω : Type}

/-- A store that answers as the ledger does, for a number of calls. Its view holds at least the
live entries. -/
structure Implements (limit : Nat) (tooFar : τ → τ → Bool) (request : γ → Request κ τ)
    (perform : σ → γ → σ × ω) (view : σ → Ledger κ τ) (outcome : ω → Option Outcome)
    (fit : Nat → σ → Prop) : Prop where
  fits : ∀ calls state call, fit (calls + 1) state → fit calls (perform state call).1
  answers : ∀ calls state call, fit (calls + 1) state → outcome (perform state call).2 =
    some ((view state).reserve limit tooFar (request call)).2
  updates : ∀ calls state call, fit (calls + 1) state →
    (view (perform state call).1).prune (request call).now =
      ((view state).reserve limit tooFar (request call)).1

end Reserving

section Running

variable {σ γ ω : Type}

/-- The answers of a run. -/
def replies (perform : σ → γ → σ × ω) : σ → List γ → List ω
  | _, [] => []
  | state, call :: calls => (perform state call).2 :: replies perform (perform state call).1 calls

/-- The state after a run. -/
def after (perform : σ → γ → σ × ω) (state : σ) (calls : List γ) : σ :=
  calls.foldl (fun state call => (perform state call).1) state

variable [DecidableEq κ] {limit : Nat} {tooFar : τ → τ → Bool} {request : γ → Request κ τ}
  {perform : σ → γ → σ × ω} {view : σ → Ledger κ τ} {outcome : ω → Option Outcome}
  {fit : Nat → σ → Prop}

/-- Under a clock that does not run backwards, a run of the store answers as the run of the ledger
does, and keeps its live entries. -/
theorem Implements.run
    (implements : Implements limit tooFar request perform view outcome fit) (calls : List γ) :
    ∀ (state : σ) (ledger : Ledger κ τ) (start : τ), fit calls.length state →
      (∀ later, start ≤ later → (view state).prune later = ledger.prune later) →
      (∀ call ∈ calls, start ≤ (request call).now) →
      (calls.map fun call => (request call).now).Pairwise (· ≤ ·) →
      (replies perform state calls).map outcome =
          (replies (Ledger.reserve limit tooFar) ledger (calls.map request)).map some ∧
        ∀ later, (∀ call ∈ calls, (request call).now ≤ later) → start ≤ later →
          (view (after perform state calls)).prune later =
            (after (Ledger.reserve limit tooFar) ledger (calls.map request)).prune later := by
  induction calls with
  | nil =>
    intro state ledger start _ agrees _ _
    refine ⟨rfl, ?_⟩
    intro later _ forward
    exact agrees later forward
  | cons call calls ih =>
    intro state ledger start fits agrees ahead sorted
    rw [List.map_cons, List.pairwise_cons] at sorted
    have now := ahead call List.mem_cons_self
    have here := agrees _ now
    have same : (view state).reserve limit tooFar (request call) =
        ledger.reserve limit tooFar (request call) := by
      rw [← reserve_prune, here, reserve_prune]
    have answered := implements.answers _ state call fits
    have updated := implements.updates _ state call fits
    rw [same] at answered updated
    have agrees' : ∀ later, (request call).now ≤ later →
        (view (perform state call).1).prune later =
          (ledger.reserve limit tooFar (request call)).1.prune later := by
      intro later forward
      rw [← prune_prune forward, updated]
    have ahead' : ∀ other ∈ calls, (request call).now ≤ (request other).now := by
      intro other member
      exact sorted.1 _ (List.mem_map_of_mem member)
    obtain ⟨rest, ends⟩ := ih (perform state call).1
      (ledger.reserve limit tooFar (request call)).1 (request call).now
      (implements.fits _ state call fits) agrees' ahead' sorted.2
    constructor
    · rw [replies, List.map_cons, answered, rest, List.map_cons, replies, List.map_cons]
    · intro later passed _
      apply ends later
      · intro other member
        exact passed other (List.mem_cons_of_mem call member)
      · exact passed call List.mem_cons_self

/-- A run of a store agrees with the run of the ledger: in its answers, in what is live at its end
and later, and in that no call loses a live entry. -/
structure Agrees (limit : Nat) (tooFar : τ → τ → Bool) (request : γ → Request κ τ)
    (perform : σ → γ → σ × ω) (view : σ → Ledger κ τ) (outcome : ω → Option Outcome)
    (state : σ) (calls : List γ) : Prop where
  answers : (replies perform state calls).map outcome =
    (replies (Ledger.reserve limit tooFar) (fun _ => none) (calls.map request)).map some
  live : ∀ later, (∀ call ∈ calls, (request call).now ≤ later) →
    (view (after perform state calls)).prune later =
      (after (Ledger.reserve limit tooFar) (fun _ => none) (calls.map request)).prune later
  keeps : ∀ before call rest, calls = before ++ call :: rest →
    KeepsLive (request call).now (view (after perform state before))
      (view (after perform state (before ++ [call])))

omit [LinearOrder τ] [DecidableEq κ] in
theorem mem_replies (perform : σ → γ → σ × ω) (before : List γ) (call : γ) (rest : List γ) :
    ∀ state : σ,
    (perform (after perform state before) call).2 ∈
      replies perform state (before ++ call :: rest) := by
  induction before with
  | nil =>
    intro state
    exact List.mem_cons_self
  | cons first before ih =>
    intro state
    exact List.mem_cons_of_mem _ (ih (perform state first).1)

/-- Every call of a run that agrees is answered. -/
theorem Agrees.answered {state : σ} {calls : List γ}
    (agrees : Agrees limit tooFar request perform view outcome state calls) {before : List γ}
    {call : γ} {rest : List γ} (split : calls = before ++ call :: rest) :
    outcome (perform (after perform state before) call).2 ≠ none := by
  intro unanswered
  have listed := List.mem_map_of_mem (f := outcome) (mem_replies perform before call rest state)
  rw [← split, agrees.answers, unanswered] at listed
  obtain ⟨_, _, same⟩ := List.mem_map.mp listed
  contradiction

theorem Implements.fits_after
    (implements : Implements limit tooFar request perform view outcome fit) (calls : List γ) :
    ∀ (state : σ) (left : Nat), fit (calls.length + left) state →
      fit left (after perform state calls) := by
  induction calls with
  | nil =>
    intro state left fits
    rwa [List.length_nil, Nat.zero_add] at fits
  | cons call calls ih =>
    intro state left fits
    apply ih (perform state call).1 left
    apply implements.fits
    have same : calls.length + left + 1 = (call :: calls).length + left := by
      rw [List.length_cons]
      omega
    rw [same]
    exact fits

theorem Implements.agrees
    (implements : Implements limit tooFar request perform view outcome fit) {state : σ}
    {calls : List γ} (fits : fit calls.length state) (empty : view state = fun _ => none)
    (forward : (calls.map fun call => (request call).now).Pairwise (· ≤ ·)) :
    Agrees limit tooFar request perform view outcome state calls := by
  have keeps : ∀ before call rest, calls = before ++ call :: rest →
      KeepsLive (request call).now (view (after perform state before))
        (view (after perform state (before ++ [call]))) := by
    intro before call rest split
    have length : calls.length = before.length + (rest.length + 1) := by
      rw [split, List.length_append, List.length_cons]
    rw [length] at fits
    have updated := implements.updates _ _ call (implements.fits_after before state _ fits)
    have last : after perform state (before ++ [call]) =
        (perform (after perform state before) call).1 := by
      rw [after, List.foldl_append]
      rfl
    rw [last]
    exact keepsLive_of_prune updated
  cases calls with
  | nil =>
    refine ⟨rfl, ?_, keeps⟩
    intro later _
    show (view state).prune later = _
    rw [empty]
    rfl
  | cons call calls =>
    have sorted := List.pairwise_cons.mp forward
    have ahead : ∀ other ∈ call :: calls, (request call).now ≤ (request other).now := by
      intro other member
      rcases List.mem_cons.mp member with same | member
      · rw [same]
      · exact sorted.1 _ (List.mem_map_of_mem member)
    have agrees : ∀ later, (request call).now ≤ later →
        (view state).prune later = Ledger.prune later fun _ => none := by
      intro later _
      rw [empty]
    obtain ⟨answered, ends⟩ := implements.run (call :: calls) state (fun _ => none)
      (request call).now fits agrees ahead forward
    refine ⟨answered, ?_, keeps⟩
    intro later passed
    exact ends later passed (passed call List.mem_cons_self)

end Running

section Rows

variable [DecidableEq κ] {ι : Type}

/-- The ledger of rows under their keys. -/
def ofRows (deadline : ι → τ) (rows : AList fun _ : κ => ι) : Ledger κ τ :=
  fun key => (rows.lookup key).map deadline

omit [LinearOrder τ] in
theorem ofRows_eq_some {deadline : ι → τ} {rows : AList fun _ : κ => ι} {key : κ} {time : τ} :
    ofRows deadline rows key = some time ↔
      ∃ row, rows.lookup key = some row ∧ deadline row = time := by
  rw [ofRows, Option.map_eq_some_iff]

theorem keys_toFinset_card (rows : AList fun _ : κ => ι) :
    rows.keys.toFinset.card = rows.entries.length := by
  have distinct : rows.keys.Nodup := rows.nodupKeys
  rw [List.toFinset_card_of_nodup distinct, AList.keys, List.keys, List.length_map]

theorem liveKeys_subset (now : τ) (deadline : ι → τ) (rows : AList fun _ : κ => ι) :
    ((ofRows deadline rows).prune now).liveKeys ⊆ rows.keys.toFinset := by
  intro key live
  obtain ⟨time, listed⟩ := Option.isSome_iff_exists.mp live
  obtain ⟨row, found, _⟩ := ofRows_eq_some.mp (prune_eq_some.mp listed).1
  rw [Finset.mem_coe, List.mem_toFinset, ← AList.mem_keys, ← AList.lookup_isSome, found]
  rfl

/-- There are at least as many rows as live keys. -/
theorem ncard_liveKeys_le (now : τ) (deadline : ι → τ) (rows : AList fun _ : κ => ι) :
    ((ofRows deadline rows).prune now).liveKeys.ncard ≤ rows.entries.length := by
  have within := Set.ncard_le_ncard (liveKeys_subset now deadline rows)
    (Finset.finite_toSet rows.keys.toFinset)
  rw [Set.ncard_coe_finset, keys_toFinset_card] at within
  exact within

/-- All rows are live, so they are counted exactly. -/
theorem ncard_liveKeys_eq {now : τ} {deadline : ι → τ} {rows : AList fun _ : κ => ι}
    (live : ∀ key row, rows.lookup key = some row → now < deadline row) :
    ((ofRows deadline rows).prune now).liveKeys.ncard = rows.entries.length := by
  rw [← keys_toFinset_card, ← Set.ncard_coe_finset]
  congr 1
  apply Set.Subset.antisymm (liveKeys_subset now deadline rows)
  intro key member
  rw [Finset.mem_coe, List.mem_toFinset, ← AList.mem_keys, ← AList.lookup_isSome] at member
  obtain ⟨row, found⟩ := Option.isSome_iff_exists.mp member
  have listed : (ofRows deadline rows).prune now key = some (deadline row) :=
    prune_eq_some.mpr ⟨ofRows_eq_some.mpr ⟨row, found, rfl⟩, live key row found⟩
  show ((ofRows deadline rows).prune now key).isSome = true
  rw [listed]
  rfl

/-- Rows that are over left, unless all rows were live: then the table is full exactly when as many
keys are live as it may hold. -/
theorem full_iff {now : τ} {deadline : ι → τ} {before rows : AList fun _ : κ => ι} {limit : Nat}
    (size : before.entries.length ≤ limit)
    (same : (ofRows deadline rows).prune now = (ofRows deadline before).prune now)
    (shrinks : rows.entries.length ≤ before.entries.length)
    (progress : rows.entries.length < before.entries.length ∨
      ∀ key row, before.lookup key = some row → now < deadline row) :
    limit ≤ rows.entries.length ↔ ((ofRows deadline before).prune now).liveKeys.ncard = limit := by
  have least := ncard_liveKeys_le now deadline rows
  rw [same] at least
  rcases progress with fewer | live
  · omega
  · have counted := ncard_liveKeys_eq live
    omega

end Rows

end WebTsToolkit.Library.Ledger
