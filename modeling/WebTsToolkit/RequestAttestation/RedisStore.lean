import Mathlib.Data.Prod.Lex
import Mathlib.Data.String.Basic
import WebTsToolkit.Library.Rows
import WebTsToolkit.RequestAttestation.MemoryStore

set_option autoImplicit false

namespace WebTsToolkit.RequestAttestation

open Js Library Library.Ledger

/-- A sorted set of Redis, with the time at which its key expires. Without members there is no
key. -/
structure SortedSet where
  members : AList fun _ : String => Int
  expireAt : Option Int

/-- The number of expired entries that the script removes besides the requested one. -/
def scriptSweepSize : Nat := 64

namespace SortedSet

def empty : SortedSet where
  members := ∅
  expireAt := none

def zscore (set : SortedSet) (member : String) : Option Int :=
  set.members.lookup member

def zcard (set : SortedSet) : Nat :=
  set.members.entries.length

/-- A key goes with its last member, and so does its expiry. -/
def zrem (set : SortedSet) (removed : List String) : SortedSet :=
  let members := Rows.keep set.members fun member _ => !removed.contains member
  { members, expireAt := if members.entries.isEmpty then none else set.expireAt }

def zadd (set : SortedSet) (score : Int) (member : String) : SortedSet :=
  { set with members := set.members.insert member score }

/-- Members come in the order of their scores, and in their own order under one score. -/
def precedes (left right : String × Int) : Bool :=
  toLex (left.2, left.1) ≤ toLex (right.2, right.1)

def ascending (set : SortedSet) : List (String × Int) :=
  (set.members.entries.map fun entry => (entry.1, entry.2)).mergeSort precedes

/-- `ZRANGEBYSCORE key -inf max LIMIT 0 count`. -/
def zrangebyscore (set : SortedSet) (max : Int) (count : Nat) : List String :=
  ((set.ascending.filter fun entry => entry.2 ≤ max).take count).map Prod.fst

/-- `ZREVRANGE key 0 0 WITHSCORES`. -/
def zrevrange (set : SortedSet) : Option (String × Int) :=
  set.ascending.getLast?

def pexpireat (set : SortedSet) (time now : Int) : SortedSet :=
  if time ≤ now then .empty else { set with expireAt := some time }

/-- Redis drops a key at some moment from its expiry on. -/
def drop (set : SortedSet) (now : Int) (dropped : Bool) : SortedSet :=
  if dropped && set.expireAt.any fun time => time ≤ now then .empty else set

/-- The set after the removals of an admission: expired members, then the requested one. -/
def reclaimed (set : SortedSet) (member : String) (now : Int) : SortedSet :=
  let swept := set.zrem (set.zrangebyscore now scriptSweepSize)
  if (set.zscore member).isSome then swept.zrem [member] else swept

/-- What the set says: the deadline of each member. -/
def ledger (set : SortedSet) : Ledger String Int :=
  ofRows id set.members

/-- The set holds as many members as the store may hold, and its key outlives them. -/
structure Coherent (maxEntries : Nat) (set : SortedSet) : Prop where
  within : set.zcard ≤ maxEntries
  outlives : ∀ time, set.expireAt = some time → ∀ member score,
    set.zscore member = some score → score ≤ time

variable {set : SortedSet} {now : Int}

theorem ledger_eq (set : SortedSet) (member : String) : set.ledger member = set.zscore member :=
  Option.map_id_apply

variable {member : String} {score : Int} {removed : List String}

theorem mem_ascending : (member, score) ∈ set.ascending ↔ set.zscore member = some score := by
  rw [ascending, List.mem_mergeSort, zscore, ← Option.mem_def, AList.mem_lookup_iff, List.mem_map]
  constructor
  · intro listed
    obtain ⟨entry, inside, same⟩ := listed
    obtain ⟨first, second⟩ := Prod.mk.inj same
    rw [← first, ← second]
    exact inside
  · intro inside
    exact ⟨⟨member, score⟩, inside, rfl⟩

theorem past_of_mem_zrangebyscore {count : Nat} (listed : member ∈ set.zrangebyscore now count) :
    ∃ score, set.zscore member = some score ∧ score ≤ now := by
  obtain ⟨entry, taken, same⟩ := List.mem_map.mp listed
  have filtered := List.mem_of_mem_take taken
  rw [List.mem_filter, decide_eq_true_iff] at filtered
  refine ⟨entry.2, ?_, filtered.2⟩
  rw [← same]
  exact mem_ascending.mp filtered.1

/-- The range is empty only if no member is within it. -/
theorem ahead_of_zrangebyscore_eq_nil {count : Nat} (some_ : 0 < count)
    (nothing : set.zrangebyscore now count = []) (found : set.zscore member = some score) :
    now < score := by
  by_contra past
  rw [zrangebyscore, List.map_eq_nil_iff, List.take_eq_nil_iff] at nothing
  rcases nothing with zero | nothing
  · omega
  · have listed := List.filter_eq_nil_iff.mp nothing (member, score) (mem_ascending.mpr found)
    apply listed
    rw [decide_eq_true_iff]
    exact not_lt.mp past

theorem precedes_iff {left right : String × Int} :
    precedes left right = true ↔ toLex (left.2, left.1) ≤ toLex (right.2, right.1) :=
  decide_eq_true_iff

theorem ascending_sorted (set : SortedSet) :
    set.ascending.Pairwise fun left right => precedes left right = true := by
  apply List.pairwise_mergeSort
  · intro first second third before after
    rw [precedes_iff] at before after ⊢
    exact le_trans before after
  · intro left right
    rw [Bool.or_eq_true, precedes_iff, precedes_iff]
    exact le_total _ _

theorem score_le_of_precedes {left right : String × Int} (before : precedes left right = true) :
    left.2 ≤ right.2 := by
  rw [precedes_iff, Prod.Lex.le_iff] at before
  rcases before with less | same
  · exact le_of_lt less
  · exact le_of_eq same.1

/-- The first member in descending order has the largest score. -/
theorem le_of_zrevrange {last : String × Int} (found : set.zrevrange = some last)
    (listed : set.zscore member = some score) : score ≤ last.2 := by
  have sorted := set.ascending_sorted
  have inside := mem_ascending.mpr listed
  rw [zrevrange, List.getLast?_eq_some_iff] at found
  obtain ⟨front, split⟩ := found
  rw [split] at inside sorted
  rcases List.mem_append.mp inside with before | here
  · have related := (List.pairwise_append.mp sorted).2.2 _ before last List.mem_cons_self
    exact score_le_of_precedes related
  · rw [← List.mem_singleton.mp here]

theorem zscore_zrem (set : SortedSet) (removed : List String) (member : String) :
    (set.zrem removed).zscore member = if member ∈ removed then none else set.zscore member := by
  rw [zscore, zrem, Rows.lookup_keep]
  by_cases listed : member ∈ removed
  · rw [if_pos listed]
    cases set.members.lookup member with
    | none => rfl
    | some score => simp [listed]
  · rw [if_neg listed, zscore]
    cases set.members.lookup member with
    | none => rfl
    | some score => simp [listed]

theorem expireAt_zrem {time : Int} (expires : (set.zrem removed).expireAt = some time) :
    set.expireAt = some time := by
  rw [zrem] at expires
  simp only at expires
  split at expires
  · contradiction
  · exact expires

theorem zcard_zrem_le (set : SortedSet) (removed : List String) :
    (set.zrem removed).zcard ≤ set.zcard :=
  Rows.length_keep_le set.members _

theorem zcard_zrem_lt (found : set.zscore member = some score) (listed : member ∈ removed) :
    (set.zrem removed).zcard < set.zcard := by
  apply Rows.length_keep_lt found
  simp [listed]

variable {maxEntries : Nat}

theorem Coherent.empty : Coherent maxEntries SortedSet.empty where
  within := Nat.zero_le _
  outlives := by
    intro time expires
    contradiction

theorem Coherent.zrem (coherent : Coherent maxEntries set) (removed : List String) :
    Coherent maxEntries (set.zrem removed) where
  within := le_trans (zcard_zrem_le set removed) coherent.within
  outlives := by
    intro time expires member score found
    rw [zscore_zrem] at found
    split at found
    · contradiction
    · exact coherent.outlives time (expireAt_zrem expires) member score found

/-- A removal of members that are all over. -/
theorem prune_zrem
    (past : ∀ member ∈ removed, ∀ score, set.zscore member = some score → score ≤ now) :
    (set.zrem removed).ledger.prune now = set.ledger.prune now := by
  funext member
  rw [prune, prune, ledger_eq, ledger_eq, zscore_zrem]
  by_cases listed : member ∈ removed
  · rw [if_pos listed]
    cases found : set.zscore member with
    | none => rfl
    | some score =>
      have ended := past member listed score found
      rw [Option.filter_some, if_neg (by simpa using ended)]
      rfl
  · rw [if_neg listed]

/-- A key that outlives its members is dropped when they are all over. -/
theorem Coherent.drop (coherent : Coherent maxEntries set) (now : Int) (dropped : Bool) :
    Coherent maxEntries (set.drop now dropped) ∧
      (set.drop now dropped).ledger.prune now = set.ledger.prune now := by
  rw [SortedSet.drop]
  by_cases gone : (dropped && set.expireAt.any fun time => decide (time ≤ now)) = true
  · rw [if_pos gone]
    refine ⟨Coherent.empty, ?_⟩
    rw [Bool.and_eq_true, Option.any_eq_true] at gone
    obtain ⟨_, time, expires, passed⟩ := gone
    funext member
    rw [prune, prune, ledger_eq, ledger_eq]
    cases found : set.zscore member with
    | none => rfl
    | some score =>
      have before := coherent.outlives time expires member score found
      have ended : score ≤ now := le_trans before (of_decide_eq_true passed)
      rw [Option.filter_some, if_neg (by simpa using ended)]
      rfl
  · rw [if_neg gone]
    exact ⟨coherent, rfl⟩

theorem Coherent.reclaimed (coherent : Coherent maxEntries set) (member : String) (now : Int) :
    Coherent maxEntries (set.reclaimed member now) := by
  have swept := coherent.zrem (set.zrangebyscore now scriptSweepSize)
  rw [SortedSet.reclaimed]
  split
  · exact swept.zrem [member]
  · exact swept

theorem zcard_reclaimed_le (set : SortedSet) (member : String) (now : Int) :
    (set.reclaimed member now).zcard ≤ set.zcard := by
  have swept := zcard_zrem_le set (set.zrangebyscore now scriptSweepSize)
  rw [reclaimed]
  split
  · exact le_trans (zcard_zrem_le _ _) swept
  · exact swept

/-- The requested member is gone afterwards. -/
theorem zscore_reclaimed (set : SortedSet) (member : String) (now : Int) :
    (set.reclaimed member now).zscore member = none := by
  rw [reclaimed]
  cases found : set.zscore member with
  | none =>
    rw [Option.isSome_none, if_neg Bool.false_ne_true, zscore_zrem, found]
    split <;> rfl
  | some score =>
    rw [Option.isSome_some, if_pos rfl, zscore_zrem, if_pos List.mem_cons_self]

theorem prune_reclaimed {now : Int} (dead : ∀ score, set.zscore member = some score → score ≤ now) :
    (set.reclaimed member now).ledger.prune now = set.ledger.prune now := by
  have swept : (set.zrem (set.zrangebyscore now scriptSweepSize)).ledger.prune now =
      set.ledger.prune now := by
    apply prune_zrem
    intro other listed score found
    obtain ⟨score', found', past⟩ := past_of_mem_zrangebyscore listed
    rw [found, Option.some.injEq] at found'
    rw [found']
    exact past
  rw [reclaimed]
  split
  · rw [← swept]
    apply prune_zrem
    intro other listed score found
    rw [zscore_zrem] at found
    split at found
    · contradiction
    · rw [List.mem_singleton.mp listed] at found
      exact dead score found
  · exact swept

/-- Either a member left, or all members are ahead. -/
theorem reclaimed_progress (set : SortedSet) (member : String) (now : Int) :
    (set.reclaimed member now).zcard < set.zcard ∨
      ∀ other score, set.zscore other = some score → now < score := by
  by_cases nothing : set.zrangebyscore now scriptSweepSize = []
  · right
    intro other score found
    exact ahead_of_zrangebyscore_eq_nil (by decide) nothing found
  · left
    obtain ⟨first, listed⟩ := List.exists_mem_of_ne_nil _ nothing
    obtain ⟨score, found, _⟩ := past_of_mem_zrangebyscore listed
    have swept := zcard_zrem_lt found listed
    rw [reclaimed]
    split
    · exact lt_of_le_of_lt (zcard_zrem_le _ _) swept
    · exact swept

/-- After the removals the set is full exactly when it is full of members that are ahead. -/
theorem Coherent.reclaimed_full (coherent : Coherent maxEntries set) {now : Int}
    (dead : ∀ score, set.zscore member = some score → score ≤ now) :
    maxEntries ≤ (set.reclaimed member now).zcard ↔
      (set.ledger.prune now).liveKeys.ncard = maxEntries := by
  exact full_iff coherent.within (prune_reclaimed dead) (zcard_reclaimed_le set member now)
    (reclaimed_progress set member now)

theorem mem_liveKeys : member ∈ (set.ledger.prune now).liveKeys ↔
    (set.zscore member).any (fun score => decide (now < score)) = true := by
  show (set.ledger.prune now member).isSome = true ↔ _
  rw [prune, ledger_eq, Option.isSome_filter]

/-- A member that has none joins, and the key outlives all members. -/
theorem coherent_added (absent : set.zscore member = none) (room : set.zcard < maxEntries)
    (ahead : now < score) :
    ∃ last, (set.zadd score member).zrevrange = some last ∧
      Coherent maxEntries ((set.zadd score member).pexpireat last.2 now) ∧
      ((set.zadd score member).pexpireat last.2 now).ledger =
        Function.update set.ledger member (some score) := by
  have lookup (other : String) : (set.zadd score member).zscore other =
      if other = member then some score else set.zscore other :=
    Rows.lookup_insert set.members member other score
  have own : (set.zadd score member).zscore member = some score := by
    rw [lookup, if_pos rfl]
  have listed := mem_ascending.mpr own
  cases found : (set.zadd score member).zrevrange with
  | none =>
    rw [zrevrange, List.getLast?_eq_none_iff] at found
    rw [found] at listed
    contradiction
  | some last =>
    have latest := le_of_zrevrange found own
    refine ⟨last, rfl, ?_, ?_⟩
    · rw [pexpireat, if_neg (by omega)]
      constructor
      · show (set.members.insert member score).entries.length ≤ maxEntries
        rw [Rows.length_insert absent]
        exact room
      · intro time expires other score' listed'
        rw [← Option.some.inj expires]
        exact le_of_zrevrange found listed'
    · rw [pexpireat, if_neg (by omega)]
      funext other
      show (set.zadd score member).ledger other = _
      rw [ledger_eq, lookup, Function.update_apply, ledger_eq]

end SortedSet

/-- What the key of the ledger holds. -/
inductive LedgerKey where
  | zset (set : SortedSet)
  | other

/-- The script from the duplicate check on: the replies `0`, `3` and `1`. -/
def scriptAdmission (set : SortedSet) (member : String) (retainUntil maxEntries now : Int) :
    SortedSet × Nat :=
  if (set.zscore member).any fun score => now < score then (set, 0)
  else
    let reclaimed := set.reclaimed member now
    if maxEntries ≤ reclaimed.zcard then (reclaimed, 3)
    else
      let added := reclaimed.zadd retainUntil member
      match added.zrevrange with
      | none => (added, 1)
      | some last => (added.pexpireat last.2 now, 1)

/-- `RESERVE_ATTESTATION_SCRIPT`, at the time of the server. -/
def reserveAttestationScript (key : LedgerKey) (member : String)
    (retainUntil maxEntries now : Int) : LedgerKey × Except String Nat :=
  if retainUntil < 0 ∨ 9007199254740991 < retainUntil then (key, .ok 4)
  else if maxEntries ≤ 0 ∨ 9007199254740991 < maxEntries then (key, .ok 4)
  else if retainUntil ≤ now then (key, .ok 2)
  else if 240000 < retainUntil - now then (key, .ok 4)
  else
    match key with
    | .other => (key, .error "Attestation Redis replay key has unexpected type")
    | .zset set =>
      let admission := scriptAdmission set member retainUntil maxEntries now
      (.zset admission.1, .ok admission.2)

/-- A store of Redis, with the key of its ledger. `maxEntries` is a positive safe integer. -/
structure RedisAttestationStore where
  maxEntries : Nat
  positive : 0 < maxEntries
  safe : isSafeInteger maxEntries = true
  ledgerKey : LedgerKey

/-- What `reserve` makes of the script's reply. -/
def RedisAttestationStore.answerOf : Except String Nat → Except StoreError ReserveResult
  | .error message => .error (.unavailable ("Attestation Redis reservation failed: " ++ message))
  | .ok 1 => .ok .reserved
  | .ok 0 => .ok .duplicate
  | .ok 2 => .ok .expired
  | .ok 3 => .error (.reserve .capacity)
  | .ok 4 => .error (.reserve (.protocol (protocolError
      "retainUntilMs exceeds the 240000 ms global retention cap or is not a safe live deadline")))
  | .ok _ => .error (.unavailable "Attestation Redis store received an unexpected script reply.")

open SortedSet

variable {set : SortedSet} {maxEntries : Nat}

/-- An admission by the script is a reservation in the ledger of the set. -/
theorem SortedSet.Coherent.scriptAdmission (coherent : Coherent maxEntries set)
    {request : Request String Int} (ahead : request.now < request.deadline)
    (near : overlong request.now request.deadline = false) :
    Coherent maxEntries
        (scriptAdmission set request.key request.deadline maxEntries request.now).1 ∧
      (scriptAdmission set request.key request.deadline maxEntries request.now).1.ledger.prune
          request.now =
        (set.ledger.reserve maxEntries overlong request).1 ∧
      sharedOutcome (RedisAttestationStore.answerOf
          (.ok (scriptAdmission set request.key request.deadline maxEntries request.now).2)) =
        some (set.ledger.reserve maxEntries overlong request).2 := by
  rw [reserve_of_ahead (not_le.mpr ahead) near, RequestAttestation.scriptAdmission]
  by_cases live : (set.zscore request.key).any (fun score => decide (request.now < score)) = true
  · rw [if_pos live, if_pos (mem_liveKeys.mpr live)]
    exact ⟨coherent, rfl, rfl⟩
  · rw [if_neg live, if_neg (mt mem_liveKeys.mp live)]
    have dead : ∀ score, set.zscore request.key = some score → score ≤ request.now := by
      intro score found
      rw [found] at live
      simpa using live
    have full := coherent.reclaimed_full dead
    have same := prune_reclaimed dead
    have reclaimed := coherent.reclaimed request.key request.now
    simp only [Int.ofNat_le]
    by_cases room : maxEntries ≤ (set.reclaimed request.key request.now).zcard
    · rw [if_pos room, if_pos (full.mp room)]
      exact ⟨reclaimed, same, rfl⟩
    · rw [if_neg room, if_neg (mt full.mpr room)]
      obtain ⟨last, found, after, ledger⟩ := coherent_added
        (zscore_reclaimed set request.key request.now) (not_le.mp room) ahead
      rw [found]
      refine ⟨after, ?_, rfl⟩
      show prune request.now (SortedSet.ledger (SortedSet.pexpireat _ _ _)) = _
      rw [ledger, ← same]
      funext key
      by_cases requested : key = request.key
      · rw [requested, prune, Function.update_self, Option.filter_some,
          if_pos (decide_eq_true ahead)]
        simp only [Function.update_self]
      · rw [prune, Function.update_of_ne requested]
        simp only [Function.update_of_ne requested]
        rfl

/-- The script is a reservation in the ledger of its key. -/
theorem SortedSet.Coherent.script (coherent : Coherent maxEntries set) (positive : 0 < maxEntries)
    (safe : isSafeInteger maxEntries = true) (call : ReserveCall) :
    ∃ after, (reserveAttestationScript (.zset set) call.replayKey call.retainUntilMs maxEntries
          call.nowMs).1 = .zset after ∧
      Coherent maxEntries after ∧
      after.ledger.prune call.nowMs = (set.ledger.reserve maxEntries overlong call.request).1 ∧
      sharedOutcome (RedisAttestationStore.answerOf (reserveAttestationScript (.zset set)
          call.replayKey call.retainUntilMs maxEntries call.nowMs).2) =
        some (set.ledger.reserve maxEntries overlong call.request).2 := by
  have deadline := assertTimestampMs_ok call.deadlineValid
  rw [isSafeInteger_iff] at safe deadline
  rw [reserveAttestationScript, if_neg (by omega), if_neg (by omega)]
  by_cases past : call.retainUntilMs ≤ call.nowMs
  · rw [if_pos past, reserve_of_past past]
    exact ⟨set, rfl, coherent, rfl, rfl⟩
  · rw [if_neg past]
    by_cases far : 240000 < call.retainUntilMs - call.nowMs
    · have beyond : overlong call.nowMs call.retainUntilMs = true := decide_eq_true far
      rw [if_pos far, reserve_of_far past beyond]
      exact ⟨set, rfl, coherent, rfl, rfl⟩
    · rw [if_neg far]
      have near : overlong call.nowMs call.retainUntilMs = false := decide_eq_false far
      obtain ⟨after, updated, answer⟩ :=
        coherent.scriptAdmission (show call.request.now < _ from not_le.mp past) near
      exact ⟨_, rfl, after, updated, answer⟩

namespace RedisAttestationStore

/-- The checks of `reserve` before it calls Redis. -/
def checkInput (replayKey : String) (retainUntilMs : Option Int) :
    Except AttestationProtocolError Int := do
  validateReplayKey replayKey
  match retainUntilMs with
  | none => .error (protocolError "retainUntilMs must be a non-negative safe integer")
  | some retainUntilMs => do
    assertTimestampMs "retainUntilMs" retainUntilMs
    .ok retainUntilMs

/-- `RedisAttestationStore.reserve`, where the server reads `now` and may first drop the key. -/
def reserve (store : RedisAttestationStore) (replayKey : String)
    (retainUntilMs retainUntil : Option Int) (now : Int) (dropped : Bool) :
    RedisAttestationStore × Except StoreError ReserveResult :=
  match checkInput replayKey (retainUntilMs.or retainUntil) with
  | .error error => (store, .error (.reserve (.protocol error)))
  | .ok retainUntilMs =>
    let key := match store.ledgerKey with
      | .zset set => .zset (set.drop now dropped)
      | .other => .other
    let result := reserveAttestationScript key replayKey retainUntilMs store.maxEntries now
    ({ store with ledgerKey := result.1 }, answerOf result.2)

theorem checkInput_call (call : ReserveCall) :
    checkInput call.replayKey (some call.retainUntilMs) = .ok call.retainUntilMs := by
  unfold checkInput
  rw [call.keyValid]
  show (assertTimestampMs "retainUntilMs" call.retainUntilMs >>= _) = _
  rw [call.deadlineValid]
  rfl

/-- One valid call, where Redis may first drop the key. -/
def perform (store : RedisAttestationStore) (call : ReserveCall × Bool) :
    RedisAttestationStore × Except StoreError ReserveResult :=
  store.reserve call.1.replayKey (some call.1.retainUntilMs) none call.1.nowMs call.2

/-- What the key says. -/
def ledger (store : RedisAttestationStore) : Ledger String Int :=
  match store.ledgerKey with
  | .zset set => set.ledger
  | .other => fun _ => none

def Coherent (store : RedisAttestationStore) : Prop :=
  ∃ set, store.ledgerKey = .zset set ∧ set.Coherent store.maxEntries

theorem Coherent.perform {store : RedisAttestationStore} (coherent : Coherent store)
    (call : ReserveCall × Bool) :
    Coherent (store.perform call).1 ∧
      (store.perform call).1.maxEntries = store.maxEntries ∧
      (store.perform call).1.ledger.prune call.1.nowMs =
        (store.ledger.reserve store.maxEntries overlong call.1.request).1 ∧
      sharedOutcome (store.perform call).2 =
        some (store.ledger.reserve store.maxEntries overlong call.1.request).2 := by
  obtain ⟨set, holds, inside⟩ := coherent
  obtain ⟨dropped, same⟩ := inside.drop call.1.nowMs call.2
  obtain ⟨after, found, coherent', updated, answer⟩ :=
    dropped.script store.positive store.safe call.1
  have ledger : store.ledger = set.ledger := by
    rw [RedisAttestationStore.ledger, holds]
  have unchanged : (set.drop call.1.nowMs call.2).ledger.reserve store.maxEntries overlong
      call.1.request = set.ledger.reserve store.maxEntries overlong call.1.request := by
    rw [← reserve_prune]
    exact (congrArg (Ledger.reserve store.maxEntries overlong · call.1.request) same).trans
      reserve_prune
  rw [unchanged] at updated answer
  rw [RedisAttestationStore.perform, RedisAttestationStore.reserve, Option.some_or,
    checkInput_call, ledger, holds]
  refine ⟨⟨after, found, coherent'⟩, rfl, ?_, answer⟩
  rw [RedisAttestationStore.ledger]
  simp only [found]
  exact updated

theorem implements_ledger (maxEntries : Nat) :
    Implements maxEntries overlong (fun call : ReserveCall × Bool => call.1.request)
      RedisAttestationStore.perform RedisAttestationStore.ledger sharedOutcome
      (fun _ store => Coherent store ∧ store.maxEntries = maxEntries) where
  fits := by
    intro _ store call fit
    have after := fit.1.perform call
    exact ⟨after.1, after.2.1.trans fit.2⟩
  answers := by
    intro _ store call fit
    have after := fit.1.perform call
    rw [after.2.2.2, fit.2]
  updates := by
    intro _ store call fit
    have after := fit.1.perform call
    rw [← fit.2]
    exact after.2.2.1

end RedisAttestationStore

end WebTsToolkit.RequestAttestation
