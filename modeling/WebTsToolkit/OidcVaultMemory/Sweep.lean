import WebTsToolkit.Js.Map
import WebTsToolkit.OidcVault.Session

set_option autoImplicit false

namespace WebTsToolkit.OidcVaultMemory

open Js Library OidcVault

/-- Positional sweep state for one record map. -/
structure MapSweepState where
  keys : List String
  position : Nat

def expirySweepBatchSize : Nat := 64

/-- A map after a sweep, the state of its sweeps, and the records that the sweep deleted. -/
structure Swept (α : Type) where
  map : Map α
  sweep : MapSweepState
  removed : List α

variable {α : Type}

namespace MapSweepState

def new : MapSweepState where
  keys := []
  position := 0

def exhausted (sweep : MapSweepState) : Bool :=
  sweep.keys.length ≤ sweep.position

/-- `rebuildSweepSnapshot`. -/
def rebuild (map : Map α) : MapSweepState where
  keys := map.keys
  position := 0

/-- The next slot of the snapshot, which is rebuilt where it is exhausted and the map has grown;
none where the batch ends. -/
def next (sweep : MapSweepState) (map : Map α) : Option (String × MapSweepState) :=
  let sweep := if sweep.exhausted && sweep.keys.length < map.size then rebuild map else sweep
  sweep.keys[sweep.position]?.map fun key => (key, { sweep with position := sweep.position + 1 })

end MapSweepState

/-- The loop of a sweep with so many visits left. -/
def sweepLoop (expiresAt : α → Option Number) (now : Number) : Nat → Swept α → Swept α
  | 0, swept => swept
  | visits + 1, swept =>
    match swept.sweep.next swept.map with
    | none => swept
    | some (key, sweep) =>
      match swept.map.lookup key with
      | none => sweepLoop expiresAt now visits { swept with sweep }
      | some value =>
        if isExpiredRecord (expiresAt value) now then
          sweepLoop expiresAt now visits
            { map := swept.map.erase key, sweep, removed := swept.removed ++ [value] }
        else sweepLoop expiresAt now visits { swept with sweep }

/-- What `pruneMapBatch` and `pruneSessionsBatch` have in common. -/
def sweepBatch (expiresAt : α → Option Number) (map : Map α) (sweep : MapSweepState)
    (now : Number) : Swept α :=
  if map.size = 0 then { map, sweep := .new, removed := [] }
  else
    sweepLoop expiresAt now expirySweepBatchSize
      { map, sweep := if sweep.exhausted then .rebuild map else sweep, removed := [] }

/-- A sweep deletes expired records only, and tells which. -/
structure SweepsExpired (expiresAt : α → Option Number) (now : Number) (map : Map α)
    (swept : Swept α) : Prop where
  kept : ∀ key value, swept.map.lookup key = some value → map.lookup key = some value
  dropped : ∀ key value, map.lookup key = some value →
    swept.map.lookup key = some value ∨
      (value ∈ swept.removed ∧ isExpiredRecord (expiresAt value) now = true)

theorem sweepLoop_sweepsExpired {expiresAt : α → Option Number} {now : Number} {map : Map α}
    (visits : Nat) {swept : Swept α} (before : SweepsExpired expiresAt now map swept) :
    SweepsExpired expiresAt now map (sweepLoop expiresAt now visits swept) := by
  induction visits generalizing swept with
  | zero => exact before
  | succ visits ih =>
    rw [sweepLoop]
    split
    · exact before
    · next key sweep _ =>
      split
      · exact ih ⟨before.kept, before.dropped⟩
      · next value found =>
        split
        · next expired =>
          apply ih
          refine ⟨fun other record listed => ?_, fun other record listed => ?_⟩
          · rw [Rows.lookup_erase] at listed
            split at listed
            · contradiction
            · exact before.kept other record listed
          · rw [Rows.lookup_erase]
            by_cases same : other = key
            · subst same
              have here : value = record :=
                Option.some.inj ((before.kept _ value found).symm.trans listed)
              exact Or.inr ⟨by simp [here], here ▸ expired⟩
            · rw [if_neg same]
              exact (before.dropped other record listed).imp_right
                (And.imp_left (List.mem_append_left _))
        · exact ih ⟨before.kept, before.dropped⟩

theorem sweepBatch_sweepsExpired (expiresAt : α → Option Number) (map : Map α)
    (sweep : MapSweepState) (now : Number) :
    SweepsExpired expiresAt now map (sweepBatch expiresAt map sweep now) := by
  unfold sweepBatch
  split
  · exact ⟨fun _ _ found => found, fun _ _ found => Or.inl found⟩
  · apply sweepLoop_sweepsExpired
    exact ⟨fun _ _ found => found, fun _ _ found => Or.inl found⟩

end WebTsToolkit.OidcVaultMemory
