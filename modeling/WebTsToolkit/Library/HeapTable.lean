import WebTsToolkit.Library.BoundedLedger
import WebTsToolkit.Library.HeapOrder
import WebTsToolkit.Library.Rows

set_option autoImplicit false

namespace WebTsToolkit.Library

/-- Rows under their keys, with a heap of the same rows by rank. -/
structure HeapTable (κ ι : Type) where
  rows : AList fun _ : κ => ι
  heap : IndexedHeap ι

namespace HeapTable

variable {κ ι τ : Type} [DecidableEq κ] [DecidableEq ι] [LinearOrder τ]

def empty : HeapTable κ ι :=
  { rows := ∅, heap := .empty }

def size (table : HeapTable κ ι) : Nat :=
  table.rows.entries.length

/-- Removes the row at a place of the heap. -/
def remove (key : ι → κ) (rank : ι → τ) (table : HeapTable κ ι) (index : Nat) :
    HeapTable κ ι :=
  match table.heap.slots[index]? with
  | none => table
  | some removed =>
    { rows := table.rows.erase (key removed), heap := table.heap.removeAt rank index }

/-- Removes first rows up to a rank, up to a number of them. -/
def sweep (key : ι → κ) (rank : ι → τ) (bound : τ) : Nat → HeapTable κ ι → HeapTable κ ι
  | 0, table => table
  | left + 1, table =>
    match table.heap.slots[0]? with
    | none => table
    | some first =>
      if rank first ≤ bound then sweep key rank bound left (table.remove key rank 0) else table

def insert (key : ι → κ) (rank : ι → τ) (table : HeapTable κ ι) (row : ι) : HeapTable κ ι where
  rows := table.rows.insert (key row) row
  heap := table.heap.push rank row

/-- Makes room before an insertion: removes the row of its key, then first rows up to a rank. -/
def reclaim (key : ι → κ) (rank : ι → τ) (name : κ) (bound : τ) (left : Nat)
    (table : HeapTable κ ι) : HeapTable κ ι :=
  let cleared := match table.rows.lookup name with
    | some existing => table.remove key rank (table.heap.position existing)
    | none => table
  cleared.sweep key rank bound left

/-- Whether a key has a row beyond a rank. -/
def live (rank : ι → τ) (table : HeapTable κ ι) (name : κ) (bound : τ) : Bool :=
  ((table.rows.lookup name).map fun existing => decide (bound < rank existing)).getD false

/-- A reservation of a row: its key must have no row beyond the bound, and there must be room after
a reclaim. What a reservation without room removes stays removed. -/
def reserve (key : ι → κ) (rank : ι → τ) (tooFar : τ → τ → Bool) (limit left : Nat) (bound : τ)
    (table : HeapTable κ ι) (row : ι) : HeapTable κ ι × Ledger.Outcome :=
  if rank row ≤ bound then (table, .expired)
  else if tooFar bound (rank row) then (table, .rejected)
  else if table.live rank (key row) bound then (table, .duplicate)
  else
    let reclaimed := table.reclaim key rank (key row) bound left
    if limit ≤ reclaimed.size then (reclaimed, .capacity)
    else (reclaimed.insert key rank row, .reserved)

/-- The map and the heap hold the same rows: each under its own key, at its own place, and none
before its parent. -/
structure Sound (key : ι → κ) (rank : ι → τ) (table : HeapTable κ ι) : Prop where
  placed : table.heap.Placed
  ordered : table.heap.Ordered rank
  indexed : ∀ row, row ∈ table.heap.slots ↔ table.rows.lookup (key row) = some row
  keyed : ∀ name row, table.rows.lookup name = some row → key row = name

variable {key : ι → κ} {rank : ι → τ} {table : HeapTable κ ι}

omit [DecidableEq ι] in
theorem Sound.empty : Sound key rank (HeapTable.empty : HeapTable κ ι) where
  placed := by
    intro index row found
    contradiction
  ordered := by
    intro child _ above member found
    contradiction
  indexed := by
    intro row
    simp [HeapTable.empty, IndexedHeap.empty]
  keyed := by
    intro name row found
    contradiction

omit [DecidableEq ι] in
theorem Sound.mem_of_lookup (sound : Sound key rank table) {name : κ} {row : ι}
    (found : table.rows.lookup name = some row) : row ∈ table.heap.slots := by
  rw [sound.indexed, sound.keyed name row found]
  exact found

omit [DecidableEq ι] in
/-- A row knows where it is. -/
theorem Sound.getElem?_position (sound : Sound key rank table) {name : κ} {row : ι}
    (found : table.rows.lookup name = some row) :
    table.heap.slots[table.heap.position row]? = some row := by
  obtain ⟨index, here⟩ := List.mem_iff_getElem?.mp (sound.mem_of_lookup found)
  rwa [sound.placed index row here]

/-- One row leaves, and no other. -/
theorem Sound.remove (sound : Sound key rank table) {index : Nat} {removed : ι}
    (found : table.heap.slots[index]? = some removed) :
    Sound key rank (table.remove key rank index) ∧
      (table.remove key rank index).size + 1 = table.size ∧
      ∀ name, (table.remove key rank index).rows.lookup name =
        if name = key removed then none else table.rows.lookup name := by
  have placed := sound.placed.removeAt rank found
  have distinct := sound.placed.nodup
  rw [placed.2.nodup_iff, List.nodup_cons] at distinct
  have members (row : ι) : row ∈ table.heap.slots ↔
      row = removed ∨ row ∈ (table.heap.removeAt rank index).slots := by
    rw [placed.2.mem_iff, List.mem_cons]
  have own : table.rows.lookup (key removed) = some removed := by
    rw [← sound.indexed]
    exact List.mem_of_getElem? found
  have lookup := Rows.lookup_erase table.rows (key removed)
  rw [HeapTable.remove, found]
  refine ⟨⟨placed.1, sound.ordered.removeAt index, ?_, ?_⟩, Rows.length_erase own, lookup⟩
  · intro row
    show row ∈ (table.heap.removeAt rank index).slots ↔
      (table.rows.erase (key removed)).lookup (key row) = some row
    rw [lookup]
    by_cases same : key row = key removed
    · rw [if_pos same]
      constructor
      · intro member
        have there := (members row).mpr (Or.inr member)
        rw [sound.indexed, same, own] at there
        rw [← Option.some.inj there] at member
        exact absurd member distinct.1
      · intro found
        contradiction
    · rw [if_neg same, ← sound.indexed, members]
      constructor
      · intro member
        exact Or.inr member
      · intro member
        rcases member with here | member
        · rw [here] at same
          exact absurd rfl same
        · exact member
  · intro name row listed
    have before : (table.rows.erase (key removed)).lookup name = some row := listed
    rw [lookup] at before
    by_cases same : name = key removed
    · rw [if_pos same] at before
      contradiction
    · rw [if_neg same] at before
      exact sound.keyed name row before

/-- A new row joins under a key that has none. -/
theorem Sound.insert (sound : Sound key rank table) {row : ι} (fresh : row ∉ table.heap.slots)
    (free : table.rows.lookup (key row) = none) :
    Sound key rank (table.insert key rank row) ∧
      (table.insert key rank row).size = table.size + 1 ∧
      ∀ name, (table.insert key rank row).rows.lookup name =
        if name = key row then some row else table.rows.lookup name := by
  have pushed := sound.placed.push rank fresh
  have members (other : ι) : other ∈ (table.insert key rank row).heap.slots ↔
      other = row ∨ other ∈ table.heap.slots :=
    pushed.members.mem_iff.trans List.mem_cons
  have lookup (name : κ) : (table.insert key rank row).rows.lookup name =
      if name = key row then some row else table.rows.lookup name :=
    Rows.lookup_insert table.rows (key row) name row
  refine ⟨⟨pushed.placed, sound.ordered.push row, ?_, ?_⟩, Rows.length_insert free row, lookup⟩
  · intro other
    rw [members, lookup]
    by_cases same : key other = key row
    · rw [if_pos same, Option.some.injEq]
      constructor
      · intro member
        rcases member with here | member
        · exact here.symm
        · rw [sound.indexed, same, free] at member
          contradiction
      · intro here
        exact Or.inl here.symm
    · rw [if_neg same, ← sound.indexed]
      constructor
      · intro member
        rcases member with here | member
        · rw [here] at same
          exact absurd rfl same
        · exact member
      · intro member
        exact Or.inr member
  · intro name other found
    rw [lookup] at found
    by_cases same : name = key row
    · rw [if_pos same] at found
      rw [← Option.some.inj found, same]
    · rw [if_neg same] at found
      exact sound.keyed name other found

/-- Rows up to a rank may have left, and no others. -/
structure Reclaims (key : ι → κ) (rank : ι → τ) (bound : τ) (table next : HeapTable κ ι) :
    Prop where
  sound : Sound key rank next
  keeps : ∀ name row, table.rows.lookup name = some row → bound < rank row →
    next.rows.lookup name = some row
  shrinks : ∀ name row, next.rows.lookup name = some row → table.rows.lookup name = some row
  size_le : next.size ≤ table.size

omit [DecidableEq ι] in
theorem Reclaims.refl (sound : Sound key rank table) (bound : τ) :
    Reclaims key rank bound table table where
  sound := sound
  keeps := fun _ _ found _ => found
  shrinks := fun _ _ found => found
  size_le := Nat.le_refl _

omit [DecidableEq ι] in
theorem Reclaims.trans {bound : τ} {middle last : HeapTable κ ι}
    (first : Reclaims key rank bound table middle) (second : Reclaims key rank bound middle last) :
    Reclaims key rank bound table last where
  sound := second.sound
  keeps := by
    intro name row found ahead
    exact second.keeps name row (first.keeps name row found ahead) ahead
  shrinks := by
    intro name row found
    exact first.shrinks name row (second.shrinks name row found)
  size_le := Nat.le_trans second.size_le first.size_le

theorem Sound.reclaims_remove (sound : Sound key rank table) {index : Nat} {removed : ι}
    (found : table.heap.slots[index]? = some removed) {bound : τ} (past : rank removed ≤ bound) :
    Reclaims key rank bound table (table.remove key rank index) := by
  obtain ⟨after, size, lookup⟩ := sound.remove found
  have own : table.rows.lookup (key removed) = some removed := by
    rw [← sound.indexed]
    exact List.mem_of_getElem? found
  refine ⟨after, ?_, ?_, by omega⟩
  · intro name row listed ahead
    rw [lookup]
    by_cases same : name = key removed
    · rw [same, own, Option.some.injEq] at listed
      rw [← listed] at ahead
      exact absurd past (not_le.mpr ahead)
    · rw [if_neg same]
      exact listed
  · intro name row listed
    rw [lookup] at listed
    by_cases same : name = key removed
    · rw [if_pos same] at listed
      contradiction
    · rw [if_neg same] at listed
      exact listed

theorem Sound.sweep (bound : τ) (left : Nat) : ∀ table : HeapTable κ ι, Sound key rank table →
    Reclaims key rank bound table (table.sweep key rank bound left) := by
  induction left with
  | zero =>
    intro table sound
    exact Reclaims.refl sound bound
  | succ left ih =>
    intro table sound
    rw [HeapTable.sweep]
    cases found : table.heap.slots[0]? with
    | none => exact Reclaims.refl sound bound
    | some first =>
      by_cases past : rank first ≤ bound
      · simp only [if_pos past]
        have removed := sound.reclaims_remove found past
        exact removed.trans (ih _ removed.sound)
      · simp only [if_neg past]
        exact Reclaims.refl sound bound

/-- A sweep removes a row unless all rows are beyond the bound: a first row is a least one. -/
theorem Sound.sweep_progress (sound : Sound key rank table) (bound : τ) {left : Nat}
    (sweeps : 0 < left) : (table.sweep key rank bound left).size < table.size ∨
      ∀ name row, table.rows.lookup name = some row → bound < rank row := by
  obtain ⟨rest, next⟩ := Nat.exists_eq_succ_of_ne_zero (Nat.ne_of_gt sweeps)
  rw [next, HeapTable.sweep]
  cases found : table.heap.slots[0]? with
  | none =>
    right
    intro name row listed
    obtain ⟨index, here⟩ := List.mem_iff_getElem?.mp (sound.mem_of_lookup listed)
    have inside := (List.getElem?_eq_some_iff.mp here).1
    have outside := List.getElem?_eq_none_iff.mp found
    omega
  | some first =>
    by_cases past : rank first ≤ bound
    · simp only [if_pos past]
      obtain ⟨after, size, _⟩ := sound.remove found
      have shrunk := (Sound.sweep bound rest _ after).size_le
      omega
    · simp only [if_neg past]
      right
      intro name row listed
      obtain ⟨index, here⟩ := List.mem_iff_getElem?.mp (sound.mem_of_lookup listed)
      exact lt_of_lt_of_le (not_le.mp past) (sound.ordered.root_le index first row found here)

/-- Rows beyond the bound stay, and the row of the key is gone. -/
theorem Sound.reclaim (sound : Sound key rank table) {name : κ} {bound : τ}
    (dead : table.live rank name bound = false) (left : Nat) :
    Reclaims key rank bound table (table.reclaim key rank name bound left) ∧
      (table.reclaim key rank name bound left).rows.lookup name = none := by
  rw [HeapTable.reclaim]
  cases found : table.rows.lookup name with
  | none =>
    have swept := Sound.sweep bound left table sound
    refine ⟨swept, ?_⟩
    by_contra some_
    obtain ⟨row, after⟩ := Option.ne_none_iff_exists'.mp some_
    have before := swept.shrinks name row after
    rw [found] at before
    contradiction
  | some existing =>
    have past : rank existing ≤ bound := by
      rw [live, found, Option.map_some, Option.getD_some, decide_eq_false_iff_not] at dead
      exact not_lt.mp dead
    have place := sound.getElem?_position found
    have removed := sound.reclaims_remove place past
    have swept := Sound.sweep bound left _ removed.sound
    refine ⟨removed.trans swept, ?_⟩
    by_contra some_
    obtain ⟨row, after⟩ := Option.ne_none_iff_exists'.mp some_
    have before := swept.shrinks name row after
    rw [(sound.remove place).2.2, sound.keyed name existing found, if_pos rfl] at before
    contradiction

/-- Either a row left, or all rows are beyond the bound. -/
theorem Sound.reclaim_progress (sound : Sound key rank table) (name : κ) (bound : τ)
    {left : Nat} (sweeps : 0 < left) :
    (table.reclaim key rank name bound left).size < table.size ∨
      ∀ other row, table.rows.lookup other = some row → bound < rank row := by
  rw [HeapTable.reclaim]
  cases found : table.rows.lookup name with
  | none => exact sound.sweep_progress bound sweeps
  | some existing =>
    left
    have place := sound.getElem?_position found
    obtain ⟨after, size, _⟩ := sound.remove place
    have swept := (Sound.sweep bound left _ after).size_le
    simp only
    omega

omit [DecidableEq ι] in
theorem Reclaims.prune_eq {bound : τ} {next : HeapTable κ ι}
    (reclaims : Reclaims key rank bound table next) :
    (Ledger.ofRows rank next.rows).prune bound = (Ledger.ofRows rank table.rows).prune bound := by
  funext name
  apply Option.ext
  intro time
  rw [Ledger.prune_eq_some, Ledger.prune_eq_some, Ledger.ofRows_eq_some, Ledger.ofRows_eq_some]
  constructor
  · intro both
    obtain ⟨⟨row, found, same⟩, ahead⟩ := both
    exact ⟨⟨row, reclaims.shrinks name row found, same⟩, ahead⟩
  · intro both
    obtain ⟨⟨row, found, same⟩, ahead⟩ := both
    have beyond : bound < rank row := by
      rw [same]
      exact ahead
    exact ⟨⟨row, reclaims.keeps name row found beyond, same⟩, ahead⟩

/-- After a reclaim the table is full exactly when it is full of rows beyond the bound. -/
theorem Sound.reclaim_full (sound : Sound key rank table) {name : κ} {bound : τ}
    (dead : table.live rank name bound = false) {left limit : Nat} (sweeps : 0 < left)
    (size : table.size ≤ limit) :
    limit ≤ (table.reclaim key rank name bound left).size ↔
      ((Ledger.ofRows rank table.rows).prune bound).liveKeys.ncard = limit := by
  have reclaims := (sound.reclaim dead left).1
  exact Ledger.full_iff size reclaims.prune_eq reclaims.size_le
    (sound.reclaim_progress name bound sweeps)

omit [DecidableEq ι] in
theorem live_iff {name : κ} {bound : τ} : table.live rank name bound = true ↔
    name ∈ ((Ledger.ofRows rank table.rows).prune bound).liveKeys := by
  rw [live]
  show _ ↔ ((Ledger.ofRows rank table.rows).prune bound name).isSome = true
  rw [Ledger.prune, Ledger.ofRows]
  cases table.rows.lookup name with
  | none => exact Iff.rfl
  | some existing =>
    rw [Option.map_some, Option.map_some, Option.getD_some, Option.isSome_filter]
    exact Iff.rfl

/-- A reservation does to the ledger of the rows what a reservation of a deadline means. -/
theorem Sound.reserve (sound : Sound key rank table) (tooFar : τ → τ → Bool) {limit left : Nat}
    (size : table.size ≤ limit) (sweeps : 0 < left) (bound : τ) (row : ι) :
    Sound key rank (table.reserve key rank tooFar limit left bound row).1 ∧
      (table.reserve key rank tooFar limit left bound row).1.size ≤ limit ∧
      (Ledger.ofRows rank (table.reserve key rank tooFar limit left bound row).1.rows).prune bound =
        ((Ledger.ofRows rank table.rows).reserve limit tooFar
          { now := bound, key := key row, deadline := rank row }).1 ∧
      (table.reserve key rank tooFar limit left bound row).2 =
        ((Ledger.ofRows rank table.rows).reserve limit tooFar
          { now := bound, key := key row, deadline := rank row }).2 := by
  rw [HeapTable.reserve, Ledger.reserve]
  by_cases past : rank row ≤ bound
  · rw [if_pos past]
    simp only [if_pos past, and_true]
    exact ⟨sound, size⟩
  · rw [if_neg past]
    simp only [if_neg past]
    by_cases far : tooFar bound (rank row) = true
    · rw [if_pos far, if_pos far]
      exact ⟨sound, size, rfl, rfl⟩
    · rw [if_neg far, if_neg far]
      by_cases listed : table.live rank (key row) bound = true
      · rw [if_pos listed, if_pos (live_iff.mp listed)]
        exact ⟨sound, size, rfl, rfl⟩
      · have dead : table.live rank (key row) bound = false := Bool.eq_false_iff.mpr listed
        rw [if_neg listed, if_neg (mt live_iff.mpr listed)]
        obtain ⟨reclaims, free⟩ := sound.reclaim dead left
        have full := sound.reclaim_full dead sweeps size
        by_cases room : limit ≤ (table.reclaim key rank (key row) bound left).size
        · rw [if_pos room, if_pos (full.mp room)]
          exact ⟨reclaims.sound, le_trans reclaims.size_le size, reclaims.prune_eq, rfl⟩
        · rw [if_neg room, if_neg (mt full.mpr room)]
          have absent : row ∉ (table.reclaim key rank (key row) bound left).heap.slots := by
            intro member
            rw [reclaims.sound.indexed, free] at member
            contradiction
          obtain ⟨after, grown, lookup⟩ := reclaims.sound.insert absent free
          refine ⟨after, by rw [grown]; omega, ?_, rfl⟩
          funext name
          simp only
          rw [← reclaims.prune_eq]
          by_cases same : name = key row
          · rw [same, Function.update_self, Ledger.prune, Ledger.ofRows, lookup, if_pos rfl,
              Option.map_some, Option.filter_some, if_pos (decide_eq_true (not_le.mp past))]
          · rw [Function.update_of_ne same, Ledger.prune, Ledger.ofRows, lookup, if_neg same]
            rfl

end HeapTable

end WebTsToolkit.Library
