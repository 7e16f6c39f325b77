import Mathlib.Data.List.AList

set_option autoImplicit false

namespace WebTsToolkit.Library.Rows

variable {κ ι : Type} [DecidableEq κ] {rows : AList fun _ : κ => ι} {kept : κ → ι → Bool}

omit [DecidableEq κ] in
theorem nodupKeys_filter (rows : AList fun _ : κ => ι) (kept : κ → ι → Bool) :
    (rows.entries.filter fun entry => kept entry.1 entry.2).NodupKeys :=
  rows.nodupKeys.sublist List.filter_sublist

/-- The rows that are kept, in their order. -/
def keep (rows : AList fun _ : κ => ι) (kept : κ → ι → Bool) : AList fun _ : κ => ι where
  entries := rows.entries.filter fun entry => kept entry.1 entry.2
  nodupKeys := nodupKeys_filter rows kept

theorem lookup_keep (rows : AList fun _ : κ => ι) (kept : κ → ι → Bool) (key : κ) :
    (keep rows kept).lookup key = (rows.lookup key).filter (kept key) := by
  apply Option.ext
  intro row
  rw [Option.filter_eq_some_iff, ← Option.mem_def, ← Option.mem_def, AList.mem_lookup_iff,
    AList.mem_lookup_iff, keep, List.mem_filter]

variable {key : κ} {row : ι}

theorem lookup_keep_eq_some :
    (keep rows kept).lookup key = some row ↔ rows.lookup key = some row ∧ kept key row = true := by
  rw [lookup_keep, Option.filter_eq_some_iff]

omit [DecidableEq κ] in
theorem length_keep_le (rows : AList fun _ : κ => ι) (kept : κ → ι → Bool) :
    (keep rows kept).entries.length ≤ rows.entries.length :=
  List.length_filter_le _ _

/-- A row that is not kept makes the table smaller. -/
theorem length_keep_lt (found : rows.lookup key = some row) (dropped : kept key row = false) :
    (keep rows kept).entries.length < rows.entries.length := by
  have member : Sigma.mk key row ∈ rows.entries := AList.mem_lookup_iff.mp found
  apply List.length_filter_lt_length_iff_exists.mpr
  exact ⟨_, member, by simp [dropped]⟩

theorem length_insert (absent : rows.lookup key = none) (row : ι) :
    (rows.insert key row).entries.length = rows.entries.length + 1 := by
  rw [AList.entries_insert_of_notMem (AList.lookup_eq_none.mp absent)]
  rfl

theorem length_replace (found : rows.lookup key = some row) (row' : ι) :
    (rows.insert key row').entries.length = rows.entries.length := by
  have member : key ∈ rows.keys := by
    rw [← AList.mem_keys, ← AList.lookup_isSome, found]
    rfl
  have length := congrArg List.length (AList.keys_insert (a := key) (b := row') rows)
  rw [List.length_cons, List.length_erase_of_mem member] at length
  have positive := List.length_pos_of_mem member
  simp only [AList.keys, List.keys, List.length_map] at length positive
  omega

theorem lookup_insert (rows : AList fun _ : κ => ι) (key other : κ) (row : ι) :
    (rows.insert key row).lookup other = if other = key then some row else rows.lookup other := by
  by_cases same : other = key
  · rw [if_pos same, same]
    exact AList.lookup_insert rows
  · rw [if_neg same]
    exact AList.lookup_insert_ne same

theorem lookup_erase (rows : AList fun _ : κ => ι) (key other : κ) :
    (rows.erase key).lookup other = if other = key then none else rows.lookup other := by
  by_cases same : other = key
  · rw [if_pos same, same, AList.lookup_erase]
  · rw [if_neg same, AList.lookup_erase_ne same]

theorem length_erase (found : rows.lookup key = some row) :
    (rows.erase key).entries.length + 1 = rows.entries.length := by
  have member : key ∈ rows.keys := by
    rw [← AList.mem_keys, ← AList.lookup_isSome, found]
    rfl
  have length := congrArg List.length (AList.keys_erase key rows)
  rw [List.length_erase_of_mem member] at length
  have positive := List.length_pos_of_mem member
  simp only [AList.keys, List.keys, List.length_map] at length positive
  omega

theorem length_erase_le (rows : AList fun _ : κ => ι) (key : κ) :
    (rows.erase key).entries.length ≤ rows.entries.length := by
  have length := congrArg List.length (AList.keys_erase key rows)
  have shorter := List.length_erase_le (a := key) (l := rows.keys)
  simp only [AList.keys, List.keys, List.length_map] at length shorter
  omega

end WebTsToolkit.Library.Rows
