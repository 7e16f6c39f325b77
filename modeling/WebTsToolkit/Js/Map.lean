import WebTsToolkit.Library.Rows

set_option autoImplicit false

namespace WebTsToolkit.Js

/-- A `Map` with string keys: its entries in the order of their insertion. -/
abbrev Map (α : Type) := AList fun _ : String => α

namespace Map

variable {α : Type}

def size (map : Map α) : Nat :=
  map.entries.length

def values (map : Map α) : List α :=
  map.entries.map Sigma.snd

/-- A key that is there keeps its place. -/
def setEntries (key : String) (value : α) : List (Sigma fun _ : String => α) →
    List (Sigma fun _ : String => α)
  | [] => [⟨key, value⟩]
  | entry :: rest =>
    if entry.1 = key then ⟨key, value⟩ :: rest else entry :: setEntries key value rest

theorem mem_keys_setEntries {key other : String} {value : α}
    {entries : List (Sigma fun _ : String => α)} :
    other ∈ (setEntries key value entries).keys → other = key ∨ other ∈ entries.keys := by
  induction entries with
  | nil =>
    intro member
    exact Or.inl (List.mem_singleton.mp member)
  | cons entry rest ih =>
    intro member
    rw [setEntries] at member
    split at member
    · rcases List.mem_cons.mp member with same | later
      · exact Or.inl same
      · exact Or.inr (List.mem_cons_of_mem _ later)
    · rcases List.mem_cons.mp member with same | later
      · exact Or.inr (same ▸ List.mem_cons_self)
      · exact (ih later).imp_right (List.mem_cons_of_mem _)

theorem nodupKeys_setEntries (key : String) (value : α)
    {entries : List (Sigma fun _ : String => α)} (distinct : entries.NodupKeys) :
    (setEntries key value entries).NodupKeys := by
  induction entries with
  | nil => exact List.nodupKeys_singleton _
  | cons entry rest ih =>
    obtain ⟨fresh, restDistinct⟩ := List.nodupKeys_cons.mp distinct
    rw [setEntries]
    split
    · next same => exact List.nodupKeys_cons.mpr ⟨same ▸ fresh, restDistinct⟩
    · next apart =>
      refine List.nodupKeys_cons.mpr ⟨fun member => ?_, ih restDistinct⟩
      exact (mem_keys_setEntries member).elim apart fresh

/-- `map.set(key, value)`. -/
def set (map : Map α) (key : String) (value : α) : Map α where
  entries := setEntries key value map.entries
  nodupKeys := nodupKeys_setEntries key value map.nodupKeys

theorem dlookup_setEntries (key other : String) (value : α)
    (entries : List (Sigma fun _ : String => α)) :
    (setEntries key value entries).dlookup other =
      if other = key then some value else entries.dlookup other := by
  induction entries with
  | nil =>
    by_cases same : other = key
    · subst same
      simp [setEntries]
    · simp [setEntries, same]
  | cons entry rest ih =>
    obtain ⟨first, held⟩ := entry
    rw [setEntries]
    by_cases here : first = key
    · subst here
      by_cases same : other = first
      · subst same
        simp
      · simp [same]
    · by_cases at_first : other = first
      · subst at_first
        simp [here]
      · simp [here, at_first, ih]

theorem lookup_set (map : Map α) (key other : String) (value : α) :
    (map.set key value).lookup other = if other = key then some value else map.lookup other :=
  dlookup_setEntries key other value map.entries

theorem mem_values {map : Map α} {value : α} :
    value ∈ map.values ↔ ∃ key, map.lookup key = some value := by
  rw [values, List.mem_map]
  constructor
  · rintro ⟨⟨key, listed⟩, member, rfl⟩
    exact ⟨key, AList.mem_lookup_iff.mpr member⟩
  · rintro ⟨key, found⟩
    exact ⟨⟨key, value⟩, AList.mem_lookup_iff.mp found, rfl⟩

variable {β : Type}

def mapEntry (f : α → β) (entry : Sigma fun _ : String => α) : Sigma fun _ : String => β :=
  ⟨entry.1, f entry.2⟩

theorem keys_mapEntry (f : α → β) (entries : List (Sigma fun _ : String => α)) :
    (entries.map (mapEntry f)).keys = entries.keys := by
  rw [List.keys, List.keys, List.map_map]
  rfl

/-- The same keys with the images of their values. -/
def mapValues (f : α → β) (map : Map α) : Map β where
  entries := map.entries.map (mapEntry f)
  nodupKeys := by
    rw [List.NodupKeys, keys_mapEntry]
    exact map.nodupKeys

theorem lookup_mapValues (f : α → β) (map : Map α) (key : String) :
    (map.mapValues f).lookup key = (map.lookup key).map f := by
  show (map.entries.map (mapEntry f)).dlookup key = (map.entries.dlookup key).map f
  induction map.entries with
  | nil => rfl
  | cons entry rest ih =>
    obtain ⟨first, held⟩ := entry
    rw [List.map_cons, mapEntry]
    by_cases here : key = first
    · subst here
      rw [List.dlookup_cons_eq, List.dlookup_cons_eq]
      rfl
    · rw [List.dlookup_cons_ne rest ⟨first, held⟩ here, ← ih]
      exact List.dlookup_cons_ne _ (⟨first, f held⟩ : Sigma fun _ : String => β) here

theorem mapValues_set (f : α → β) (map : Map α) (key : String) (value : α) :
    (map.set key value).mapValues f = (map.mapValues f).set key (f value) := by
  apply AList.ext
  show (setEntries key value map.entries).map (mapEntry f) =
    setEntries key (f value) (map.entries.map (mapEntry f))
  induction map.entries with
  | nil => rfl
  | cons entry rest ih =>
    rw [List.map_cons, setEntries, setEntries]
    by_cases here : entry.1 = key
    · rw [if_pos here, if_pos (show (mapEntry f entry).1 = key from here)]
      rfl
    · rw [if_neg here, if_neg (show (mapEntry f entry).1 ≠ key from here), List.map_cons, ih]

section Collect

variable {ε ι : Type}

/-- A map that is filled with one computed value for each item, under the key of the item. -/
def collect (key : ι → String) (compute : ι → Except ε α) (items : List ι) (map : Map α) :
    Except ε (Map α) :=
  items.foldlM (fun map item => (compute item).map (map.set (key item))) map

variable {compute : ι → Except ε α} {key : ι → String} {items : List ι} {map final : Map α}

theorem collect_cons_eq_ok {item : ι}
    (collected : collect key compute (item :: items) map = .ok final) :
    ∃ value, compute item = .ok value ∧
      collect key compute items (map.set (key item) value) = .ok final := by
  rw [collect, List.foldlM_cons] at collected
  cases computed : compute item with
  | error reason =>
    rw [computed] at collected
    contradiction
  | ok value =>
    rw [computed] at collected
    exact ⟨value, rfl, collected⟩

/-- Keys of no item keep their value. -/
theorem lookup_collect_other (collected : collect key compute items map = .ok final)
    {other : String} (apart : other ∉ items.map key) : final.lookup other = map.lookup other := by
  induction items generalizing map with
  | nil => rw [Except.ok.inj collected]
  | cons item items ih =>
    obtain ⟨value, _, rest⟩ := collect_cons_eq_ok collected
    rw [List.map_cons, List.mem_cons, not_or] at apart
    rw [ih rest apart.2, lookup_set, if_neg apart.1]

theorem lookup_collect (collected : collect key compute items map = .ok final)
    (distinct : (items.map key).Nodup) {item : ι} (member : item ∈ items) :
    ∃ value, compute item = .ok value ∧ final.lookup (key item) = some value := by
  induction items generalizing map with
  | nil => exact absurd member List.not_mem_nil
  | cons first items ih =>
    obtain ⟨value, computed, rest⟩ := collect_cons_eq_ok collected
    rw [List.map_cons, List.nodup_cons] at distinct
    rcases List.mem_cons.mp member with rfl | later
    · refine ⟨value, computed, ?_⟩
      rw [lookup_collect_other rest distinct.1, lookup_set, if_pos rfl]
    · exact ih rest distinct.2 later

/-- Where each item has a value the map is filled. -/
theorem collect_of_computed (computed : ∀ item ∈ items, ∃ value, compute item = .ok value)
    (map : Map α) : ∃ final, collect key compute items map = .ok final := by
  induction items generalizing map with
  | nil => exact ⟨map, rfl⟩
  | cons item items ih =>
    obtain ⟨value, here⟩ := computed item List.mem_cons_self
    obtain ⟨final, rest⟩ :=
      ih (fun other member => computed other (List.mem_cons_of_mem _ member))
        (map.set (key item) value)
    refine ⟨final, ?_⟩
    rw [collect, List.foldlM_cons, here]
    exact rest

end Collect

end Map

end WebTsToolkit.Js
