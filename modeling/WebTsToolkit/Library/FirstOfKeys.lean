import Mathlib.Data.List.Nodup
import Mathlib.Data.List.Perm.Subperm

set_option autoImplicit false

/- The first item of each key, in the order of the items. -/
namespace WebTsToolkit.Library

variable {α κ : Type} [DecidableEq κ] (key : α → κ)

/-- An item joins those that were kept unless its key is there. -/
def keepFirst (kept : List α) (item : α) : List α :=
  if kept.any fun other => decide (key other = key item) then kept else kept ++ [item]

def firstOfKeys (items : List α) : List α :=
  items.foldl (keepFirst key) []

variable {key}

theorem keepFirst_cases (key : α → κ) (kept : List α) (item : α) :
    (keepFirst key kept item = kept ∧ ∃ other ∈ kept, key other = key item) ∨
      (keepFirst key kept item = kept ++ [item] ∧ ∀ other ∈ kept, key other ≠ key item) := by
  unfold keepFirst
  split
  case isTrue there =>
    obtain ⟨other, member, same⟩ := List.any_eq_true.mp there
    exact Or.inl ⟨rfl, other, member, of_decide_eq_true same⟩
  case isFalse absent =>
    refine Or.inr ⟨rfl, fun other member same => absent ?_⟩
    exact List.any_eq_true.mpr ⟨other, member, decide_eq_true same⟩

variable {item : α} {items all : List α}

theorem mem_of_mem_foldl_keepFirst (items kept : List α)
    (member : item ∈ items.foldl (keepFirst key) kept) : item ∈ kept ∨ item ∈ items := by
  induction items generalizing kept with
  | nil => exact Or.inl member
  | cons first items ih =>
    rw [List.foldl_cons] at member
    rcases ih _ member with before | later
    · rcases keepFirst_cases key kept first with ⟨same, _⟩ | ⟨more, _⟩
      · rw [same] at before
        exact Or.inl before
      · rw [more, List.mem_append, List.mem_singleton] at before
        exact before.imp_right fun same => List.mem_cons.mpr (Or.inl same)
    · exact Or.inr (List.mem_cons_of_mem _ later)

theorem nodup_foldl_keepFirst (items kept : List α) (distinct : (kept.map key).Nodup) :
    ((items.foldl (keepFirst key) kept).map key).Nodup := by
  induction items generalizing kept with
  | nil => exact distinct
  | cons first items ih =>
    refine ih _ ?_
    rcases keepFirst_cases key kept first with ⟨same, _⟩ | ⟨more, apart⟩
    · rw [same]
      exact distinct
    · rw [more, List.map_append, List.map_singleton, List.nodup_append]
      refine ⟨distinct, List.nodup_singleton _, fun value member other last => ?_⟩
      obtain ⟨item, listed, rfl⟩ := List.mem_map.mp member
      rw [List.mem_singleton.mp last]
      exact apart item listed

theorem covers_foldl_keepFirst (items kept : List α) :
    ∀ item, item ∈ kept ∨ item ∈ items →
      ∃ other ∈ items.foldl (keepFirst key) kept, key other = key item := by
  induction items generalizing kept with
  | nil => exact fun item member => ⟨item, member.resolve_right List.not_mem_nil, rfl⟩
  | cons first items ih =>
    intro item member
    have grown : item ∈ kept → ∃ other ∈ keepFirst key kept first, key other = key item := by
      intro before
      rcases keepFirst_cases key kept first with ⟨same, _⟩ | ⟨more, _⟩
      · exact ⟨item, by rwa [same], rfl⟩
      · exact ⟨item, by rw [more]; exact List.mem_append_left _ before, rfl⟩
    have placed : ∃ other ∈ keepFirst key kept first, key other = key first := by
      rcases keepFirst_cases key kept first with ⟨same, there⟩ | ⟨more, _⟩
      · rw [same]
        exact there
      · exact ⟨first, by rw [more]; exact List.mem_append_right _ List.mem_cons_self, rfl⟩
    have later {value : α} (there : ∃ other ∈ keepFirst key kept first, key other = key value) :
        ∃ other ∈ items.foldl (keepFirst key) (keepFirst key kept first),
          key other = key value := by
      obtain ⟨other, listed, same⟩ := there
      obtain ⟨last, kept', same'⟩ := ih _ other (Or.inl listed)
      exact ⟨last, kept', same'.trans same⟩
    rcases member with before | listed
    · exact later (grown before)
    · rcases List.mem_cons.mp listed with rfl | rest
      · exact later placed
      · exact ih _ item (Or.inr rest)

theorem mem_of_mem_firstOfKeys {items : List α} (member : item ∈ firstOfKeys key items) :
    item ∈ items :=
  (mem_of_mem_foldl_keepFirst items [] member).resolve_left List.not_mem_nil

theorem nodup_keys_firstOfKeys (items : List α) : ((firstOfKeys key items).map key).Nodup :=
  nodup_foldl_keepFirst items [] List.nodup_nil

theorem exists_mem_firstOfKeys (key : α → κ) {items : List α} (member : item ∈ items) :
    ∃ other ∈ firstOfKeys key items, key other = key item :=
  covers_foldl_keepFirst items [] item (Or.inr member)

theorem nodup_firstOfKeys (items : List α) : (firstOfKeys key items).Nodup :=
  (nodup_keys_firstOfKeys items).of_map key

/-- Among items of distinct keys, those with the keys of a list are its first ones. -/
theorem mem_firstOfKeys_iff
    (single : ∀ item ∈ all, ∀ other ∈ all, key item = key other → item = other)
    (within : ∀ item ∈ items, item ∈ all) (item : α) :
    item ∈ firstOfKeys key items ↔ item ∈ items := by
  constructor
  · exact mem_of_mem_firstOfKeys
  · intro member
    obtain ⟨other, kept, same⟩ := exists_mem_firstOfKeys key member
    rwa [← single other (within other (mem_of_mem_firstOfKeys kept)) item (within item member) same]

/-- A list with as many keys as all items, and none but these, has each of them once. -/
theorem firstOfKeys_perm (within : ∀ item ∈ items, item ∈ all)
    (many : all.length ≤ (firstOfKeys key items).length) : (firstOfKeys key items).Perm all := by
  refine List.Subperm.perm_of_length_le (List.subperm_of_subset (nodup_firstOfKeys items) ?_) many
  exact fun item member => within item (mem_of_mem_firstOfKeys member)

/-- A list that covers items of distinct keys, and has no others, has each of them once. -/
theorem firstOfKeys_perm_of_covers (distinct : all.Nodup)
    (single : ∀ item ∈ all, ∀ other ∈ all, key item = key other → item = other)
    (within : ∀ item ∈ items, item ∈ all) (covers : ∀ item ∈ all, item ∈ items) :
    (firstOfKeys key items).Perm all := by
  refine firstOfKeys_perm within (List.Subperm.length_le (List.subperm_of_subset distinct ?_))
  exact fun item member => (mem_firstOfKeys_iff single within item).mpr (covers item member)

end WebTsToolkit.Library
