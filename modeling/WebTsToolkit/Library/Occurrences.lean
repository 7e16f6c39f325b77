import Mathlib.Data.List.Induction
import Mathlib.Data.Nat.Basic
import Mathlib.Order.Nat

set_option autoImplicit false

namespace WebTsToolkit.Library

section Occurrences

variable {α κ : Type} [DecidableEq κ] (key : α → κ)

def multiplicity (value : κ) (items : List α) : Nat :=
  items.countP fun item => decide (key item = value)

/-- The items of a key with their positions. -/
def occurrences (value : κ) (items : List α) : List (α × Nat) :=
  items.zipIdx.filter fun entry => decide (key entry.1 = value)

/-- How many items before this position have its key. -/
def earlier (items : List α) (entry : α × Nat) : Nat :=
  multiplicity key (key entry.1) (items.take entry.2)

/-- The items that have this many earlier ones of their key, with their positions. -/
def numbered (items : List α) (number : Nat) : List (α × Nat) :=
  items.zipIdx.filter fun entry => decide (earlier key items entry = number)

def largestMultiplicity (items : List α) : Nat :=
  (items.map fun item => multiplicity key (key item) items).foldr max 0

theorem zipIdx_concat (items : List α) (item : α) :
    (items ++ [item]).zipIdx = items.zipIdx ++ [(item, items.length)] := by
  rw [List.zipIdx_append, Nat.zero_add, List.zipIdx_singleton]

theorem multiplicity_concat (value : κ) (items : List α) (item : α) :
    multiplicity key value (items ++ [item]) =
      multiplicity key value items + if key item = value then 1 else 0 := by
  rw [multiplicity, List.countP_append, List.countP_singleton]
  simp only [decide_eq_true_eq]
  rfl

theorem occurrences_concat (value : κ) (items : List α) (item : α) :
    occurrences key value (items ++ [item]) =
      occurrences key value items ++ if key item = value then [(item, items.length)] else [] := by
  rw [occurrences, zipIdx_concat, List.filter_append, List.filter_cons, List.filter_nil]
  simp only [decide_eq_true_eq]
  rfl

theorem length_occurrences (value : κ) (items : List α) :
    (occurrences key value items).length = multiplicity key value items := by
  induction items using List.reverseRecOn with
  | nil => rfl
  | append_singleton items item ih =>
    rw [occurrences_concat, List.length_append, ih, multiplicity_concat]
    split <;> rfl

theorem numbered_concat (items : List α) (item : α) (number : Nat) :
    numbered key (items ++ [item]) number =
      numbered key items number ++
        if multiplicity key (key item) items = number then [(item, items.length)] else [] := by
  rw [numbered, zipIdx_concat, List.filter_append]
  congr 1
  · apply List.filter_congr
    intro entry member
    have inside : entry.2 ≤ items.length := (List.snd_lt_of_mem_zipIdx member).le
    rw [earlier, List.take_append_of_le_length inside]
    rfl
  · rw [List.filter_cons, List.filter_nil, earlier, List.take_append_of_le_length (le_refl _),
      List.take_length]
    simp only [decide_eq_true_eq]

/-- A key occurs at most once under each number, by the occurrence of that number. -/
theorem filter_numbered (value : κ) (items : List α) (number : Nat) :
    (numbered key items number).filter (fun entry => decide (key entry.1 = value)) =
      (occurrences key value items)[number]?.toList := by
  induction items using List.reverseRecOn with
  | nil => rfl
  | append_singleton items item ih =>
    rw [numbered_concat, List.filter_append, ih, occurrences_concat]
    by_cases same : key item = value
    · rw [if_pos same, same, ← length_occurrences]
      rcases Nat.lt_trichotomy number (occurrences key value items).length with
        before | here | after
      · rw [if_neg (Nat.ne_of_gt before), List.getElem?_append_left before]
        simp
      · rw [if_pos here.symm, here, List.getElem?_concat_length,
          List.getElem?_eq_none (le_refl _)]
        simp [same]
      · have beyond : (occurrences key value items ++ [(item, items.length)]).length ≤ number := by
          rw [List.length_append]
          exact after
        rw [if_neg (Nat.ne_of_lt after), List.getElem?_eq_none after.le,
          List.getElem?_eq_none beyond]
        rfl
    · rw [if_neg same, List.append_nil]
      split <;> simp [same]

variable {bound : Nat}

theorem flatMap_getElem?_range (items : List α) (within : items.length ≤ bound) :
    (List.range bound).flatMap (fun index => items[index]?.toList) = items := by
  induction items generalizing bound with
  | nil => simp
  | cons item items ih =>
    obtain ⟨rest, rfl⟩ : ∃ rest, bound = rest + 1 :=
      ⟨bound - 1, by rw [List.length_cons] at within; omega⟩
    rw [List.range_succ_eq_map, List.flatMap_cons, List.flatMap_map]
    have fits : items.length ≤ rest := by
      rw [List.length_cons] at within
      omega
    simpa using ih fits

/-- Taken number by number the items of a key keep their order. -/
theorem filter_flatMap_numbered (value : κ) (items : List α)
    (within : multiplicity key value items ≤ bound) :
    ((List.range bound).flatMap (numbered key items)).filter
        (fun entry => decide (key entry.1 = value)) =
      occurrences key value items := by
  rw [List.filter_flatMap]
  simp only [filter_numbered]
  exact flatMap_getElem?_range _ (by rwa [length_occurrences])

theorem le_foldr_max {number : Nat} {numbers : List Nat} (member : number ∈ numbers) :
    number ≤ numbers.foldr max 0 := by
  induction numbers with
  | nil => exact absurd member List.not_mem_nil
  | cons first rest ih =>
    rw [List.foldr_cons]
    rcases List.mem_cons.mp member with rfl | later
    · exact Nat.le_max_left _ _
    · exact (ih later).trans (Nat.le_max_right _ _)

theorem foldr_max_le {numbers : List Nat} (bounded : ∀ number ∈ numbers, number ≤ bound) :
    numbers.foldr max 0 ≤ bound := by
  induction numbers with
  | nil => exact Nat.zero_le _
  | cons first rest ih =>
    rw [List.forall_mem_cons] at bounded
    exact Nat.max_le.mpr ⟨bounded.1, ih bounded.2⟩

theorem multiplicity_le_largest (value : κ) (items : List α) :
    multiplicity key value items ≤ largestMultiplicity key items := by
  by_cases occurs : ∃ item ∈ items, key item = value
  · obtain ⟨item, member, rfl⟩ := occurs
    exact le_foldr_max (List.mem_map_of_mem member)
  · have absent : multiplicity key value items = 0 := by
      apply List.countP_eq_zero.mpr
      intro item member
      simp only [decide_eq_true_eq]
      exact fun same => occurs ⟨item, member, same⟩
    omega

/-- A bound of every multiplicity that one of them reaches is the largest. -/
theorem eq_largestMultiplicity {items : List α} {number : Nat}
    (bounds : ∀ value, multiplicity key value items ≤ number)
    (reached : number = 0 ∨ ∃ value, multiplicity key value items = number) :
    number = largestMultiplicity key items := by
  apply Nat.le_antisymm
  · rcases reached with rfl | ⟨value, rfl⟩
    · exact Nat.zero_le _
    · exact multiplicity_le_largest key value items
  · apply foldr_max_le
    intro count member
    obtain ⟨item, _, rfl⟩ := List.mem_map.mp member
    exact bounds _

section Map

variable {β : Type} (f : β → α)

theorem multiplicity_map (value : κ) (items : List β) :
    multiplicity key value (items.map f) = multiplicity (key ∘ f) value items := by
  rw [multiplicity, List.countP_map]
  rfl

theorem largestMultiplicity_map (items : List β) :
    largestMultiplicity key (items.map f) = largestMultiplicity (key ∘ f) items := by
  rw [largestMultiplicity, List.map_map]
  simp only [Function.comp_def, multiplicity_map]
  rfl

theorem numbered_map (items : List β) (number : Nat) :
    numbered key (items.map f) number =
      (numbered (key ∘ f) items number).map fun entry => (f entry.1, entry.2) := by
  rw [numbered, List.zipIdx_map, List.filter_map]
  have counted (entry : β × Nat) :
      earlier key (items.map f) (f entry.1, entry.2) = earlier (key ∘ f) items entry := by
    rw [earlier, ← List.map_take, multiplicity_map]
    rfl
  simp only [Function.comp_def, Prod.map, id_eq, counted]
  rfl

end Map

section Injective

variable {μ : Type} [DecidableEq μ] {g : κ → μ} (injective : Function.Injective g)

include injective

theorem multiplicity_comp (value : κ) (items : List α) :
    multiplicity (g ∘ key) (g value) items = multiplicity key value items := by
  simp only [multiplicity, Function.comp_apply, injective.eq_iff]

theorem largestMultiplicity_comp (items : List α) :
    largestMultiplicity (g ∘ key) items = largestMultiplicity key items := by
  simp only [largestMultiplicity, Function.comp_apply, multiplicity_comp key injective]

theorem numbered_comp (items : List α) (number : Nat) :
    numbered (g ∘ key) items number = numbered key items number := by
  have counted (entry : α × Nat) : earlier (g ∘ key) items entry = earlier key items entry :=
    multiplicity_comp key injective _ _
  rw [numbered]
  simp only [counted]
  rfl

end Injective

end Occurrences

end WebTsToolkit.Library
