import Mathlib.Data.List.Basic

set_option autoImplicit false

/- Comparison functions whose sign says which of two items comes first. -/
namespace WebTsToolkit.Library.Comparator

variable {α : Type}

def Antisymmetric (compare : α → α → Int) : Prop :=
  ∀ first second, compare second first = -compare first second

def TransitiveOn (compare : α → α → Int) (items : List α) : Prop :=
  ∀ first ∈ items, ∀ second ∈ items, ∀ third ∈ items,
    compare first second ≤ 0 → compare second third ≤ 0 → compare first third ≤ 0

/-- Three items in a circle in which none comes after the next one and some come before it. -/
structure Loop (compare : α → α → Int) (first second third : α) : Prop where
  toSecond : compare first second ≤ 0
  toThird : compare second third ≤ 0
  toFirst : compare third first ≤ 0
  strict : compare first second < 0 ∨ compare second third < 0 ∨ compare third first < 0

variable {compare : α → α → Int}

theorem Loop.rotate {first second third : α} (loop : Loop compare first second third) :
    Loop compare second third first :=
  ⟨loop.toThird, loop.toFirst, loop.toSecond, by have := loop.strict; tauto⟩

theorem transitiveOn_iff (antisymmetric : Antisymmetric compare) (items : List α) :
    TransitiveOn compare items ↔
      ∀ first ∈ items, ∀ second ∈ items, ∀ third ∈ items, ¬ Loop compare first second third := by
  constructor
  · intro transitive first one second two third three loop
    have back := transitive second two third three first one loop.toThird loop.toFirst
    have forth := transitive third three first one second two loop.toFirst loop.toSecond
    have round := transitive first one second two third three loop.toSecond loop.toThird
    have strict := loop.strict
    rw [antisymmetric first second] at back
    rw [antisymmetric second third] at forth
    rw [antisymmetric third first] at round
    omega
  · intro none first one second two third three lower upper
    by_contra above
    have reversed := antisymmetric first third
    apply none first one second two third three
    exact ⟨lower, upper, by omega, by omega⟩

/-- Read the other way round, a circle is one of the reversed comparison. -/
theorem loop_swap (compare : α → α → Int) (first second third : α) :
    Loop (fun left right => compare right left) first second third ↔
      Loop compare third second first := by
  constructor
  · intro loop
    exact ⟨loop.toThird, loop.toSecond, loop.toFirst, by have := loop.strict; tauto⟩
  · intro loop
    exact ⟨loop.toThird, loop.toSecond, loop.toFirst, by have := loop.strict; tauto⟩

/-- The first comparison decides, and where it does not, the other one. -/
def orElse (compare next : α → α → Int) (first second : α) : Int :=
  if compare first second ≠ 0 then compare first second else next first second

theorem Antisymmetric.orElse {compare next : α → α → Int} (antisymmetric : Antisymmetric compare)
    (antisymmetric' : Antisymmetric next) : Antisymmetric (orElse compare next) := by
  intro first second
  have reversed := antisymmetric first second
  have reversed' := antisymmetric' first second
  simp only [Comparator.orElse]
  split_ifs <;> omega

/-- In a circle of the combined comparison either the first one ties all three, or it has a circle
itself, and the other one does not part the items that it ties. -/
theorem loop_orElse_iff (compare next : α → α → Int) (first second third : α) :
    Loop (orElse compare next) first second third ↔
      (compare first second = 0 ∧ compare second third = 0 ∧ compare third first = 0 ∧
          Loop next first second third) ∨
        (Loop compare first second third ∧
          (compare first second = 0 → next first second ≤ 0) ∧
            (compare second third = 0 → next second third ≤ 0) ∧
              (compare third first = 0 → next third first ≤ 0)) := by
  constructor
  · rintro ⟨toSecond, toThird, toFirst, strict⟩
    simp only [orElse] at toSecond toThird toFirst strict
    by_cases tied : compare first second = 0 ∧ compare second third = 0 ∧ compare third first = 0
    · obtain ⟨one, two, three⟩ := tied
      simp only [one, two, three, ne_eq, not_true_eq_false, ↓reduceIte] at *
      exact Or.inl ⟨trivial, trivial, trivial, toSecond, toThird, toFirst, strict⟩
    · apply Or.inr
      refine ⟨⟨?_, ?_, ?_, ?_⟩, ?_, ?_, ?_⟩ <;> split_ifs at * <;> omega
  · rintro (⟨one, two, three, loop⟩ | ⟨loop, one, two, three⟩)
    · obtain ⟨toSecond, toThird, toFirst, strict⟩ := loop
      constructor <;> simp only [orElse, one, two, three, ne_eq, not_true_eq_false, ↓reduceIte] <;>
        omega
    · obtain ⟨toSecond, toThird, toFirst, strict⟩ := loop
      constructor <;> simp only [orElse] <;> split_ifs <;> omega

/-- A comparison of items with their positions, which decide between items that tie. -/
def withPosition (compare : α → α → Int) : α × Nat → α × Nat → Int :=
  orElse (fun first second => compare first.1 second.1)
    fun first second => (first.2 : Int) - (second.2 : Int)

theorem Antisymmetric.withPosition (antisymmetric : Antisymmetric compare) :
    Antisymmetric (withPosition compare) := by
  apply Antisymmetric.orElse
  · intro first second
    exact antisymmetric first.1 second.1
  · intro first second
    show (second.2 : Int) - first.2 = -((first.2 : Int) - second.2)
    omega

/-- A way to sort by a comparison. Nothing is known of it where the comparison is no order of the
items. -/
structure SortMethod (α : Type) where
  sort : (α → α → Int) → List α → List α
  perm : ∀ {compare : α → α → Int} {items : List α}, Antisymmetric compare →
    TransitiveOn compare items → (sort compare items).Perm items
  ordered : ∀ {compare : α → α → Int} {items : List α}, Antisymmetric compare →
    TransitiveOn compare items →
      (sort compare items).Pairwise fun first second => compare first second ≤ 0

/-- It is enough that the comparison is transitive on the items that are sorted. -/
theorem pairwise_mergeSort (antisymmetric : Antisymmetric compare) {items : List α}
    (transitive : TransitiveOn compare items) :
    (items.mergeSort fun first second => compare first second ≤ 0).Pairwise
      fun first second => compare first second ≤ 0 := by
  let le : {item // item ∈ items} → {item // item ∈ items} → Bool :=
    fun first second => compare first.1 second.1 ≤ 0
  have sorted : (items.attach.mergeSort le).Pairwise
      fun first second => le first second = true := by
    apply List.pairwise_mergeSort
    · intro first second third lower upper
      simp only [le, decide_eq_true_eq] at lower upper ⊢
      exact transitive _ first.2 _ second.2 _ third.2 lower upper
    · intro first second
      have reversed := antisymmetric first.1 second.1
      simp only [le, Bool.or_eq_true, decide_eq_true_eq]
      omega
  have same : (items.attach.mergeSort le).map Subtype.val =
      items.mergeSort fun first second => compare first second ≤ 0 := by
    rw [List.map_mergeSort (s := fun first second => compare first second ≤ 0) (fun _ _ _ _ => rfl),
      List.attach_map_subtype_val]
  rw [← same, List.pairwise_map]
  exact sorted.imp fun lower => by simpa [le] using lower

def SortMethod.merge : SortMethod α where
  sort compare items := items.mergeSort fun first second => compare first second ≤ 0
  perm _ _ := List.mergeSort_perm _ _
  ordered antisymmetric transitive := pairwise_mergeSort antisymmetric transitive

/-- A rearrangement in which no item comes before an earlier one, and items that tie keep their
order. -/
def IsStableSort (compare : α → α → Int) (items result : List α) : Prop :=
  ∃ entries : List (α × Nat), entries.Perm items.zipIdx ∧ entries.map Prod.fst = result ∧
    entries.Pairwise fun first second =>
      ¬ compare second.1 first.1 < 0 ∧ (compare first.1 second.1 = 0 → first.2 < second.2)

theorem IsStableSort.perm {items result : List α} (sorted : IsStableSort compare items result) :
    result.Perm items := by
  obtain ⟨entries, rearranged, rfl, -⟩ := sorted
  have listed := rearranged.map Prod.fst
  rwa [List.zipIdx_map_fst] at listed

/-- To sort by a comparison and then by position is a stable sort. -/
theorem SortMethod.isStableSort (method : SortMethod (α × Nat))
    (antisymmetric : Antisymmetric compare) {items : List α}
    (transitive : TransitiveOn (withPosition compare) items.zipIdx) :
    IsStableSort compare items
      ((method.sort (withPosition compare) items.zipIdx).map Prod.fst) := by
  have rearranged := method.perm antisymmetric.withPosition transitive
  have sorted := method.ordered antisymmetric.withPosition transitive
  have distinct : (method.sort (withPosition compare) items.zipIdx).Pairwise
      fun first second => first.2 ≠ second.2 := by
    apply rearranged.symm.pairwise _ fun apart => apart.symm
    rw [← List.pairwise_map (f := Prod.snd) (R := (· ≠ ·)), List.zipIdx_map_snd]
    exact List.nodup_range'
  refine ⟨_, rearranged, rfl, (sorted.and distinct).imp ?_⟩
  rintro first second ⟨lower, apart⟩
  have reversed := antisymmetric first.1 second.1
  simp only [withPosition, orElse] at lower
  split_ifs at lower <;> omega

/-- Where items stand in order, nothing leads around in a circle. -/
theorem IsStableSort.not_loop (antisymmetric : Antisymmetric compare) {items result : List α}
    (sorted : IsStableSort compare items result) {first second third : α × Nat}
    (one : first ∈ items.zipIdx) (two : second ∈ items.zipIdx) (three : third ∈ items.zipIdx) :
    ¬ Loop (withPosition compare) first second third := by
  intro loop
  obtain ⟨entries, rearranged, -, pairwise⟩ := sorted
  have ordered : entries.Pairwise fun left right => withPosition compare left right < 0 := by
    apply pairwise.imp
    rintro left right ⟨lower, ties⟩
    have reversed := antisymmetric left.1 right.1
    simp only [withPosition, orElse]
    split_ifs with apart
    · omega
    · have earlier := ties (by omega)
      omega
  rw [List.pairwise_iff_getElem] at ordered
  have later {i j : Nat} (here : i < entries.length) (there : j < entries.length)
      (lower : withPosition compare entries[i] entries[j] ≤ 0) : i ≤ j := by
    by_contra after
    have back := ordered j i there here (by omega)
    have reversed := antisymmetric.withPosition entries[i] entries[j]
    omega
  obtain ⟨i, here, rfl⟩ := List.getElem_of_mem (rearranged.mem_iff.mpr one)
  obtain ⟨j, there, rfl⟩ := List.getElem_of_mem (rearranged.mem_iff.mpr two)
  obtain ⟨k, yonder, rfl⟩ := List.getElem_of_mem (rearranged.mem_iff.mpr three)
  have toSecond := later here there loop.toSecond
  have toThird := later there yonder loop.toThird
  have toFirst := later yonder here loop.toFirst
  obtain rfl : i = j := by omega
  obtain rfl : i = k := by omega
  have reversed := antisymmetric.withPosition entries[i] entries[i]
  have strict := loop.strict
  omega

end WebTsToolkit.Library.Comparator
