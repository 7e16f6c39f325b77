import Mathlib.Data.List.Nodup
import Mathlib.Data.List.Perm.Basic
import Mathlib.Logic.Function.Basic
import Mathlib.Order.Lattice

set_option autoImplicit false

namespace WebTsToolkit.Library

/-- A binary min-heap in an array, whose members know their places. -/
structure IndexedHeap (ι : Type) where
  slots : List ι
  position : ι → Nat

namespace IndexedHeap

variable {ι κ : Type} [DecidableEq ι] [LinearOrder κ]

def empty : IndexedHeap ι :=
  { slots := [], position := fun _ => 0 }

/-- Writes a member to a place, and the place to the member. -/
def place (heap : IndexedHeap ι) (index : Nat) (member : ι) : IndexedHeap ι where
  slots := heap.slots.set index member
  position := Function.update heap.position member index

def swap (heap : IndexedHeap ι) (left right : Nat) : IndexedHeap ι :=
  match heap.slots[left]?, heap.slots[right]? with
  | some first, some second => (heap.place left second).place right first
  | _, _ => heap

@[simp] theorem length_swap (heap : IndexedHeap ι) (left right : Nat) :
    (heap.swap left right).slots.length = heap.slots.length := by
  rw [swap]
  split
  · simp [place]
  · rfl

/-- A member goes up past the parents of a larger rank. -/
def moveUp (rank : ι → κ) (heap : IndexedHeap ι) (index : Nat) : IndexedHeap ι :=
  if 0 < index then
    let parent := (index - 1) / 2
    match heap.slots[parent]?, heap.slots[index]? with
    | some above, some member =>
      if rank above ≤ rank member then heap
      else (heap.swap parent index).moveUp rank parent
    | _, _ => heap
  else heap
termination_by index
decreasing_by omega

/-- The child of the smaller rank, the left one when there is no other or on a tie. -/
def lesserChild (rank : ι → κ) (heap : IndexedHeap ι) (left : Nat) : Nat :=
  match heap.slots[left + 1]?, heap.slots[left]? with
  | some second, some first => if rank second < rank first then left + 1 else left
  | _, _ => left

omit [DecidableEq ι] in
theorem le_lesserChild (rank : ι → κ) (heap : IndexedHeap ι) (left : Nat) :
    left ≤ heap.lesserChild rank left := by
  rw [lesserChild]
  split
  · split <;> omega
  · omega

/-- A member goes down past the children of a smaller rank. -/
def moveDown (rank : ι → κ) (heap : IndexedHeap ι) (index : Nat) : IndexedHeap ι :=
  if index * 2 + 1 < heap.slots.length then
    let child := heap.lesserChild rank (index * 2 + 1)
    match heap.slots[index]?, heap.slots[child]? with
    | some member, some below =>
      if rank member ≤ rank below then heap
      else (heap.swap index child).moveDown rank child
    | _, _ => heap
  else heap
termination_by heap.slots.length - index
decreasing_by
  have lower := le_lesserChild rank heap (index * 2 + 1)
  rw [length_swap]
  omega

def push (rank : ι → κ) (heap : IndexedHeap ι) (member : ι) : IndexedHeap ι :=
  let pushed : IndexedHeap ι :=
    { slots := heap.slots ++ [member]
      position := Function.update heap.position member heap.slots.length }
  pushed.moveUp rank heap.slots.length

/-- The last member takes the place of the removed one. -/
def removeAt (rank : ι → κ) (heap : IndexedHeap ι) (index : Nat) : IndexedHeap ι :=
  match heap.slots.getLast? with
  | none => heap
  | some last =>
    let popped := { heap with slots := heap.slots.dropLast }
    if index = popped.slots.length then popped
    else
      let moved := (popped.place index last).moveUp rank index
      moved.moveDown rank (moved.position last)

/-- Every member is at the place that it knows. -/
def Placed (heap : IndexedHeap ι) : Prop :=
  ∀ (index : Nat) (member : ι), heap.slots[index]? = some member → heap.position member = index

section Placing

variable {heap : IndexedHeap ι}

omit [DecidableEq ι] in
theorem Placed.nodup (placed : heap.Placed) : heap.slots.Nodup := by
  rw [List.nodup_iff_getElem?_ne_getElem?]
  intro first second before inside same
  have found : heap.slots[first]? = some heap.slots[first] :=
    List.getElem?_eq_getElem (Nat.lt_trans before inside)
  have here := placed first _ found
  have there := placed second _ (same.symm.trans found)
  omega

theorem Placed.swap (placed : heap.Placed) (left right : Nat) : (heap.swap left right).Placed := by
  rw [IndexedHeap.swap]
  split
  · next first second atLeft atRight =>
    have leftInside := (List.getElem?_eq_some_iff.mp atLeft).1
    have rightInside := (List.getElem?_eq_some_iff.mp atRight).1
    intro index member found
    simp only [place, List.getElem?_set, List.length_set] at found
    simp only [place, Function.update_apply]
    by_cases here : right = index
    · simp only [here, if_true] at found
      rw [if_pos (by omega)] at found
      rw [if_pos (Option.some.inj found).symm, here]
    · rw [if_neg here] at found
      by_cases there : left = index
      · rw [if_pos there, if_pos leftInside] at found
        have same := Option.some.inj found
        subst same
        have apart : second ≠ first := by
          intro same
          have rightPlace := placed right second atRight
          have leftPlace := placed left first atLeft
          rw [same] at rightPlace
          omega
        rw [if_neg apart, if_pos rfl, there]
      · rw [if_neg there] at found
        have known := placed index member found
        have notFirst : member ≠ first := by
          intro same
          have leftPlace := placed left first atLeft
          rw [same] at known
          omega
        have notSecond : member ≠ second := by
          intro same
          have rightPlace := placed right second atRight
          rw [same] at known
          omega
        rw [if_neg notFirst, if_neg notSecond, known]
  · exact placed

theorem swap_perm (heap : IndexedHeap ι) (left right : Nat) :
    (heap.swap left right).slots.Perm heap.slots := by
  rw [swap]
  split
  · next first second atLeft atRight =>
    obtain ⟨leftInside, rfl⟩ := List.getElem?_eq_some_iff.mp atLeft
    obtain ⟨rightInside, rfl⟩ := List.getElem?_eq_some_iff.mp atRight
    exact List.set_set_perm leftInside rightInside
  · exact List.Perm.refl _

section Moving

variable {holds : IndexedHeap ι → Prop} {rank : ι → κ}

/-- What swaps keep, moving up keeps. -/
theorem moveUp_keeps (swaps : ∀ heap left right, holds heap → holds (heap.swap left right)) :
    ∀ (heap : IndexedHeap ι) (index : Nat), holds heap → holds (heap.moveUp rank index) := by
  intro heap index
  induction index using Nat.strongRecOn generalizing heap with
  | ind index ih =>
    intro before
    rw [moveUp]
    by_cases below : 0 < index
    · rw [if_pos below]
      simp only
      split
      · split
        · exact before
        · apply ih
          · omega
          · exact swaps heap _ _ before
      · exact before
    · rwa [if_neg below]

/-- What swaps keep, moving down keeps. -/
theorem moveDown_keeps (swaps : ∀ heap left right, holds heap → holds (heap.swap left right)) :
    ∀ (left : Nat) (heap : IndexedHeap ι) (index : Nat), heap.slots.length - index ≤ left →
      holds heap → holds (heap.moveDown rank index) := by
  intro left
  induction left with
  | zero =>
    intro heap index bound before
    rw [moveDown, if_neg (by omega)]
    exact before
  | succ left ih =>
    intro heap index bound before
    rw [moveDown]
    by_cases inside : index * 2 + 1 < heap.slots.length
    · rw [if_pos inside]
      simp only
      split
      · split
        · exact before
        · have lower := le_lesserChild rank heap (index * 2 + 1)
          apply ih
          · rw [length_swap]
            omega
          · exact swaps heap _ _ before
      · exact before
    · rwa [if_neg inside]

/-- The members of a heap at their places, whatever the order of the members. -/
structure Holds (members : List ι) (heap : IndexedHeap ι) : Prop where
  placed : heap.Placed
  members : heap.slots.Perm members

variable {members : List ι}

theorem Holds.swap (heap : IndexedHeap ι) (left right : Nat) (held : Holds members heap) :
    Holds members (heap.swap left right) where
  placed := held.placed.swap left right
  members := (heap.swap_perm left right).trans held.members

theorem Holds.moveUp (rank : ι → κ) {heap : IndexedHeap ι} (held : Holds members heap)
    (index : Nat) : Holds members (heap.moveUp rank index) :=
  moveUp_keeps Holds.swap heap index held

theorem Holds.moveDown (rank : ι → κ) {heap : IndexedHeap ι} (held : Holds members heap)
    (index : Nat) : Holds members (heap.moveDown rank index) :=
  moveDown_keeps Holds.swap _ heap index (Nat.le_refl _) held

end Moving

/-- A new member joins the heap. -/
theorem Placed.push (rank : ι → κ) (placed : heap.Placed) {member : ι}
    (fresh : member ∉ heap.slots) : Holds (member :: heap.slots) (heap.push rank member) := by
  rw [IndexedHeap.push]
  apply Holds.moveUp
  constructor
  · intro index other found
    simp only [Function.update_apply]
    by_cases last : index < heap.slots.length
    · rw [List.getElem?_append_left last] at found
      have apart : other ≠ member := by
        rintro rfl
        exact fresh (List.mem_of_getElem? found)
      rw [if_neg apart]
      exact placed index other found
    · have inside := (List.getElem?_eq_some_iff.mp found).1
      rw [List.length_append, List.length_singleton] at inside
      have here : index = heap.slots.length := by omega
      rw [here, List.getElem?_concat_length] at found
      rw [if_pos (Option.some.inj found).symm, here]
  · exact List.perm_append_singleton member heap.slots

/-- The removed member leaves the heap, and no other. -/
theorem Placed.removeAt (rank : ι → κ) (placed : heap.Placed) {index : Nat} {removed : ι}
    (found : heap.slots[index]? = some removed) :
    (heap.removeAt rank index).Placed ∧
      heap.slots.Perm (removed :: (heap.removeAt rank index).slots) := by
  obtain ⟨inside, here⟩ := List.getElem?_eq_some_iff.mp found
  have nonempty : heap.slots ≠ [] := List.ne_nil_of_length_pos (by omega)
  let last := heap.slots.getLast nonempty
  have shape : heap.slots.dropLast ++ [last] = heap.slots := List.dropLast_append_getLast nonempty
  have length : heap.slots.dropLast.length = heap.slots.length - 1 := List.length_dropLast
  have before (other : Nat) (below : other < heap.slots.dropLast.length) :
      heap.slots.dropLast[other]? = heap.slots[other]? := by
    conv_rhs => rw [← shape]
    exact (List.getElem?_append_left below).symm
  have atLast : heap.slots[heap.slots.length - 1]? = some last := by
    rw [List.getElem?_eq_getElem (by omega)]
    exact congrArg some (List.getLast_eq_getElem nonempty).symm
  rw [IndexedHeap.removeAt, List.getLast?_eq_some_getLast nonempty]
  simp only
  by_cases ends : index = heap.slots.dropLast.length
  · rw [if_pos ends]
    constructor
    · intro other member listed
      have below := (List.getElem?_eq_some_iff.mp listed).1
      exact placed other member ((before other below).symm.trans listed)
    · have same : removed = last := by
        rw [ends, length, atLast] at found
        exact (Option.some.inj found).symm
      rw [same]
      show heap.slots.Perm (last :: heap.slots.dropLast)
      conv_lhs => rw [← shape]
      exact List.perm_append_singleton last heap.slots.dropLast
  · rw [if_neg ends]
    have below : index < heap.slots.dropLast.length := by omega
    have start : Holds (last :: heap.slots.dropLast.eraseIdx index)
        (IndexedHeap.place { heap with slots := heap.slots.dropLast } index last) := by
      constructor
      · intro other member listed
        simp only [place, List.getElem?_set] at listed
        simp only [place, Function.update_apply]
        by_cases same : index = other
        · rw [if_pos same, if_pos below] at listed
          rw [if_pos (Option.some.inj listed).symm, same]
        · rw [if_neg same] at listed
          have inside' := (List.getElem?_eq_some_iff.mp listed).1
          have known := placed other member ((before other inside').symm.trans listed)
          have apart : member ≠ last := by
            intro equal
            have lastPlace := placed _ last atLast
            rw [equal] at known
            omega
          rw [if_neg apart, known]
      · exact List.set_perm_cons_eraseIdx below last
    have done := (start.moveUp rank index).moveDown rank
      (((IndexedHeap.place { heap with slots := heap.slots.dropLast } index last).moveUp rank
        index).position last)
    refine ⟨done.placed, ?_⟩
    have gone : heap.slots.dropLast[index] = removed := by
      have same := before index below
      rw [found, List.getElem?_eq_getElem below] at same
      exact Option.some.inj same
    have apart : heap.slots.dropLast.Perm (removed :: heap.slots.dropLast.eraseIdx index) := by
      rw [← gone]
      exact (List.getElem_cons_eraseIdx_perm below).symm
    have split : heap.slots.Perm (last :: heap.slots.dropLast) := by
      conv_lhs => rw [← shape]
      exact List.perm_append_singleton last heap.slots.dropLast
    have swapped := (apart.cons last).trans (List.Perm.swap removed last _)
    exact (split.trans swapped).trans (done.members.symm.cons removed)

end Placing

end IndexedHeap

end WebTsToolkit.Library
