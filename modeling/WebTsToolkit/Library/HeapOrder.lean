import WebTsToolkit.Library.IndexedHeap

set_option autoImplicit false

namespace WebTsToolkit.Library.IndexedHeap

variable {ι κ : Type} [LinearOrder κ]

/-- The member of one place does not come after the member of another. -/
def Le (rank : ι → κ) (heap : IndexedHeap ι) (upper lower : Nat) : Prop :=
  ∀ above member, heap.slots[upper]? = some above → heap.slots[lower]? = some member →
    rank above ≤ rank member

/-- No member comes before its parent. -/
def Ordered (rank : ι → κ) (heap : IndexedHeap ι) : Prop :=
  ∀ child, 0 < child → heap.Le rank ((child - 1) / 2) child

/-- Only the pair above a place may be out of order. -/
structure UpReady (rank : ι → κ) (heap : IndexedHeap ι) (index : Nat) : Prop where
  others : ∀ child, 0 < child → child ≠ index → heap.Le rank ((child - 1) / 2) child
  grand : 0 < index → ∀ child, 0 < child → (child - 1) / 2 = index →
    heap.Le rank ((index - 1) / 2) child

/-- Only the pairs below a place may be out of order. -/
structure DownReady (rank : ι → κ) (heap : IndexedHeap ι) (index : Nat) : Prop where
  others : ∀ child, 0 < child → (child - 1) / 2 ≠ index → heap.Le rank ((child - 1) / 2) child
  grand : 0 < index → ∀ child, 0 < child → (child - 1) / 2 = index →
    heap.Le rank ((index - 1) / 2) child

variable {rank : ι → κ} {heap : IndexedHeap ι}

theorem Le.trans {first second third : Nat} (upper : heap.Le rank first second)
    (lower : heap.Le rank second third) (inside : second < heap.slots.length) :
    heap.Le rank first third := by
  intro above member atFirst atThird
  have atSecond := List.getElem?_eq_getElem inside
  exact le_trans (upper above _ atFirst atSecond) (lower _ member atSecond atThird)

theorem Le.turn {upper lower : Nat} (before : ¬heap.Le rank upper lower) :
    heap.Le rank lower upper := by
  intro member above atLower atUpper
  by_contra notLe
  apply before
  intro above' member' atUpper' atLower'
  rw [atUpper, Option.some.injEq] at atUpper'
  rw [atLower, Option.some.injEq] at atLower'
  rw [← atUpper', ← atLower']
  exact le_of_lt (not_le.mp notLe)

/-- The first member is a least one. -/
theorem Ordered.root_le (ordered : heap.Ordered rank) (index : Nat) : heap.Le rank 0 index := by
  induction index using Nat.strongRecOn with
  | ind index ih =>
    by_cases root : index = 0
    · subst root
      intro above member atRoot atRoot'
      rw [atRoot] at atRoot'
      rw [Option.some.inj atRoot']
    · by_cases inside : (index - 1) / 2 < heap.slots.length
      · exact (ih ((index - 1) / 2) (by omega)).trans (ordered index (by omega)) inside
      · intro above member _ found
        have below := (List.getElem?_eq_some_iff.mp found).1
        omega

theorem Ordered.downReady (ordered : heap.Ordered rank) (index : Nat) :
    heap.DownReady rank index where
  others := by
    intro child positive _
    exact ordered child positive
  grand := by
    intro positive child below parent
    by_cases inside : index < heap.slots.length
    · have lower := ordered child below
      rw [parent] at lower
      exact (ordered index positive).trans lower inside
    · intro above member _ found
      have beyond := (List.getElem?_eq_some_iff.mp found).1
      omega

variable [DecidableEq ι]

theorem getElem?_swap {left right : Nat} (inLeft : left < heap.slots.length)
    (inRight : right < heap.slots.length) (index : Nat) :
    (heap.swap left right).slots[index]? =
      if index = right then heap.slots[left]?
      else if index = left then heap.slots[right]? else heap.slots[index]? := by
  have atLeft := List.getElem?_eq_getElem inLeft
  have atRight := List.getElem?_eq_getElem inRight
  rw [swap, atLeft, atRight]
  simp only [place, List.getElem?_set, List.length_set]
  by_cases here : right = index
  · rw [if_pos here, if_pos (by omega), if_pos here.symm]
  · have apart : ¬index = right := fun same => here same.symm
    rw [if_neg here, if_neg apart]
    by_cases there : left = index
    · rw [if_pos there, if_pos inLeft, if_pos there.symm]
    · have apart' : ¬index = left := fun same => there same.symm
      rw [if_neg there, if_neg apart']

/-- One step up moves the pair that may be out of order up. -/
theorem UpReady.swap {index : Nat} (ready : heap.UpReady rank index) (below : 0 < index)
    (inside : index < heap.slots.length)
    (before : ¬heap.Le rank ((index - 1) / 2) index) :
    (heap.swap ((index - 1) / 2) index).UpReady rank ((index - 1) / 2) := by
  have inParent : (index - 1) / 2 < heap.slots.length := by omega
  have turned := Le.turn before
  constructor
  · intro child positive notParent above member atAbove atChild
    rw [getElem?_swap inParent inside] at atAbove atChild
    by_cases here : child = index
    · subst here
      rw [if_neg (by omega), if_pos rfl] at atAbove
      rw [if_pos rfl] at atChild
      exact turned above member atAbove atChild
    · rw [if_neg here, if_neg notParent] at atChild
      by_cases underIndex : (child - 1) / 2 = index
      · rw [if_pos underIndex] at atAbove
        exact ready.grand below child positive underIndex above member atAbove atChild
      · rw [if_neg underIndex] at atAbove
        by_cases underParent : (child - 1) / 2 = (index - 1) / 2
        · rw [if_pos underParent] at atAbove
          have lower := ready.others child positive here
          rw [underParent] at lower
          exact (turned.trans lower inParent) above member atAbove atChild
        · rw [if_neg underParent] at atAbove
          exact ready.others child positive here above member atAbove atChild
  · intro positive child childPositive under above member atAbove atChild
    rw [getElem?_swap inParent inside] at atAbove atChild
    rw [if_neg (by omega), if_neg (by omega)] at atAbove
    have upper := ready.others ((index - 1) / 2) positive (by omega)
    by_cases here : child = index
    · rw [if_pos here] at atChild
      exact upper above member atAbove atChild
    · rw [if_neg here, if_neg (by omega)] at atChild
      have lower := ready.others child childPositive here
      rw [under] at lower
      exact (upper.trans lower inParent) above member atAbove atChild

theorem UpReady.moveUp (index : Nat) : ∀ heap : IndexedHeap ι, heap.UpReady rank index →
    (heap.moveUp rank index).Ordered rank := by
  induction index using Nat.strongRecOn with
  | ind index ih =>
    intro heap ready
    rw [IndexedHeap.moveUp]
    have settled (stop : heap.Le rank ((index - 1) / 2) index) : heap.Ordered rank := by
      intro child positive
      by_cases here : child = index
      · rw [here]
        exact stop
      · exact ready.others child positive here
    by_cases below : 0 < index
    · rw [if_pos below]
      simp only
      split
      · next above member atParent atIndex =>
        have inside := (List.getElem?_eq_some_iff.mp atIndex).1
        by_cases stop : rank above ≤ rank member
        · rw [if_pos stop]
          apply settled
          intro above' member' atParent' atIndex'
          rw [atParent, Option.some.injEq] at atParent'
          rw [atIndex, Option.some.injEq] at atIndex'
          rwa [← atParent', ← atIndex']
        · rw [if_neg stop]
          apply ih _ (by omega)
          apply ready.swap below inside
          intro le
          exact stop (le above member atParent atIndex)
      · next missing =>
        apply settled
        intro above member atParent atIndex
        exact absurd atIndex (missing above member atParent)
    · rw [if_neg below]
      intro child positive
      exact ready.others child positive (by omega)

omit [DecidableEq ι] in
/-- The lesser child is one of the children, and comes after neither. -/
theorem lesserChild_spec (rank : ι → κ) (heap : IndexedHeap ι) {left : Nat}
    (inside : left < heap.slots.length) :
    (heap.lesserChild rank left = left ∨ heap.lesserChild rank left = left + 1) ∧
      heap.lesserChild rank left < heap.slots.length ∧
      heap.Le rank (heap.lesserChild rank left) left ∧
      heap.Le rank (heap.lesserChild rank left) (left + 1) := by
  have refl (index : Nat) : heap.Le rank index index := by
    intro above member found found'
    rw [found, Option.some.injEq] at found'
    rw [found']
  have atLeft := List.getElem?_eq_getElem inside
  rw [lesserChild, atLeft]
  cases atRight : heap.slots[left + 1]? with
  | none =>
    refine ⟨Or.inl rfl, inside, refl left, ?_⟩
    intro above member _ found
    rw [atRight] at found
    contradiction
  | some second =>
    have inRight := (List.getElem?_eq_some_iff.mp atRight).1
    by_cases less : rank second < rank heap.slots[left]
    · simp only [if_pos less]
      refine ⟨by simp, inRight, ?_, refl (left + 1)⟩
      intro above member found found'
      rw [atRight, Option.some.injEq] at found
      rw [atLeft, Option.some.injEq] at found'
      rw [← found, ← found']
      exact le_of_lt less
    · simp only [if_neg less]
      refine ⟨by simp, inside, refl left, ?_⟩
      intro above member found found'
      rw [atLeft, Option.some.injEq] at found
      rw [atRight, Option.some.injEq] at found'
      rw [← found, ← found']
      exact not_lt.mp less

/-- One step down moves the pairs that may be out of order down. -/
theorem DownReady.swap {index child : Nat} (ready : heap.DownReady rank index)
    (inside : child < heap.slots.length) (childOf : 0 < child ∧ (child - 1) / 2 = index)
    (least : ∀ other, 0 < other → (other - 1) / 2 = index → heap.Le rank child other)
    (before : heap.Le rank child index) : (heap.swap index child).DownReady rank child := by
  obtain ⟨positive, parent⟩ := childOf
  have inIndex : index < heap.slots.length := by omega
  constructor
  · intro other otherPositive notUnder above member atAbove atOther
    rw [getElem?_swap inIndex inside] at atAbove atOther
    rw [if_neg notUnder] at atAbove
    by_cases here : other = child
    · rw [if_pos here] at atOther
      rw [if_pos (by omega)] at atAbove
      exact before above member atAbove atOther
    · rw [if_neg here] at atOther
      by_cases isIndex : other = index
      · rw [if_pos isIndex] at atOther
        rw [if_neg (by omega), isIndex] at atAbove
        exact ready.grand (by omega) child positive parent above member atAbove atOther
      · rw [if_neg isIndex] at atOther
        by_cases underIndex : (other - 1) / 2 = index
        · rw [if_pos underIndex] at atAbove
          exact least other otherPositive underIndex above member atAbove atOther
        · rw [if_neg underIndex] at atAbove
          exact ready.others other otherPositive underIndex above member atAbove atOther
  · intro _ other otherPositive under above member atAbove atOther
    rw [getElem?_swap inIndex inside] at atAbove atOther
    rw [if_neg (by omega), if_pos parent] at atAbove
    rw [if_neg (by omega), if_neg (by omega)] at atOther
    have lower := ready.others other otherPositive (by omega)
    rw [under] at lower
    exact lower above member atAbove atOther

theorem DownReady.moveDown (left : Nat) : ∀ (heap : IndexedHeap ι) (index : Nat),
    heap.slots.length - index ≤ left → heap.DownReady rank index →
    (heap.moveDown rank index).Ordered rank := by
  induction left with
  | zero =>
    intro heap index bound ready
    rw [IndexedHeap.moveDown, if_neg (by omega)]
    intro child positive above member _ found
    have inside := (List.getElem?_eq_some_iff.mp found).1
    exact ready.others child positive (by omega) above member ‹_› found
  | succ left ih =>
    intro heap index bound ready
    rw [IndexedHeap.moveDown]
    by_cases inside : index * 2 + 1 < heap.slots.length
    · obtain ⟨which, inChild, first, second⟩ := lesserChild_spec rank heap inside
      have least (other : Nat) (positive : 0 < other) (under : (other - 1) / 2 = index) :
          heap.Le rank (heap.lesserChild rank (index * 2 + 1)) other := by
        have cases : other = index * 2 + 1 ∨ other = index * 2 + 1 + 1 := by omega
        rcases cases with same | same
        · rw [same]
          exact first
        · rw [same]
          exact second
      have atIndex := List.getElem?_eq_getElem (show index < heap.slots.length by omega)
      have atChild := List.getElem?_eq_getElem inChild
      rw [if_pos inside]
      simp only [atIndex, atChild]
      by_cases stop : rank heap.slots[index] ≤
          rank heap.slots[heap.lesserChild rank (index * 2 + 1)]
      · rw [if_pos stop]
        have upper : heap.Le rank index (heap.lesserChild rank (index * 2 + 1)) := by
          intro above member found found'
          rw [atIndex, Option.some.injEq] at found
          rw [atChild, Option.some.injEq] at found'
          rwa [← found, ← found']
        intro child positive
        by_cases under : (child - 1) / 2 = index
        · rw [under]
          exact upper.trans (least child positive under) inChild
        · exact ready.others child positive under
      · rw [if_neg stop]
        apply ih
        · rw [length_swap]
          omega
        · apply ready.swap inChild (by omega) least
          intro above member found found'
          rw [atChild, Option.some.injEq] at found
          rw [atIndex, Option.some.injEq] at found'
          rw [← found, ← found']
          exact le_of_lt (not_le.mp stop)
    · rw [if_neg inside]
      intro child positive above member _ found
      have beyond := (List.getElem?_eq_some_iff.mp found).1
      exact ready.others child positive (by omega) above member ‹_› found

/-- A member that does not come before its parent stays. -/
theorem moveUp_of_le {index : Nat} (stop : 0 < index → heap.Le rank ((index - 1) / 2) index) :
    heap.moveUp rank index = heap := by
  rw [moveUp]
  by_cases below : 0 < index
  · rw [if_pos below]
    simp only
    split
    · next above member atParent atIndex =>
      rw [if_pos (stop below above member atParent atIndex)]
    · rfl
  · rw [if_neg below]

theorem Ordered.push (ordered : heap.Ordered rank) (member : ι) :
    (heap.push rank member).Ordered rank := by
  rw [IndexedHeap.push]
  apply UpReady.moveUp
  constructor
  · intro child positive notLast above other atAbove atChild
    have inside := (List.getElem?_eq_some_iff.mp atChild).1
    rw [List.length_append, List.length_singleton] at inside
    rw [List.getElem?_append_left (by omega)] at atAbove atChild
    exact ordered child positive above other atAbove atChild
  · intro _ child positive under above other _ atChild
    have inside := (List.getElem?_eq_some_iff.mp atChild).1
    rw [List.length_append, List.length_singleton] at inside
    omega

/-- The last member, put anywhere, finds its place by moving up and then down. -/
theorem Ordered.removeAt (ordered : heap.Ordered rank) (index : Nat) :
    (heap.removeAt rank index).Ordered rank := by
  rw [IndexedHeap.removeAt]
  split
  · exact ordered
  · next last atLast =>
    have prefix_ (place : Nat) (inside : place < heap.slots.dropLast.length) :
        heap.slots.dropLast[place]? = heap.slots[place]? := by
      rw [List.getElem?_dropLast, if_pos (by rw [List.length_dropLast] at inside; omega)]
    have popped (upper lower : Nat) (le : heap.Le rank upper lower) :
        ({ heap with slots := heap.slots.dropLast } : IndexedHeap ι).Le rank upper lower := by
      intro above member atUpper atLower
      have inUpper := (List.getElem?_eq_some_iff.mp atUpper).1
      have inLower := (List.getElem?_eq_some_iff.mp atLower).1
      exact le above member ((prefix_ upper inUpper).symm.trans atUpper)
        ((prefix_ lower inLower).symm.trans atLower)
    simp only
    by_cases ends : index = heap.slots.dropLast.length
    · rw [if_pos ends]
      intro child positive
      exact popped _ _ (ordered child positive)
    · rw [if_neg ends]
      let placed := IndexedHeap.place
        ({ heap with slots := heap.slots.dropLast } : IndexedHeap ι) index last
      have off (upper lower : Nat) (notUpper : upper ≠ index) (notLower : lower ≠ index)
          (le : heap.Le rank upper lower) : placed.Le rank upper lower := by
        intro above member atUpper atLower
        simp only [placed, place, List.getElem?_set] at atUpper atLower
        rw [if_neg (Ne.symm notUpper)] at atUpper
        rw [if_neg (Ne.symm notLower)] at atLower
        exact popped upper lower le above member atUpper atLower
      have grand (positive : 0 < index) (child : Nat) (childPositive : 0 < child)
          (under : (child - 1) / 2 = index) : placed.Le rank ((index - 1) / 2) child := by
        apply off
        · omega
        · omega
        · exact (ordered.downReady index).grand positive child childPositive under
      by_cases stop : 0 < index → placed.Le rank ((index - 1) / 2) index
      · have down : placed.DownReady rank index := by
          refine ⟨?_, grand⟩
          intro child positive notUnder
          by_cases here : child = index
          · rw [here]
            exact stop (by omega)
          · exact off _ _ notUnder here (ordered child positive)
        have still : placed.moveUp rank index = placed := moveUp_of_le stop
        have known : placed.position last = index := Function.update_self _ _ _
        show (((placed.moveUp rank index).moveDown rank
          ((placed.moveUp rank index).position last))).Ordered rank
        rw [still, known]
        exact down.moveDown _ placed index (Nat.le_refl _)
      · obtain ⟨below, before⟩ := not_forall.mp stop
        have inParent : (index - 1) / 2 < placed.slots.length := by
          by_contra outside
          apply before
          intro above member atParent _
          have inside := (List.getElem?_eq_some_iff.mp atParent).1
          omega
        have turned := Le.turn before
        have up : placed.UpReady rank index := by
          refine ⟨?_, grand⟩
          intro child positive notIndex
          by_cases under : (child - 1) / 2 = index
          · rw [under]
            exact turned.trans (grand below child positive under) inParent
          · exact off _ _ under notIndex (ordered child positive)
        have moved := up.moveUp index placed
        exact (moved.downReady _).moveDown _ _ _ (Nat.le_refl _)

end WebTsToolkit.Library.IndexedHeap
