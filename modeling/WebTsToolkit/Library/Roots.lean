import Mathlib.Data.List.Basic

set_option autoImplicit false

/- Lists without repetitions and without members that lie below another one. -/
namespace WebTsToolkit.Library

section FirstOccurrences

variable {α : Type} [BEq α] [LawfulBEq α]

/-- Without repetitions, the items that pass a test stand in the order of their first occurrences. -/
theorem pairwise_idxOf_eraseDups (items : List α) (passes : α → Bool) :
    (items.filter passes).eraseDups.Pairwise
      fun first second => items.idxOf first < items.idxOf second := by
  induction items generalizing passes with
  | nil => simp
  | cons head rest ih =>
    by_cases here : passes head = true
    · rw [List.filter_cons_of_pos here, List.eraseDups_cons, List.filter_filter]
      have later : ∀ item ∈ (rest.filter fun item => !item == head && passes item).eraseDups,
          (head == item) = false := by
        intro item member
        have passed := (List.mem_filter.mp (List.mem_eraseDups.mp member)).2
        rw [beq_eq_false_iff_ne]
        rintro rfl
        simp at passed
      apply List.Pairwise.cons
      · intro item member
        rw [List.idxOf_cons_self, List.idxOf_cons, later item member]
        simp
      · apply (ih _).imp_of_mem
        intro first second member member' less
        rw [List.idxOf_cons, List.idxOf_cons, later first member, later second member']
        simpa using less
    · rw [List.filter_cons_of_neg here]
      have later : ∀ item ∈ (rest.filter passes).eraseDups, (head == item) = false := by
        intro item member
        rw [beq_eq_false_iff_ne]
        rintro rfl
        exact here (List.mem_filter.mp (List.mem_eraseDups.mp member)).2
      apply (ih passes).imp_of_mem
      intro first second member member' less
      rw [List.idxOf_cons, List.idxOf_cons, later first member, later second member']
      simpa using less

omit [LawfulBEq α] in
theorem eraseDups_filter_sublist (items : List α) (passes : α → Bool) :
    (items.filter passes).eraseDups.Sublist (items.filter passes) := by
  induction items generalizing passes with
  | nil => simp
  | cons head rest ih =>
    by_cases here : passes head = true
    · rw [List.filter_cons_of_pos here, List.eraseDups_cons, List.filter_filter]
      apply List.Sublist.cons_cons
      apply (ih _).trans
      rw [← List.filter_filter]
      exact List.filter_sublist
    · rw [List.filter_cons_of_neg here]
      exact ih passes

end FirstOccurrences

section Roots

variable {α : Type} {above : α → α → Prop}

/-- A member that no member lies above. -/
def IsRoot (above : α → α → Prop) (items : List α) (item : α) : Prop :=
  item ∈ items ∧ ∀ other ∈ items, ¬ above other item

/-- Where every step up makes an item smaller, each member is a root or lies below one. -/
theorem exists_root (size : α → Nat) (smaller : ∀ upper lower, above upper lower →
    size upper < size lower) (trans : ∀ upper middle lower, above upper middle →
      above middle lower → above upper lower) {items : List α} {item : α} (member : item ∈ items) :
    ∃ root, IsRoot above items root ∧ (root = item ∨ above root item) := by
  induction bound : size item using Nat.strongRecOn generalizing item with
  | ind bound ih =>
    by_cases covered : ∃ other ∈ items, above other item
    · obtain ⟨other, listed, higher⟩ := covered
      have less := smaller other item higher
      obtain ⟨root, isRoot, reaches⟩ := ih (size other) (by omega) listed rfl
      refine ⟨root, isRoot, Or.inr ?_⟩
      rcases reaches with rfl | reaches
      · exact higher
      · exact trans root other item reaches higher
    · refine ⟨item, ⟨member, ?_⟩, Or.inl rfl⟩
      intro other listed higher
      exact covered ⟨other, listed, higher⟩

end Roots

end WebTsToolkit.Library
