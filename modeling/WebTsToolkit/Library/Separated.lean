import Mathlib.Data.List.Basic

set_option autoImplicit false

namespace WebTsToolkit.Library

variable {α : Type}

theorem intercalate_cons (separator : α) (piece : List α) {rest : List (List α)}
    (nonempty : rest ≠ []) : [separator].intercalate (piece :: rest) =
      piece ++ separator :: [separator].intercalate rest := by
  cases rest with
  | nil => contradiction
  | cons second rest => simp [List.intercalate]

theorem intercalate_append (separator : α) {first second : List (List α)} (nonempty : first ≠ [])
    (nonempty' : second ≠ []) : [separator].intercalate (first ++ second) =
      [separator].intercalate first ++ separator :: [separator].intercalate second := by
  induction first with
  | nil => contradiction
  | cons piece rest ih =>
    by_cases last : rest = []
    · subst last
      rw [List.singleton_append, intercalate_cons separator piece nonempty']
      simp [List.intercalate]
    · rw [List.cons_append, intercalate_cons separator piece (by simp [last]),
        intercalate_cons separator piece last, ih last, List.append_assoc, List.cons_append]

theorem infix_intercalate (separator : α) {pieces : List (List α)} {piece : List α}
    (member : piece ∈ pieces) : piece <:+: [separator].intercalate pieces := by
  induction pieces with
  | nil => contradiction
  | cons first rest ih =>
    by_cases last : rest = []
    · subst last
      rw [List.mem_singleton.mp member]
      simp [List.intercalate]
    · rw [intercalate_cons separator first last]
      rcases List.mem_cons.mp member with rfl | later
      · exact (List.prefix_append _ _).isInfix
      · apply (ih later).trans
        rw [List.append_cons]
        exact (List.suffix_append _ _).isInfix

variable [BEq α] [LawfulBEq α]

theorem infix_of_mem_splitOn (separator : α) {text piece : List α}
    (member : piece ∈ text.splitOn separator) : piece <:+: text := by
  have inside := infix_intercalate separator member
  rwa [List.intercalate_splitOn] at inside

/-- Pieces between separators, of a text that goes on after `first` and a separator. -/
theorem splitOn_append_separator (separator : α) (first rest : List α) :
    (first ++ separator :: rest).splitOn separator =
      first.splitOn separator ++ rest.splitOn separator :=
  List.splitOn_append_cons_self first rest

theorem not_mem_of_mem_splitOn (separator : α) {text piece : List α}
    (member : piece ∈ text.splitOn separator) : separator ∉ piece := by
  induction text generalizing piece with
  | nil =>
    rw [List.splitOn_nil, List.mem_singleton] at member
    simp [member]
  | cons head rest ih =>
    rw [List.splitOn_cons_eq_if_modifyHead] at member
    split_ifs at member with here
    · rcases List.mem_cons.mp member with rfl | later
      · simp
      · exact ih later
    · obtain ⟨first, others, same⟩ := List.exists_cons_of_ne_nil
        (List.splitOn_ne_nil separator rest)
      rw [same] at member ih
      rcases List.mem_cons.mp member with rfl | later
      · intro inside
        rcases List.mem_cons.mp inside with rfl | inside
        · simp at here
        · exact ih List.mem_cons_self inside
      · exact ih (List.mem_cons_of_mem _ later)

/-- A text continues another one past a separator exactly when its pieces continue the
pieces of the other. -/
theorem append_separator_prefix_iff (separator : α) (first text : List α) :
    (first ++ [separator]) <+: text ↔
      ∃ rest, rest ≠ [] ∧ text.splitOn separator = first.splitOn separator ++ rest := by
  constructor
  · rintro ⟨rest, rfl⟩
    refine ⟨rest.splitOn separator, List.splitOn_ne_nil separator rest, ?_⟩
    rw [List.append_assoc, List.singleton_append, splitOn_append_separator]
  · rintro ⟨rest, nonempty, same⟩
    refine ⟨[separator].intercalate rest, ?_⟩
    have joined : [separator].intercalate (text.splitOn separator) = text :=
      List.intercalate_splitOn separator
    rw [← joined, same,
      intercalate_append separator (List.splitOn_ne_nil separator first) nonempty,
      List.intercalate_splitOn, List.append_assoc, List.singleton_append]

end WebTsToolkit.Library
