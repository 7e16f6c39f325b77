import Mathlib.Data.List.Sort

set_option autoImplicit false

/- Pages of a set of keys, read in order from the last key of the page before. -/
namespace WebTsToolkit.Library.KeysetPaging

variable {α κ : Type} [LinearOrder α] [DecidableEq κ]

/-- A key is after the last one read. -/
def isAfter (last : Option α) (key : α) : Bool :=
  match last with
  | none => true
  | some last => last < key

/-- The first keys after the last one read. -/
def page (keys : List α) (last : Option α) (size : Nat) : List α :=
  ((keys.filter (isAfter last)).insertionSort (· ≤ ·)).take size

variable {keys : List α} {key : α}

theorem page_pairwise (distinct : keys.Nodup) (last : Option α) (size : Nat) :
    (page keys last size).Pairwise (· < ·) := by
  have sorted := List.pairwise_insertionSort (· ≤ ·) (keys.filter (isAfter last))
  have apart : ((keys.filter (isAfter last)).insertionSort (· ≤ ·)).Nodup :=
    (List.perm_insertionSort _ _).nodup_iff.mpr (distinct.filter _)
  have strict := sorted.and apart
  refine (strict.imp ?_).sublist (List.take_sublist _ _)
  intro first second both
  exact lt_of_le_of_ne both.1 both.2

theorem mem_of_mem_page {last : Option α} {size : Nat} (member : key ∈ page keys last size) :
    key ∈ keys ∧ isAfter last key = true := by
  have sorted := List.mem_of_mem_take member
  rw [List.mem_insertionSort] at sorted
  exact List.mem_filter.mp sorted

/-- A key that is not on the page is after a full page. -/
theorem page_complete (distinct : keys.Nodup) {last : Option α} {size : Nat} (stored : key ∈ keys)
    (after : isAfter last key = true) :
    key ∈ page keys last size ∨
      (page keys last size).length = size ∧ ∀ other ∈ page keys last size, other < key := by
  have strict : ((keys.filter (isAfter last)).insertionSort (· ≤ ·)).Pairwise (· < ·) := by
    have whole := page_pairwise distinct last
      ((keys.filter (isAfter last)).insertionSort (· ≤ ·)).length
    rwa [page, List.take_length] at whole
  have member : key ∈ (keys.filter (isAfter last)).insertionSort (· ≤ ·) := by
    rw [List.mem_insertionSort]
    exact List.mem_filter.mpr ⟨stored, after⟩
  rw [← List.take_append_drop size (List.insertionSort _ _)] at member strict
  rcases List.mem_append.mp member with early | late
  · exact .inl early
  · refine .inr ⟨?_, fun other listed => (List.pairwise_append.mp strict).2.2 other listed key late⟩
    rw [page, List.length_take]
    have more := List.length_pos_of_mem late
    rw [List.length_drop] at more
    omega

/-- The keys whose print was not seen, and the prints seen with them. -/
def freshBy (print : α → κ) : List α → List κ → List α × List κ
  | [], seen => ([], seen)
  | key :: keys, seen =>
    if seen.contains (print key) then freshBy print keys seen
    else
      let rest := freshBy print keys (seen ++ [print key])
      (key :: rest.1, rest.2)

omit [LinearOrder α] in
theorem freshBy_sublist (print : α → κ) (keys : List α) (seen : List κ) :
    (freshBy print keys seen).1.Sublist keys := by
  induction keys generalizing seen with
  | nil => exact .slnil
  | cons key keys ih =>
    rw [freshBy]
    split
    · exact (ih _).cons _
    · exact (ih _).cons_cons _

omit [LinearOrder α] in
theorem mem_freshBy_seen (print : α → κ) (keys : List α) (seen : List κ) (printed : κ) :
    printed ∈ (freshBy print keys seen).2 ↔ printed ∈ seen ∨ ∃ key ∈ keys, print key = printed := by
  induction keys generalizing seen with
  | nil => simp [freshBy]
  | cons key keys ih =>
    rw [freshBy]
    split
    · next known =>
      rw [ih, List.exists_mem_cons_iff]
      constructor
      · exact Or.imp_right .inr
      · rintro (old | rfl | new)
        · exact .inl old
        · exact .inl (List.contains_iff_mem.mp known)
        · exact .inr new
    · rw [ih, List.exists_mem_cons_iff, List.mem_append, List.mem_singleton, or_assoc,
        eq_comm (a := printed)]

/-- In increasing order the key that is kept is the first one with its print. -/
theorem mem_freshBy (print : α → κ) (increasing : keys.Pairwise (· < ·)) (seen : List κ)
    (member : key ∈ keys) :
    key ∈ (freshBy print keys seen).1 ↔
      print key ∉ seen ∧ ∀ other ∈ keys, other < key → print other ≠ print key := by
  induction keys generalizing seen with
  | nil => cases member
  | cons first keys ih =>
    obtain ⟨least, increasing⟩ := List.pairwise_cons.mp increasing
    have absent : first ∉ keys := fun listed => lt_irrefl _ (least first listed)
    rw [freshBy]
    rcases List.mem_cons.mp member with rfl | later
    · have early : ∀ other ∈ key :: keys, other < key → print other ≠ print key := by
        intro other listed less
        rcases List.mem_cons.mp listed with rfl | listed
        · exact absurd less (lt_irrefl _)
        · exact absurd less (lt_asymm (least other listed))
      split
      · next known =>
        have listed := List.contains_iff_mem.mp known
        constructor
        · intro kept
          exact absurd ((freshBy_sublist print keys seen).subset kept) absent
        · intro fresh
          exact absurd listed fresh.1
      · next unknown =>
        rw [List.contains_iff_mem] at unknown
        exact ⟨fun _ => ⟨unknown, early⟩, fun _ => List.mem_cons_self⟩
    · have less := least key later
      split
      · next known =>
        have listed := List.contains_iff_mem.mp known
        rw [ih increasing seen later]
        refine and_congr_right fun fresh => ⟨fun alone other member below => ?_,
          fun alone other member => alone other (List.mem_cons_of_mem _ member)⟩
        rcases List.mem_cons.mp member with rfl | member
        · intro same
          exact fresh (same ▸ listed)
        · exact alone other member below
      · next unknown =>
        have moves : key ∈ first :: (freshBy print keys (seen ++ [print first])).1 ↔
            key ∈ (freshBy print keys (seen ++ [print first])).1 := by
          rw [List.mem_cons, or_iff_right (ne_of_gt less)]
        rw [moves, ih increasing _ later, List.mem_append, List.mem_singleton, not_or]
        constructor
        · rintro ⟨⟨fresh, differs⟩, alone⟩
          refine ⟨fresh, fun other member below => ?_⟩
          rcases List.mem_cons.mp member with rfl | member
          · exact fun same => differs same.symm
          · exact alone other member below
        · rintro ⟨fresh, alone⟩
          exact ⟨⟨fresh, fun same => alone first List.mem_cons_self less same.symm⟩,
            fun other member => alone other (List.mem_cons_of_mem _ member)⟩

end WebTsToolkit.Library.KeysetPaging
