import WebTsToolkit.MessageService.CreationProtocol

set_option autoImplicit false

namespace WebTsToolkit.MessageService.Creation

open Library

section Order

variable {δ : Type}

theorem before_iff (first second : ScopedMessage δ) :
    first.Before second ↔ first.clientRequestItemIndex < second.clientRequestItemIndex ∨
      (first.clientRequestItemIndex = second.clientRequestItemIndex ∧ first.id ≤ second.id) := by
  unfold ScopedMessage.Before
  split <;> omega

instance before_total : Std.Total (ScopedMessage.Before (δ := δ)) where
  total first second := by
    simp only [before_iff]
    omega

instance before_trans : IsTrans (ScopedMessage δ) ScopedMessage.Before where
  trans first second third := by
    simp only [before_iff]
    omega

theorem mem_findByClientRequestScope {message : ScopedMessage δ}
    {messages : List (ScopedMessage δ)} :
    message ∈ findByClientRequestScope messages ↔ message ∈ messages :=
  List.mem_insertionSort _

end Order

/-- The messages of a batch: one for each item, in their order, with an id of its own. -/
structure Numbered {δ : Type} (messages : List (ScopedMessage δ)) : Prop where
  indexes : messages.map ScopedMessage.clientRequestItemIndex = List.range messages.length
  ids : (messages.map ScopedMessage.id).Nodup

namespace Numbered

variable {δ : Type} {messages : List (ScopedMessage δ)}

theorem same_of_id (numbered : Numbered messages) :
    ∀ message ∈ messages, ∀ other ∈ messages, message.id = other.id → message = other :=
  fun _ member _ member' same => List.inj_on_of_nodup_map numbered.ids member member' same

theorem sorted (numbered : Numbered messages) :
    messages.Pairwise ScopedMessage.Before := by
  have rising : (messages.map ScopedMessage.clientRequestItemIndex).Pairwise (· < ·) := by
    rw [numbered.indexes]
    exact List.pairwise_lt_range
  exact (List.pairwise_map.mp rising).imp fun less => (before_iff _ _).mpr (Or.inl less)

theorem eq_of_perm (numbered : Numbered messages) {found : List (ScopedMessage δ)}
    (perm : found.Perm messages) : found.insertionSort ScopedMessage.Before = messages := by
  refine ((List.perm_insertionSort _ found).trans perm).eq_of_pairwise ?_
    (List.pairwise_insertionSort _ found) numbered.sorted
  intro first second member member' before after
  refine numbered.same_of_id first (perm.subset ((List.mem_insertionSort _).mp member)) second
    member' ?_
  rw [before_iff] at before after
  omega

theorem itemIndexes_perm (numbered : Numbered messages) {found : List (ScopedMessage δ)}
    (perm : found.Perm messages) : (itemIndexes found).Perm (List.range messages.length) := by
  have indexes := perm.map ScopedMessage.clientRequestItemIndex
  rw [numbered.indexes] at indexes
  exact firstOfKeys_perm_of_covers List.nodup_range (fun _ _ _ _ same => same)
    (fun _ member => indexes.subset member) (fun _ member => indexes.symm.subset member)

end Numbered

theorem numbered_createdMessages {δ : Type} (drawn : Nat) (docs : List δ) :
    Numbered (createdMessages drawn docs) := by
  constructor
  · refine List.ext_getElem? fun index => ?_
    simp only [createdMessages, List.getElem?_map, List.getElem?_mapIdx, List.length_mapIdx]
    by_cases inside : index < docs.length
    · simp [inside]
    · simp [inside]
  · have ids : (createdMessages drawn docs).map ScopedMessage.id =
        (List.range docs.length).map (drawn + ·) := by
      refine List.ext_getElem? fun index => ?_
      by_cases inside : index < docs.length
      · simp [createdMessages, inside]
      · simp [createdMessages, inside]
    rw [ids]
    exact List.nodup_range.map (fun _ _ same => Nat.add_left_cancel same)

theorem length_createdMessages {δ : Type} (drawn : Nat) (docs : List δ) :
    (createdMessages drawn docs).length = docs.length :=
  List.length_mapIdx

section Merge

variable {δ : Type} {batch active archived : List (ScopedMessage δ)}

/-- Snapshots with a part of a batch are merged into nothing but the whole batch. -/
theorem eq_of_mergeReplayBatch {merged : List (ScopedMessage δ)} (numbered : Numbered batch)
    (within : ∀ message ∈ active ++ archived, message ∈ batch)
    (found : mergeReplayBatch active archived batch.length = some merged) : merged = batch := by
  simp only [mergeReplayBatch] at found
  split at found
  case isTrue expected =>
    rw [← Option.some.inj found]
    exact numbered.eq_of_perm
      (firstOfKeys_perm within (Int.ofNat_le.mp (le_of_eq expected.1.symm)))
  case isFalse => contradiction

/-- Snapshots that have each message of a batch between them are merged into it. -/
theorem mergeReplayBatch_of_covers (numbered : Numbered batch)
    (within : ∀ message ∈ active ++ archived, message ∈ batch)
    (covers : ∀ message ∈ batch, message ∈ active ++ archived) :
    mergeReplayBatch active archived batch.length = some batch := by
  have docs : (firstOfKeys ScopedMessage.id (active ++ archived)).Perm batch :=
    firstOfKeys_perm_of_covers (numbered.ids.of_map _) numbered.same_of_id within covers
  have indexes := numbered.itemIndexes_perm docs
  unfold mergeReplayBatch
  rw [if_pos, numbered.eq_of_perm docs]
  refine ⟨by rw [docs.length_eq], by rw [indexes.length_eq, List.length_range], ?_⟩
  exact fun index less => indexes.symm.subset (List.mem_range.mpr less)

/-- What both snapshots make of a batch: the batch where they have all of it, and else another
read or an inconsistent state. -/
theorem settleReplay_cases (clientRequestId : String) (again : Bool) (numbered : Numbered batch)
    (within : ∀ message ∈ active ++ archived, message ∈ batch) :
    settleReplay clientRequestId batch.length again active archived = .replay batch ∨
      (¬∀ message ∈ batch, message ∈ active ++ archived) ∧
        (settleReplay clientRequestId batch.length again active archived =
            .reads (.completedActive batch.length true) ∨
          again = true ∧ ∃ message,
            settleReplay clientRequestId batch.length again active archived =
              .throws (.inconsistentState clientRequestId message)) := by
  by_cases empty : batch = []
  · subst empty
    have none : active ++ archived = [] :=
      List.eq_nil_iff_forall_not_mem.mpr fun message member =>
        List.not_mem_nil (within message member)
    obtain ⟨rfl, rfl⟩ := List.append_eq_nil_iff.mp none
    exact Or.inl rfl
  · have some : (batch.length : Int) ≠ 0 := by
      have positive := List.length_pos_iff.mpr empty
      omega
    simp only [settleReplay, if_neg some]
    cases found : mergeReplayBatch active archived batch.length with
    | some merged =>
      refine Or.inl ?_
      rw [eq_of_mergeReplayBatch numbered within found]
    | none =>
      refine Or.inr ⟨fun covers => ?_, ?_⟩
      · rw [mergeReplayBatch_of_covers numbered within covers] at found
        contradiction
      · cases again with
        | false => exact Or.inl rfl
        | true => exact Or.inr ⟨rfl, _, rfl⟩

end Merge

end WebTsToolkit.MessageService.Creation
