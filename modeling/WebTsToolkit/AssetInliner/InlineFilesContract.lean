import Mathlib.Algebra.Order.BigOperators.Group.Finset
import WebTsToolkit.AssetInliner.InlineFilesSettle

set_option autoImplicit false

namespace WebTsToolkit.AssetInliner.InlineFiles

theorem Task.rank_le (task : Task) : task.rank ≤ 14 := by
  cases task with
  | writing inlineResult staging stage => cases stage <;> simp
  | _ => simp

/-- Only a task that is begun and not settled goes on. -/
theorem advance_active {options : Options} {path content : String} {signal : Option Thrown}
    {slot next : Slot} {outcome : Outcome} (ok : SlotOk options path content signal slot)
    (taken : advance signal path options slot outcome = some next) :
    slot.task ≠ .idle ∧ slot.task.settled = false ∧ next.task ≠ .idle := by
  have less := (advance_ok ok taken).2
  have bound := slot.task.rank_le
  refine ⟨?_, ?_, ?_⟩
  · intro idle
    unfold advance at taken
    rw [idle] at taken
    cases taken
  · cases same : slot.task with
    | fulfilled result | rejected reason =>
      rw [same] at less
      exact absurd less (Nat.not_lt_zero _)
    | _ => rfl
  · intro idle
    rw [idle, Task.rank] at less
    omega

/-- A task that is begun and not settled can go on. -/
theorem advance_some (options : Options) (path : String) (signal : Option Thrown) {slot : Slot}
    (begun : slot.task ≠ .idle) (active : slot.task.settled = false) :
    ∃ outcome next, advance signal path options slot outcome = some next := by
  unfold advance
  cases same : slot.task with
  | idle => exact absurd same begun
  | inspecting => exact ⟨.size none, _, rfl⟩
  | reading => exact ⟨.text "", _, rfl⟩
  | transforming content => exact ⟨.transformed (.error .null), _, rfl⟩
  | writing inlineResult staging stage =>
    cases stage with
    | stat =>
      refine ⟨.done, ?_⟩
      cases signal <;> exact ⟨_, rfl⟩
    | _ => exact ⟨.done, _, rfl⟩
  | fulfilled result | rejected reason =>
    rw [same] at active
    cases active

namespace Batch

open Library

variable {call : Call} {batch next : Batch}

/-- What was replaced is what a settled call says was replaced, and the file system holds only
what the call has done. -/
structure Truthful (call : Call) (batch : Batch) : Prop where
  rejected : ∀ thrown, batch.outcome = some (.error thrown) →
    ∀ slot ∈ batch.slots, slot.journal.renamed = false
  resolved : ∀ results, batch.outcome = some (.ok results) →
    results.map InlineFileResult.filePath = call.targets ∧
      ∀ (idx : Nat) (slot : Slot) (result : InlineFileResult),
        batch.slots[idx]? = some slot → results[idx]? = some result →
          result.written = slot.journal.renamed
  kept : ∀ (idx : Nat) (slot : Slot), batch.slots[idx]? = some slot → slot.journal.renamed = false →
    call.contents[idx]? = some slot.content
  replaced : ∀ slot ∈ batch.slots, slot.journal.renamed = true →
    ∃ inlineResult, slot.journal.transformed = some inlineResult ∧
      slot.content = inlineResult.content
  unmodified : ∀ slot ∈ batch.slots, ∀ inlineResult,
    slot.journal.transformed = some inlineResult → inlineResult.modified = false →
      slot.journal.openedTemp = false
  unlinked : ∀ slot ∈ batch.slots, slot.journal.unlinkedTemp = true →
    slot.journal.createdTemp = true ∧ slot.journal.renamed = false
  cleaned : batch.outcome.isSome = true → ∀ slot ∈ batch.slots,
    slot.journal.createdTemp = true →
      slot.journal.renamed = true ∨ slot.journal.unlinkedTemp = true

theorem truthful_of_inv (inv : Inv call batch) : Truthful call batch := by
  have kept := inv.kept
  have phase := inv.phase
  have ok (slot : Slot) (member : slot ∈ batch.slots) : ∃ path content,
      SlotOk call.options path content batch.signal slot := by
    obtain ⟨idx, found⟩ := List.mem_iff_getElem?.mp member
    exact ⟨_, _, kept.each idx slot found⟩
  constructor
  · intro thrown outcome
    rw [outcome] at phase
    exact phase.told
  · intro results outcome
    rw [outcome] at phase
    obtain ⟨size, tells⟩ := phase.told
    constructor
    · apply List.ext_getElem?
      intro idx
      rw [List.getElem?_map]
      by_cases within : idx < results.length
      · have found := List.getElem?_eq_getElem within
        have named := (tells idx _ found).1
        rw [found, Option.map_some, named, path, List.getElem?_eq_getElem (size ▸ within)]
        rfl
      · rw [List.getElem?_eq_none (by omega), List.getElem?_eq_none (by omega)]
        rfl
    · intro idx slot result found entry
      obtain ⟨_, other, here, written⟩ := tells idx result entry
      obtain rfl : slot = other := Option.some.inj (found.symm.trans here)
      exact written
  · intro idx slot found silent
    have within : idx < call.contents.length := by
      rw [call.held, ← kept.slots]
      exact (List.getElem?_eq_some_iff.mp found).1
    have same := (kept.each idx slot found).files.kept silent
    rw [same, List.getElem?_eq_getElem within]
    rfl
  · intro slot member renamed
    obtain ⟨path, content, slotOk⟩ := ok slot member
    exact (slotOk.files.replaced renamed).2
  · intro slot member inlineResult transformed unmodified
    obtain ⟨path, content, slotOk⟩ := ok slot member
    cases opened : slot.journal.openedTemp with
    | false => rfl
    | true =>
      obtain ⟨_, other, same, modified⟩ := slotOk.files.opened opened
      obtain rfl : inlineResult = other := Option.some.inj (transformed.symm.trans same)
      exact absurd (unmodified.symm.trans modified) (by simp)
  · intro slot member unlinks
    obtain ⟨path, content, slotOk⟩ := ok slot member
    exact slotOk.files.unlinked unlinks
  · intro settled slot member created
    obtain ⟨path, content, slotOk⟩ := ok slot member
    obtain ⟨outcome, same⟩ := Option.isSome_iff_exists.mp settled
    rw [same] at phase
    have task := slotOk.task
    rcases phase.ended slot member with idle | ended
    · rw [idle] at task
      rw [task] at created
      cases created
    · cases stands : slot.task with
      | fulfilled result =>
        rw [stands] at task
        exact task.2.2.imp_right fun cleaned => cleaned.2 created
      | rejected reason =>
        rw [stands] at task
        exact .inr (task.1.2 created)
      | _ =>
        rw [stands] at ended
        cases ended

/-- The end of an awaited call changes one target of the chunk. -/
theorem inv_complete (inv : Inv call batch) (open_ : batch.outcome = none) {idx : Nat}
    {slot new : Slot} {outcome : Outcome} (found : batch.slots[idx]? = some slot)
    (taken : advance batch.signal (path call idx) call.options slot outcome = some new) :
    Inv call { batch with slots := batch.slots.set idx new } := by
  have kept := inv.kept
  have running : Running call batch := by
    have phase := inv.phase
    rw [open_] at phase
    exact phase
  have ok := kept.each idx slot found
  have active := advance_active ok taken
  have within : idx < batch.slots.length := (List.getElem?_eq_some_iff.mp found).1
  have begun : batch.start ≤ idx := by
    by_contra before
    have settled := running.covers.settled idx slot (by omega) found
    exact absurd (active.2.1.symm.trans settled) (by simp)
  have unchanged (other : Nat) (before : other < batch.start) :
      (batch.slots.set idx new)[other]? = batch.slots[other]? :=
    List.getElem?_set_ne (by omega)
  refine ⟨⟨?_, kept.results, ?_⟩, ?_⟩
  · rw [List.length_set, kept.slots]
  · intro other entry here
    by_cases same : idx = other
    · subst same
      rw [List.getElem?_set_self within] at here
      rw [← Option.some.inj here]
      exact (advance_ok ok taken).1
    · rw [List.getElem?_set_ne same] at here
      exact kept.each other entry here
  · rw [open_]
    refine ⟨running.begun, running.stop, ⟨?_, ?_, ?_⟩, ⟨?_, running.told.filled⟩, ?_⟩
    · intro other entry before here
      rw [unchanged other before] at here
      exact running.covers.settled other entry before here
    · intro other entry after here
      by_cases same : idx = other
      · subst same
        exact absurd (running.covers.later idx slot after found) active.1
      · rw [List.getElem?_set_ne same] at here
        exact running.covers.later other entry after here
    · refine running.covers.committed.trans (exists_congr fun other => exists_congr fun entry => ?_)
      refine and_congr_right fun before => ?_
      rw [unchanged other before]
    · intro other result entry
      obtain ⟨before, named, here⟩ := running.told.tells other result entry
      refine ⟨before, named, ?_⟩
      rw [unchanged other before]
      exact here
    · intro other entry after before here
      by_cases same : idx = other
      · subst same
        rw [List.getElem?_set_self within] at here
        rw [← Option.some.inj here]
        exact active.2.2
      · rw [List.getElem?_set_ne same] at here
        exact running.chunk other entry after before here

/-- An abort changes no target. -/
theorem inv_abort (inv : Inv call batch) (reason : Thrown) :
    Inv call { batch with signal := some (batch.signal.getD reason) } := by
  refine ⟨⟨inv.kept.slots, inv.kept.results, ?_⟩, ?_⟩
  · intro idx slot found
    exact (inv.kept.each idx slot found).abort reason
  · have phase := inv.phase
    cases outcome : batch.outcome with
    | none =>
      rw [outcome] at phase
      exact ⟨phase.begun, phase.stop, { phase.covers with }, { phase.told with },
        phase.chunk⟩
    | some outcome =>
      rw [outcome] at phase
      exact ⟨phase.ended, phase.told⟩

theorem inv_initial (call : Call) : Inv call (initial call) := by
  have entry (idx : Nat) (slot : Slot)
      (found : (call.contents.map Slot.unread)[idx]? = some slot) :
      ∃ content, call.contents[idx]? = some content ∧ slot = Slot.unread content := by
    rw [List.getElem?_map] at found
    obtain ⟨content, held, same⟩ := Option.map_eq_some_iff.mp found
    exact ⟨content, held, same.symm⟩
  refine inv_beginChunk ⟨?_, List.length_replicate, ?_⟩ rfl ⟨?_, ?_, ?_⟩ ⟨?_, ?_⟩ ?_
  · exact (List.length_map _).trans call.held
  · intro idx slot found
    obtain ⟨content, held, rfl⟩ := entry idx slot found
    refine ⟨?_, rfl⟩
    exact {
      kept := fun _ => by rw [held]; rfl
      replaced := fun renamed => absurd renamed (by simp [Slot.unread])
      opened := fun opened => absurd opened (by simp [Slot.unread])
      created := fun created => absurd created (by simp [Slot.unread])
      unlinked := fun unlinks => absurd unlinks (by simp [Slot.unread]) }
  · intro idx slot before
    exact absurd before (Nat.not_lt_zero _)
  · intro idx slot _ found
    obtain ⟨content, _, rfl⟩ := entry idx slot found
    rfl
  · constructor
    · intro commits
      cases commits
    · rintro ⟨idx, slot, before, _⟩
      exact absurd before (Nat.not_lt_zero _)
  · intro idx result found
    have listed := List.mem_of_getElem? found
    cases List.eq_of_mem_replicate listed
  · intro idx before
    exact absurd before (Nat.not_lt_zero _)
  · intro _ commits
    cases commits

variable {event : Event}

/-- What a step does. -/
theorem step_cases (taken : step call batch event = some next) :
    (∃ reason, event = .abort reason ∧
      next = { batch with signal := some (batch.signal.getD reason) }) ∨
    (∃ idx outcome slot new, event = .complete idx outcome ∧ batch.outcome = none ∧
      batch.slots[idx]? = some slot ∧
      advance batch.signal (path call idx) call.options slot outcome = some new ∧
      next = { batch with slots := batch.slots.set idx new }) ∨
    (event = .settle ∧ batch.outcome = none ∧
      (∀ idx ∈ batch.chunkIndices, (batch.task idx).settled = true) ∧
      next = settleChunk call batch) := by
  cases event with
  | abort reason => exact .inl ⟨reason, rfl, (Option.some.inj taken).symm⟩
  | complete idx outcome =>
    rw [step] at taken
    split at taken
    · next slot open_ found =>
      obtain ⟨new, goes, same⟩ := Option.map_eq_some_iff.mp taken
      exact .inr (.inl ⟨idx, outcome, slot, new, rfl, open_, found, goes, same.symm⟩)
    · cases taken
  | settle =>
    rw [step] at taken
    split at taken
    · next enabled =>
      exact .inr (.inr ⟨rfl, Option.isNone_iff_eq_none.mp enabled.1, enabled.2,
        (Option.some.inj taken).symm⟩)
    · cases taken

theorem inv_step (inv : Inv call batch) (met : Reportable call batch event)
    (taken : step call batch event = some next) : Inv call next := by
  rcases step_cases taken with ⟨reason, _, rfl⟩ |
    ⟨idx, outcome, slot, new, _, open_, found, goes, rfl⟩ | ⟨rfl, open_, settled, rfl⟩
  · exact inv_abort inv reason
  · exact inv_complete inv open_ found goes
  · have phase := inv.phase
    rw [open_] at phase
    exact inv_settle inv.kept open_ phase settled met

/-- What is left to do in a call that is not settled: its chunks and its awaited calls. -/
def work (call : Call) (batch : Batch) : Nat :=
  if batch.outcome.isSome then 0
  else (call.targets.length - batch.start) +
    ∑ idx ∈ Finset.range call.targets.length, (batch.task idx).rank

/-- A chunk that is begun has only tasks that were not. -/
theorem beginChunk_open (covers : Covers call batch batch.start batch.start)
    (open_ : (beginChunk call batch).outcome = none) :
    (beginChunk call batch).start = batch.start ∧
      ∀ idx, ((beginChunk call batch).task idx).rank ≤ (batch.task idx).rank := by
  unfold beginChunk at open_ ⊢
  dsimp only at open_ ⊢
  split at open_
  · next more =>
    rw [if_pos more]
    cases aborted : batch.signal with
    | some reason =>
      rw [aborted] at open_
      dsimp only at open_
      split at open_
      · split at open_ <;> cases open_
      · cases open_
    | none =>
      refine ⟨rfl, fun idx => ?_⟩
      rw [task, task]
      dsimp only
      rw [List.getElem?_mapIdx]
      cases found : batch.slots[idx]? with
      | none => exact Nat.le_refl _
      | some slot =>
        rw [Option.map_some, Option.map_some, Option.map_some]
        split
        · next inside =>
          rw [covers.later idx slot inside.1 found]
          exact Nat.le_succ 13
        · exact Nat.le_refl _
  · cases open_

/-- A chunk after which the call is not settled is followed by the next one. -/
theorem settleChunk_open (open_ : (settleChunk call batch).outcome = none) :
    ∃ collected : Collected, settleChunk call batch = beginChunk call
      { batch with
        results := collected.results
        hasCommitted := batch.effectiveCommitted
        start := batch.start + call.options.concurrency } := by
  unfold settleChunk at open_ ⊢
  cases ran : batch.chunkIndices.foldlM (collect call batch batch.effectiveCommitted)
      ⟨batch.results, none⟩ with
  | error thrown =>
    rw [ran] at open_
    cases open_
  | ok collected =>
    rw [ran] at open_
    refine ⟨collected, ?_⟩
    dsimp only at open_ ⊢
    cases reason : collected.abortReason with
    | some abortReason =>
      rw [reason] at open_
      dsimp only at open_ ⊢
      split at open_
      · cases open_
      · next commits => rw [if_neg commits]
    | none =>
      rw [reason] at open_
      cases aborted : batch.signal with
      | none => rfl
      | some own =>
        rw [aborted] at open_
        dsimp only at open_ ⊢
        split at open_
        · cases open_
        · next commits => rw [if_neg commits]

/-- Each step but an abort leaves less to do. -/
theorem work_step (inv : Inv call batch) (taken : step call batch event = some next) :
    (∃ reason, event = .abort reason) ∧ work call next = work call batch ∨
      work call next < work call batch := by
  rcases step_cases taken with ⟨reason, rfl, rfl⟩ |
    ⟨idx, outcome, slot, new, _, open_, found, goes, rfl⟩ | ⟨rfl, open_, settled, rfl⟩
  · exact .inl ⟨⟨reason, rfl⟩, rfl⟩
  · right
    have within : idx < batch.slots.length := (List.getElem?_eq_some_iff.mp found).1
    have less := (advance_ok (inv.kept.each idx slot found) goes).2
    rw [work, work, open_, if_neg (by simp), if_neg (by simp)]
    refine Nat.add_lt_add_left (Finset.sum_lt_sum ?_ ⟨idx, ?_, ?_⟩) _
    · intro other _
      by_cases same : idx = other
      · subst same
        rw [task_eq found, task_eq (List.getElem?_set_self within)]
        exact Nat.le_of_lt less
      · rw [task, task]
        dsimp only
        rw [List.getElem?_set_ne same]
    · exact Finset.mem_range.mpr (inv.kept.slots ▸ within)
    · rw [task_eq found, task_eq (List.getElem?_set_self within)]
      exact less
  · right
    have running : Running call batch := by
      have phase := inv.phase
      rw [open_] at phase
      exact phase
    have begun := running.begun
    have positive := call.options.concurrency_pos
    rw [work, work, open_, if_neg (by simp : ¬(none : Option (Except Thrown _)).isSome = true)]
    split
    · omega
    · next silent =>
      rw [Option.not_isSome_iff_eq_none] at silent
      obtain ⟨collected, same⟩ := settleChunk_open silent
      rw [same] at silent ⊢
      obtain ⟨start, less⟩ :=
        beginChunk_open (covers_settled inv.kept running settled _) silent
      rw [start]
      refine Nat.add_lt_add_of_lt_of_le (by dsimp only; omega) (Finset.sum_le_sum ?_)
      intro idx _
      exact less idx

/-- A call that is not settled can go on. -/
theorem step_some (inv : Inv call batch) (open_ : batch.outcome = none) :
    ∃ event next, (∀ reason, event ≠ .abort reason) ∧ step call batch event = some next := by
  have running : Running call batch := by
    have phase := inv.phase
    rw [open_] at phase
    exact phase
  have stop := running.stop
  by_cases settled : ∀ idx ∈ batch.chunkIndices, (batch.task idx).settled = true
  · refine ⟨.settle, settleChunk call batch, fun _ same => (by cases same), ?_⟩
    rw [step, if_pos ⟨by rw [open_]; rfl, settled⟩]
  · obtain ⟨idx, unsettled⟩ := not_forall.mp settled
    obtain ⟨member, active⟩ := Classical.not_imp.mp unsettled
    have bounds := mem_chunkIndices.mp member
    obtain ⟨slot, found⟩ := inv.kept.slotAt idx (by omega)
    rw [task_eq found, Bool.not_eq_true] at active
    obtain ⟨outcome, new, goes⟩ := advance_some call.options (path call idx) batch.signal
      (running.chunk idx slot bounds.1 bounds.2 found) active
    refine ⟨.complete idx outcome, { batch with slots := batch.slots.set idx new },
      fun _ same => (by cases same), ?_⟩
    rw [step, open_, found]
    dsimp only
    rw [goes]
    rfl

theorem inv_reachable (reached : (system call).ReachableWhen (Reportable call) batch) :
    Inv call batch :=
  reached.invariant (inv_initial call) fun _ _ _ inv met taken => inv_step inv met taken

/-- Every call reports what it has replaced until a chunk settles that cannot be reported: one
with a rejection that no abort explains, or with a reason that does not print, after some target
was replaced. At such a chunk the call rejects and hides the replaced target. -/
theorem reports_commits (call : Call) :
    (∀ batch, (system call).ReachableWhen (Reportable call) batch →
      Truthful call batch ∧
      (batch.outcome = none → ∃ event next, (∀ reason, event ≠ .abort reason) ∧
        step call batch event = some next) ∧
      ∀ event next, step call batch event = some next →
        (∃ reason, event = .abort reason) ∧ work call next = work call batch ∨
          work call next < work call batch) ∧
    ∀ batch next, (system call).ReachableWhen (Reportable call) batch →
      ¬Reportable call batch .settle → step call batch .settle = some next →
        ¬Truthful call next := by
  constructor
  · intro batch reached
    have inv := inv_reachable reached
    exact ⟨truthful_of_inv inv, step_some inv, fun event next taken => work_step inv taken⟩
  · intro batch next reached hides taken truthful
    have inv := inv_reachable reached
    rcases step_cases taken with ⟨reason, same, _⟩ | ⟨idx, outcome, slot, new, same, _⟩ |
      ⟨_, open_, settled, rfl⟩
    · cases same
    · cases same
    · have phase := inv.phase
      rw [open_] at phase
      obtain ⟨⟨thrown, rejects⟩, slot, member, renamed⟩ :=
        settle_hides inv.kept phase settled hides
      exact absurd ((truthful.rejected thrown rejects slot member).symm.trans renamed) (by simp)

/-- Two targets, one after the other. -/
def twoTargets : Call where
  options :=
    { write := true
      concurrency := 1
      concurrency_pos := by decide
      maxTargetBytes := 5242880 }
  targets := ["/site/a.css", "/site/b.css"]
  distinct := by decide
  contents := ["old", "old"]
  held := rfl

/-- The first target is replaced. -/
def replaceFirst : List Event :=
  [.complete 0 (.size (some 3)), .complete 0 (.text "old"),
    .complete 0 (.transformed (.ok ⟨"new", true, [], []⟩)), .complete 0 .done, .complete 0 .done,
    .complete 0 .done, .complete 0 .done, .complete 0 .done, .complete 0 .done,
    .complete 0 .done, .complete 0 (.failed none "EISDIR")]

/-- Aborted with an `Error` after the first rename, the call reports both targets. -/
theorem reports_replaced : ∃ batch,
    (system twoTargets).run
        (replaceFirst ++ [.abort (.error "Error" none "stopped")] ++ [.settle]) = some batch ∧
      batch.outcome.map (fun outcome => outcome.toOption.map (List.map InlineFileResult.written)) =
        some (some [true, false]) ∧
      Truthful twoTargets batch := by
  refine ⟨_, rfl, rfl, ?_⟩
  have begun : (system twoTargets).ReachableWhen (Reportable twoTargets) (initial twoTargets) :=
    .start
  have quiet : ∀ event ∈ replaceFirst ++ [.abort (.error "Error" none "stopped")],
      ∀ state, Reportable twoTargets state event := by
    intro event member state
    cases event with
    | settle => exact absurd member (by simp [replaceFirst])
    | _ => trivial
  have replaced := begun.steps quiet rfl
  refine ((reports_commits twoTargets).1 _ (replaced.step .settle ?_ rfl)).1
  intro _
  refine ⟨fun _ => rfl, fun _ reason aborted => ?_⟩
  rw [← Option.some.inj aborted]
  rfl

/-- Aborted with an object that has no conversion, the call rejects with a `TypeError` although
the first target was replaced. -/
theorem hides_replaced : ∃ batch,
    (system twoTargets).run (replaceFirst ++ [.abort (.other none none), .settle]) = some batch ∧
      batch.outcome.isSome = true ∧ ¬Truthful twoTargets batch := by
  refine ⟨_, rfl, rfl, fun truthful => ?_⟩
  have hidden := truthful.rejected typeError rfl _ List.mem_cons_self
  exact absurd hidden (by decide)

end Batch

end WebTsToolkit.AssetInliner.InlineFiles
