import WebTsToolkit.AssetInliner.InlineFilesCommit

set_option autoImplicit false

namespace WebTsToolkit.AssetInliner.InlineFiles.Batch

open Library

variable {call : Call} {batch next : Batch}

theorem isDomException_of_isAbortError {thrown : Thrown} (aborts : thrown.isAbortError = true) :
    thrown.isDomException = true := by
  cases thrown with
  | domException name message code => rfl
  | _ => exact absurd aborts (by simp [Thrown.isAbortError])

variable {idx : Nat}

/-- A settled promise of the chunk gives its target a result. -/
theorem collect_spec {effective : Bool} {collected last : Collected} (kept : Kept call batch)
    (within : idx < call.targets.length) (settled : (batch.task idx).settled = true)
    (ran : collect call batch effective collected idx = .ok last) :
    ∃ result, Tells call batch idx result ∧
      last.results = collected.results.set idx (some result) := by
  obtain ⟨slot, found⟩ := kept.slotAt idx within
  have task := (kept.each idx slot found).task
  rw [task_eq found] at settled
  rw [collect, task_eq found] at ran
  cases same : slot.task with
  | fulfilled result =>
    rw [same] at ran task
    obtain rfl := Except.ok.inj ran
    exact ⟨result, ⟨task.1, slot, found, task.2.1⟩, rfl⟩
  | rejected thrown =>
    rw [same] at ran task
    dsimp only at ran
    split at ran
    · split at ran
      · cases ran
      · split at ran
        · cases ran
        · next message _ =>
          obtain rfl := Except.ok.inj ran
          exact ⟨_, ⟨rfl, slot, found, task.1.1.symm⟩, rfl⟩
    · cases ran
  | _ =>
    rw [same] at settled
    cases settled

/-- After a commit a described rejection is recorded. -/
theorem collect_ok (kept : Kept call batch) (within : idx < call.targets.length)
    (settled : (batch.task idx).settled = true)
    (aborted : ∀ thrown, batch.task idx = .rejected thrown →
      ∃ reason, batch.signal = some reason ∧ reason.text.isSome = true) (collected : Collected) :
    ∃ last, collect call batch true collected idx = .ok last := by
  obtain ⟨slot, found⟩ := kept.slotAt idx within
  have task := (kept.each idx slot found).task
  rw [task_eq found] at settled aborted
  rw [collect, task_eq found]
  cases same : slot.task with
  | fulfilled result => exact ⟨_, rfl⟩
  | rejected thrown =>
    rw [same] at task
    obtain ⟨reason, signal, prints⟩ := aborted thrown same
    have described : ∃ message,
        (if thrown.isDomException then thrown
          else (signalReason batch.signal).orElse thrown).describe = some message := by
      apply Option.isSome_iff_exists.mp
      have own := Thrown.describe_isSome prints
      split
      · next dom =>
        cases thrown with
        | domException name message code => rfl
        | _ => cases dom
      · rw [signal]
        rcases task.2 with same | plain
        · obtain rfl : reason = thrown := Option.some.inj (signal.symm.trans same)
          cases reason <;> exact own
        · cases reason with
          | null | undefined => exact plain.1
          | _ => exact own
    obtain ⟨message, text⟩ := described
    dsimp only
    rw [signal, Option.isSome_some, Bool.or_true, if_pos rfl, ← signal, text]
    exact ⟨_, rfl⟩
  | _ =>
    rw [same] at settled
    cases settled

/-- A rejection that is not from the abort, or whose reason has no text, is thrown. -/
theorem collect_throws {thrown : Thrown} (kept : Kept call batch)
    (within : idx < call.targets.length) (rejected : batch.task idx = .rejected thrown)
    (silent : ∀ reason, batch.signal = some reason → reason.text = none) (collected : Collected) :
    ∃ thrown, collect call batch true collected idx = .error thrown := by
  obtain ⟨slot, found⟩ := kept.slotAt idx within
  have task := (kept.each idx slot found).task
  rw [task_eq found] at rejected
  rw [rejected] at task
  rw [collect, task_eq found, rejected]
  cases signal : batch.signal with
  | none =>
    rw [signal] at task
    have plain : thrown.isAbortError ≠ true := by
      intro aborts
      rcases task.2 with same | described
      · cases same
      · rcases described.2 (isDomException_of_isAbortError aborts) with same | same <;> cases same
    dsimp only
    rw [Option.isSome_none, Bool.or_false, if_neg plain]
    exact ⟨_, rfl⟩
  | some reason =>
    have none := silent reason signal
    cases reason with
    | other code text =>
      obtain rfl : text = Option.none := none
      rw [signal] at task
      have plain : thrown.isDomException ≠ true := by
        intro dom
        rcases task.2 with same | described
        · rw [← Option.some.inj same] at dom
          cases dom
        · rcases described.2 dom with same | same <;> cases Option.some.inj same
      dsimp only
      rw [Option.isSome_some, Bool.or_true, if_pos rfl, if_neg plain]
      exact ⟨_, rfl⟩
    | _ => cases none

/-- A settling after which a replaced target can still be reported: a rejection comes from an
abort, and the reason of the abort has a text where it is reported. -/
def Reportable (call : Call) (batch : Batch) : Event → Prop
  | .settle => batch.effectiveCommitted = true →
      ((∃ idx ∈ batch.chunkIndices, ∃ thrown, batch.task idx = .rejected thrown) →
        batch.signal.isSome = true) ∧
      ((∃ idx ∈ batch.chunkIndices, ∃ thrown, batch.task idx = .rejected thrown) ∨
          batch.stop < call.targets.length →
        ∀ reason, batch.signal = some reason → reason.text.isSome = true)
  | _ => True

theorem mem_chunkIndices : idx ∈ batch.chunkIndices ↔ batch.start ≤ idx ∧ idx < batch.stop := by
  rw [chunkIndices, List.mem_range'_1]
  omega

/-- After the chunk a commit is known exactly when some target was replaced. -/
theorem effectiveCommitted_iff (kept : Kept call batch) (running : Running call batch)
    (settled : ∀ idx ∈ batch.chunkIndices, (batch.task idx).settled = true) :
    batch.effectiveCommitted = true ↔
      ∃ idx slot, idx < batch.start + call.options.concurrency ∧
        batch.slots[idx]? = some slot ∧ slot.journal.renamed = true := by
  have stop := running.stop
  have begun := running.begun
  rw [effectiveCommitted, Bool.or_eq_true, List.any_eq_true, running.covers.committed]
  constructor
  · rintro (⟨idx, slot, before, found, renamed⟩ | ⟨idx, member, commits⟩)
    · exact ⟨idx, slot, by omega, found, renamed⟩
    · have bounds := mem_chunkIndices.mp member
      obtain ⟨slot, found⟩ := kept.slotAt idx (by omega)
      refine ⟨idx, slot, by omega, found, ?_⟩
      have task := (kept.each idx slot found).task
      rw [task_eq found] at commits
      cases same : slot.task with
      | fulfilled result =>
        rw [same] at commits task
        rw [← task.2.1]
        exact commits
      | _ =>
        rw [same] at commits
        cases commits
  · rintro ⟨idx, slot, before, found, renamed⟩
    by_cases earlier : idx < batch.start
    · exact .inl ⟨idx, slot, earlier, found, renamed⟩
    · have within : idx < call.targets.length :=
        kept.slots ▸ (List.getElem?_eq_some_iff.mp found).1
      have member := mem_chunkIndices.mpr (⟨by omega, by omega⟩ :
        batch.start ≤ idx ∧ idx < batch.stop)
      refine .inr ⟨idx, member, ?_⟩
      have task := (kept.each idx slot found).task
      have ended := settled idx member
      rw [task_eq found] at ended ⊢
      cases same : slot.task with
      | fulfilled result =>
        rw [same] at task
        exact task.2.1.trans renamed
      | rejected thrown =>
        rw [same] at task
        exact absurd (task.1.1.symm.trans renamed) (by simp)
      | _ =>
        rw [same] at ended
        cases ended

/-- The chunk is part of what is settled. -/
theorem covers_settled (kept : Kept call batch) (running : Running call batch)
    (settled : ∀ idx ∈ batch.chunkIndices, (batch.task idx).settled = true)
    (results : List (Option InlineFileResult)) :
    Covers call
      { batch with
        results := results
        hasCommitted := batch.effectiveCommitted
        start := batch.start + call.options.concurrency }
      (batch.start + call.options.concurrency) (batch.start + call.options.concurrency) := by
  have stop := running.stop
  refine ⟨?_, ?_, effectiveCommitted_iff kept running settled⟩
  · intro idx slot before found
    by_cases earlier : idx < batch.start
    · exact running.covers.settled idx slot earlier found
    · have within : idx < call.targets.length :=
        kept.slots ▸ (List.getElem?_eq_some_iff.mp found).1
      rw [← task_eq found]
      exact settled idx (mem_chunkIndices.mpr ⟨by omega, by omega⟩)
  · intro idx slot after found
    exact running.covers.later idx slot (by omega) found

/-- The results of the chunk are collected. -/
theorem told_settled {collected : Collected} (kept : Kept call batch)
    (running : Running call batch)
    (settled : ∀ idx ∈ batch.chunkIndices, (batch.task idx).settled = true)
    (ran : batch.chunkIndices.foldlM (collect call batch batch.effectiveCommitted)
      ⟨batch.results, none⟩ = .ok collected) :
    collected.results.length = call.targets.length ∧
      (∀ idx result, collected.results[idx]? = some (some result) →
        idx < batch.start + call.options.concurrency ∧ Tells call batch idx result) ∧
      ∀ idx, idx < batch.start + call.options.concurrency → idx < call.targets.length →
        Filled collected.results idx := by
  have stop := running.stop
  have begun := running.begun
  have fills := foldlM_fills Collected.results
    (fun idx result =>
      idx < batch.start + call.options.concurrency ∧ Tells call batch idx result)
    (fun idx member => by
      have bounds := mem_chunkIndices.mp member
      omega)
    (fun state next idx member size step => by
      have bounds := mem_chunkIndices.mp member
      obtain ⟨result, tells, same⟩ := collect_spec kept (by omega) (settled idx member) step
      exact .inr ⟨result, ⟨by omega, tells⟩, same⟩)
    ran kept.results (fun idx result found => by
      have told := running.told.tells idx result found
      exact ⟨by omega, told.2⟩)
  obtain ⟨size, tells, stays, filled⟩ := fills
  refine ⟨size, tells, ?_⟩
  intro idx before within
  by_cases earlier : idx < batch.start
  · exact stays idx (running.told.filled idx earlier within)
  · exact filled idx (mem_chunkIndices.mpr ⟨by omega, by omega⟩)

/-- A settled chunk that can be reported leads to a call in which all is reported. -/
theorem inv_settle (kept : Kept call batch) (open_ : batch.outcome = none)
    (running : Running call batch)
    (settled : ∀ idx ∈ batch.chunkIndices, (batch.task idx).settled = true)
    (reportable : Reportable call batch .settle) : Inv call (settleChunk call batch) := by
  have covers := covers_settled kept running settled
  have stop := running.stop
  -- the next chunk, or the end of the call
  have goes (collected : Collected)
      (ran : batch.chunkIndices.foldlM (collect call batch batch.effectiveCommitted)
        ⟨batch.results, none⟩ = .ok collected)
      (prints : batch.stop < call.targets.length → batch.effectiveCommitted = true →
        ∀ reason, batch.signal = some reason → reason.text.isSome = true) :
      Inv call (beginChunk call
        { batch with
          results := collected.results
          hasCommitted := batch.effectiveCommitted
          start := batch.start + call.options.concurrency }) := by
    obtain ⟨size, tells, filled⟩ := told_settled kept running settled ran
    refine inv_beginChunk ⟨kept.slots, size, kept.each⟩ open_ (covers _) ⟨tells, filled⟩ ?_
    intro more commits
    dsimp only at more
    exact prints (by omega) commits
  unfold settleChunk
  cases commits : batch.effectiveCommitted with
  | false =>
    have unreplaced := (covers batch.results).unreplaced { kept with }
      (by simp [commits])
    have silent := inv_rejected kept (covers batch.results).ended unreplaced
    rw [commits] at goes
    cases ran : batch.chunkIndices.foldlM (collect call batch false) ⟨batch.results, none⟩ with
    | error thrown => exact silent thrown
    | ok collected =>
      dsimp only
      cases collected.abortReason with
      | some abortReason => exact silent _
      | none =>
        cases signal : batch.signal with
        | some reason => exact silent reason
        | none =>
          have next := goes collected ran (fun _ commits => absurd commits (by simp))
          rw [signal] at next
          exact next
  | true =>
    have report := reportable commits
    rw [commits] at goes
    have recorded (collected : Collected) (idx : Nat) (member : idx ∈ batch.chunkIndices) :
        ∃ last, collect call batch true collected idx = .ok last := by
      have bounds := mem_chunkIndices.mp member
      refine collect_ok kept (by omega) (settled idx member) ?_ collected
      intro thrown rejected
      obtain ⟨reason, signal⟩ :=
        Option.isSome_iff_exists.mp (report.1 ⟨idx, member, thrown, rejected⟩)
      exact ⟨reason, signal, report.2 (.inl ⟨idx, member, thrown, rejected⟩) reason signal⟩
    obtain ⟨collected, ran⟩ := foldlM_ok recorded ⟨batch.results, none⟩
    have next := goes collected ran fun more _ => report.2 (.inr more)
    rw [ran]
    dsimp only
    cases collected.abortReason with
    | some abortReason => exact next
    | none =>
      cases signal : batch.signal with
      | some reason | none =>
        rw [signal] at next
        exact next

/-- Nothing is filled in for a target when the reason of the abort has no text. -/
theorem beginChunk_throws (batch : Batch) {reason : Thrown} (kept : Kept call batch)
    (more : batch.start < call.targets.length) (missing : ¬Filled batch.results batch.start)
    (commits : batch.hasCommitted = true) (aborted : batch.signal = some reason)
    (silent : reason.text = none) :
    ∃ thrown, beginChunk call batch = batch.reject thrown := by
  have text : (reason.orElse abortError).text = none := by
    cases reason with
    | other code text => exact silent
    | _ => cases silent
  have entry : batch.results[batch.start]? = some none := by
    have within : batch.start < batch.results.length := kept.results.symm ▸ more
    cases same : batch.results[batch.start] with
    | none => rw [List.getElem?_eq_getElem within, same]
    | some result =>
      exact absurd ⟨result, by rw [List.getElem?_eq_getElem within, same]⟩ missing
  have first : fillMissing call none batch.results batch.start = .error typeError := by
    unfold fillMissing
    rw [entry]
  obtain ⟨count, size⟩ : ∃ count, call.targets.length - batch.start = count + 1 :=
    ⟨call.targets.length - batch.start - 1, by omega⟩
  refine ⟨typeError, ?_⟩
  unfold beginChunk
  dsimp only
  rw [if_pos more, aborted]
  dsimp only
  rw [if_pos commits, text, size, List.range'_succ, List.foldlM_cons, first]
  rfl

/-- Else the call rejects, and hides a target that was replaced. -/
theorem settle_hides (kept : Kept call batch) (running : Running call batch)
    (settled : ∀ idx ∈ batch.chunkIndices, (batch.task idx).settled = true)
    (hides : ¬Reportable call batch .settle) :
    (∃ thrown, (settleChunk call batch).outcome = some (.error thrown)) ∧
      ∃ slot ∈ (settleChunk call batch).slots, slot.journal.renamed = true := by
  have stop := running.stop
  rw [Reportable, Classical.not_imp] at hides
  obtain ⟨commits, hides⟩ := hides
  obtain ⟨idx, slot, _, found, renamed⟩ :=
    (effectiveCommitted_iff kept running settled).mp commits
  suffices rejects : ∃ thrown, ∃ last : Batch, last.slots = batch.slots ∧
      settleChunk call batch = last.reject thrown by
    obtain ⟨thrown, last, slots, same⟩ := rejects
    rw [same]
    exact ⟨⟨thrown, rfl⟩, slot, slots.symm ▸ List.mem_of_getElem? found, renamed⟩
  unfold settleChunk
  cases ran : batch.chunkIndices.foldlM (collect call batch batch.effectiveCommitted)
      ⟨batch.results, none⟩ with
  | error thrown => exact ⟨thrown, batch, rfl, rfl⟩
  | ok collected =>
    -- a rejection that the loop passes is one of an abort whose reason has a text
    have passed (idx : Nat) (member : idx ∈ batch.chunkIndices) (thrown : Thrown)
        (rejected : batch.task idx = .rejected thrown) :
        ¬∀ reason, batch.signal = some reason → reason.text = none := by
      intro silent
      have bounds := mem_chunkIndices.mp member
      obtain ⟨other, throws⟩ := foldlM_throws member
        (collect_throws kept (by omega) rejected silent) ⟨batch.results, none⟩
      rw [commits, throws] at ran
      cases ran
    have silent : batch.stop < call.targets.length ∧
        ∃ reason, batch.signal = some reason ∧ reason.text = none := by
      by_contra prints
      apply hides
      constructor
      · rintro ⟨idx, member, thrown, rejected⟩
        by_contra silent
        refine passed idx member thrown rejected fun reason aborted => ?_
        rw [aborted] at silent
        exact absurd rfl silent
      · rintro (⟨idx, member, thrown, rejected⟩ | more) reason aborted
        · by_contra silent
          refine passed idx member thrown rejected fun other same => ?_
          obtain rfl : reason = other := Option.some.inj (aborted.symm.trans same)
          exact Option.not_isSome_iff_eq_none.mp silent
        · by_contra silent
          exact prints ⟨more, reason, aborted, Option.not_isSome_iff_eq_none.mp silent⟩
    obtain ⟨more, reason, aborted, silent⟩ := silent
    obtain ⟨size, tells, filled⟩ := told_settled kept running settled ran
    have throws := beginChunk_throws
      { batch with
        results := collected.results
        hasCommitted := batch.effectiveCommitted
        start := batch.start + call.options.concurrency }
      ⟨kept.slots, size, kept.each⟩ (by dsimp only; omega) (by
        rintro ⟨result, entry⟩
        exact absurd (tells _ result entry).1 (Nat.lt_irrefl _))
      commits aborted silent
    obtain ⟨thrown, same⟩ := throws
    refine ⟨thrown,
      { batch with
        results := collected.results
        hasCommitted := batch.effectiveCommitted
        start := batch.start + call.options.concurrency }, rfl, ?_⟩
    rw [commits] at same ⊢
    dsimp only
    cases collected.abortReason with
    | some abortReason => exact same
    | none =>
      rw [aborted] at same ⊢
      exact same

end WebTsToolkit.AssetInliner.InlineFiles.Batch
