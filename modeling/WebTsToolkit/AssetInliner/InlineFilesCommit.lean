import Mathlib.Data.List.Range
import WebTsToolkit.AssetInliner.InlineFilesSlots

set_option autoImplicit false

namespace WebTsToolkit.AssetInliner.InlineFiles.Batch

open Library

def Filled (results : List (Option InlineFileResult)) (idx : Nat) : Prop :=
  ∃ result, results[idx]? = some (some result)

variable {results : List (Option InlineFileResult)} {idx : Nat} {indices : List Nat} {σ : Type}
  {start : Nat}

theorem Filled.set (filled : Filled results idx) (other : Nat) (result : InlineFileResult) :
    Filled (results.set other (some result)) idx := by
  obtain ⟨old, found⟩ := filled
  by_cases same : other = idx
  · refine ⟨result, ?_⟩
    rw [same, List.getElem?_set_self (List.getElem?_eq_some_iff.mp found).1]
  · exact ⟨old, by rw [List.getElem?_set_ne same, found]⟩

variable {step : σ → Nat → Except Thrown σ}

/-- A run of a loop that puts a good result at each of its indices. -/
theorem foldlM_fills (results : σ → List (Option InlineFileResult))
    (good : Nat → InlineFileResult → Prop) {length : Nat} (within : ∀ idx ∈ indices, idx < length)
    (each : ∀ state next, ∀ idx ∈ indices, (results state).length = length →
      step state idx = .ok next →
        results next = results state ∧ Filled (results state) idx ∨
          ∃ result, good idx result ∧ results next = (results state).set idx (some result))
    {state last : σ} (ran : indices.foldlM step state = .ok last)
    (size : (results state).length = length)
    (fine : ∀ idx result, (results state)[idx]? = some (some result) → good idx result) :
    (results last).length = length ∧
      (∀ idx result, (results last)[idx]? = some (some result) → good idx result) ∧
      (∀ idx, Filled (results state) idx → Filled (results last) idx) ∧
      ∀ idx ∈ indices, Filled (results last) idx := by
  induction indices generalizing state with
  | nil =>
    obtain rfl : state = last := Except.ok.inj ran
    exact ⟨size, fine, fun _ filled => filled, fun _ member => absurd member List.not_mem_nil⟩
  | cons first rest ih =>
    rw [List.foldlM_cons] at ran
    cases head : step state first with
    | error thrown =>
      rw [head] at ran
      cases ran
    | ok next =>
      rw [head] at ran
      have later := ih (fun idx member => within idx (List.mem_cons_of_mem _ member))
        (fun state next idx member => each state next idx (List.mem_cons_of_mem _ member)) ran
      have here : first < (results state).length :=
        size.symm ▸ within first List.mem_cons_self
      rcases each state next first List.mem_cons_self size head with
        ⟨same, filled⟩ | ⟨result, ok, same⟩
      · rw [same] at later
        obtain ⟨length, good, stays, fills⟩ := later size fine
        refine ⟨length, good, stays, ?_⟩
        intro idx member
        rcases List.mem_cons.mp member with rfl | member
        · exact stays _ filled
        · exact fills idx member
      · rw [same] at later
        obtain ⟨length, good, stays, fills⟩ := later (by rw [List.length_set, size]) (by
          intro idx other found
          by_cases at_ : first = idx
          · subst at_
            rw [List.getElem?_set_self here] at found
            obtain rfl := Option.some.inj (Option.some.inj found)
            exact ok
          · rw [List.getElem?_set_ne at_] at found
            exact fine idx other found)
        refine ⟨length, good, fun idx filled => stays idx (filled.set _ _), ?_⟩
        intro idx member
        rcases List.mem_cons.mp member with rfl | member
        · exact stays _ ⟨result, List.getElem?_set_self here⟩
        · exact fills idx member

/-- A loop whose steps never throw does not throw. -/
theorem foldlM_ok (each : ∀ state, ∀ idx ∈ indices, ∃ next, step state idx = .ok next) (state : σ) :
    ∃ last, indices.foldlM step state = .ok last := by
  induction indices generalizing state with
  | nil => exact ⟨state, rfl⟩
  | cons first rest ih =>
    obtain ⟨next, head⟩ := each state first List.mem_cons_self
    obtain ⟨last, ran⟩ :=
      ih (fun state idx member => each state idx (List.mem_cons_of_mem _ member)) next
    exact ⟨last, by rw [List.foldlM_cons, head]; exact ran⟩

/-- A loop one of whose steps always throws throws. -/
theorem foldlM_throws (member : idx ∈ indices)
    (throws : ∀ state, ∃ thrown, step state idx = .error thrown) (state : σ) :
    ∃ thrown, indices.foldlM step state = .error thrown := by
  induction indices generalizing state with
  | nil => cases member
  | cons first rest ih =>
    rw [List.foldlM_cons]
    cases head : step state first with
    | error thrown => exact ⟨thrown, rfl⟩
    | ok next =>
      rcases List.mem_cons.mp member with rfl | later
      · obtain ⟨thrown, same⟩ := throws state
        rw [head] at same
        cases same
      · exact ih later next

variable {call : Call} {batch next : Batch}

/-- A result says of a target whether it was replaced. -/
def Tells (call : Call) (batch : Batch) (idx : Nat) (result : InlineFileResult) : Prop :=
  result.filePath = path call idx ∧
    ∃ slot, batch.slots[idx]? = some slot ∧ result.written = slot.journal.renamed

structure Kept (call : Call) (batch : Batch) : Prop where
  slots : batch.slots.length = call.targets.length
  results : batch.results.length = call.targets.length
  each : ∀ idx slot, batch.slots[idx]? = some slot →
    SlotOk call.options (path call idx) ((call.contents[idx]?).getD "") batch.signal slot

/-- Targets before an index are settled, and those from another one on are not begun. -/
structure Covers (call : Call) (batch : Batch) (start stop : Nat) : Prop where
  settled : ∀ idx slot, idx < start → batch.slots[idx]? = some slot → slot.task.settled = true
  later : ∀ idx slot, stop ≤ idx → batch.slots[idx]? = some slot → slot.task = .idle
  committed : batch.hasCommitted = true ↔
    ∃ idx slot, idx < start ∧ batch.slots[idx]? = some slot ∧ slot.journal.renamed = true

/-- The results are those of the targets before an index. -/
structure Told (call : Call) (batch : Batch) (start : Nat) : Prop where
  tells : ∀ idx result, batch.results[idx]? = some (some result) →
    idx < start ∧ Tells call batch idx result
  filled : ∀ idx, idx < start → idx < call.targets.length → Filled batch.results idx

structure Running (call : Call) (batch : Batch) : Prop where
  begun : batch.start < call.targets.length
  stop : batch.stop = min (batch.start + call.options.concurrency) call.targets.length
  covers : Covers call batch batch.start batch.stop
  told : Told call batch batch.start
  chunk : ∀ idx slot, batch.start ≤ idx → idx < batch.stop → batch.slots[idx]? = some slot →
    slot.task ≠ .idle

/-- How a settled call goes with what was done. -/
structure Finished (call : Call) (batch : Batch)
    (outcome : Except Thrown (List InlineFileResult)) : Prop where
  ended : ∀ slot ∈ batch.slots, slot.task = .idle ∨ slot.task.settled = true
  told : match outcome with
    | .error _ => ∀ slot ∈ batch.slots, slot.journal.renamed = false
    | .ok results => results.length = call.targets.length ∧
        ∀ idx result, results[idx]? = some result → Tells call batch idx result

structure Inv (call : Call) (batch : Batch) : Prop where
  kept : Kept call batch
  phase : match batch.outcome with
    | none => Running call batch
    | some outcome => Finished call batch outcome

theorem task_eq {slot : Slot} (found : batch.slots[idx]? = some slot) :
    batch.task idx = slot.task := by
  rw [task, found]
  rfl

theorem Kept.slotAt (kept : Kept call batch) (idx : Nat) (within : idx < call.targets.length) :
    ∃ slot, batch.slots[idx]? = some slot :=
  ⟨_, List.getElem?_eq_getElem (kept.slots.symm ▸ within)⟩

/-- A target that was not begun was not replaced. -/
theorem Kept.idle (kept : Kept call batch) {slot : Slot} (found : batch.slots[idx]? = some slot)
    (idle : slot.task = .idle) : slot.journal = ⟨none, false, false, false, false⟩ := by
  have task := (kept.each idx slot found).task
  rw [idle] at task
  exact task

/-- Without a commit no target was replaced. -/
theorem Covers.unreplaced (covers : Covers call batch start start) (kept : Kept call batch)
    (silent : batch.hasCommitted ≠ true) : ∀ slot ∈ batch.slots, slot.journal.renamed = false := by
  intro slot member
  obtain ⟨idx, found⟩ := List.mem_iff_getElem?.mp member
  by_cases before : idx < start
  · cases renamed : slot.journal.renamed with
    | false => rfl
    | true => exact absurd (covers.committed.mpr ⟨idx, slot, before, found, renamed⟩) silent
  · rw [kept.idle found (covers.later idx slot (by omega) found)]

theorem Covers.ended (covers : Covers call batch start start) :
    ∀ slot ∈ batch.slots, slot.task = .idle ∨ slot.task.settled = true := by
  intro slot member
  obtain ⟨idx, found⟩ := List.mem_iff_getElem?.mp member
  by_cases before : idx < start
  · exact .inr (covers.settled idx slot before found)
  · exact .inl (covers.later idx slot (by omega) found)

theorem inv_rejected (kept : Kept call batch)
    (ended : ∀ slot ∈ batch.slots, slot.task = .idle ∨ slot.task.settled = true)
    (unreplaced : ∀ slot ∈ batch.slots, slot.journal.renamed = false) (thrown : Thrown) :
    Inv call (batch.reject thrown) :=
  ⟨{ kept with }, ended, unreplaced⟩

theorem inv_reject (kept : Kept call batch) (covers : Covers call batch start start)
    (silent : batch.hasCommitted ≠ true) (thrown : Thrown) : Inv call (batch.reject thrown) :=
  inv_rejected kept covers.ended (covers.unreplaced kept silent) thrown

/-- What the loop over the missing results does at an index. -/
theorem fillMissing_spec {message : Option String}
    {results filled : List (Option InlineFileResult)} (within : idx < results.length)
    (ran : fillMissing call message results idx = .ok filled) :
    filled = results ∧ Filled results idx ∨
      ∃ message, filled = results.set idx
        (some (errorResult (.named "FILESYSTEM_ERROR") message (path call idx))) := by
  unfold fillMissing at ran
  rw [List.getElem?_eq_getElem within] at ran
  cases entry : results[idx] with
  | none =>
    rw [entry] at ran
    cases message with
    | none => cases ran
    | some message => exact .inr ⟨message, (Except.ok.inj ran).symm⟩
  | some result =>
    rw [entry] at ran
    exact .inl ⟨(Except.ok.inj ran).symm, result, by rw [List.getElem?_eq_getElem within, entry]⟩

theorem fillMissing_ok (call : Call) (message : String) (results : List (Option InlineFileResult))
    (idx : Nat) :
    ∃ filled, fillMissing call (some message) results idx = .ok filled := by
  unfold fillMissing
  split <;> exact ⟨_, rfl⟩

/-- The last loop finds nothing to fill in. -/
theorem fillMissing_filled (call : Call) (message : Option String)
    (filled : ∀ idx ∈ indices, Filled results idx) :
    indices.foldlM (fillMissing call message) results = .ok results := by
  induction indices with
  | nil => rfl
  | cons first rest ih =>
    obtain ⟨result, found⟩ := filled first List.mem_cons_self
    have head : fillMissing call message results first = .ok results := by
      unfold fillMissing
      rw [found]
    rw [List.foldlM_cons, head]
    exact ih fun idx member => filled idx (List.mem_cons_of_mem _ member)

theorem eq_map_some (filled : ∀ idx, idx < results.length → Filled results idx) :
    results = (results.filterMap id).map some := by
  induction results with
  | nil => rfl
  | cons entry rest ih =>
    obtain ⟨result, found⟩ := filled 0 (by simp)
    obtain rfl : entry = some result := Option.some.inj found
    rw [List.filterMap_cons_some (f := id) (b := result) rfl, List.map_cons]
    rw [← ih fun idx within => by simpa [Filled] using filled (idx + 1) (by simpa using within)]

/-- When each target has a result the call resolves with them. -/
theorem inv_finish (kept : Kept call batch)
    (ended : ∀ slot ∈ batch.slots, slot.task = .idle ∨ slot.task.settled = true)
    (tells : ∀ idx result, batch.results[idx]? = some (some result) → Tells call batch idx result)
    (filled : ∀ idx, idx < call.targets.length → Filled batch.results idx) :
    Inv call (finish call batch) := by
  have all := filled
  rw [← kept.results] at all
  have same := eq_map_some all
  have listed : ∀ idx ∈ List.range batch.results.length, Filled batch.results idx :=
    fun idx member => all idx (List.mem_range.mp member)
  have ran := fillMissing_filled call
    ((signalReason batch.signal).orElse (.other none (some "Aborted"))).text listed
  have outcome : (finish call batch).outcome = some (.ok (batch.results.filterMap id)) := by
    rw [finish]
    dsimp only
    rw [ran]
    rfl
  refine ⟨{ kept with }, ?_⟩
  rw [outcome]
  refine ⟨ended, ?_, ?_⟩
  · rw [← kept.results]
    conv_rhs => rw [same]
    rw [List.length_map]
  · intro idx result found
    refine tells idx result ?_
    rw [same, List.getElem?_map, found]
    rfl

/-- The targets that are not begun get an error result each. -/
theorem inv_fill {message : Option String} (kept : Kept call batch)
    (covers : Covers call batch batch.start batch.start) (told : Told call batch batch.start)
    (ran : (List.range' batch.start (call.targets.length - batch.start)).foldlM
      (fillMissing call message) batch.results = .ok results) :
    Inv call (finish call { batch with results := results }) := by
  have bounds : ∀ idx ∈ List.range' batch.start (call.targets.length - batch.start),
      batch.start ≤ idx ∧ idx < call.targets.length := by
    intro idx member
    have range := List.mem_range'_1.mp member
    omega
  have fills := foldlM_fills id (Tells call batch)
    (fun idx member => (bounds idx member).2) (by
      intro state next idx member size step
      rcases fillMissing_spec (size.symm ▸ (bounds idx member).2) step with same | ⟨message, same⟩
      · exact .inl same
      · refine .inr ⟨_, ⟨rfl, ?_⟩, same⟩
        obtain ⟨slot, found⟩ := kept.slotAt idx (bounds idx member).2
        refine ⟨slot, found, ?_⟩
        rw [kept.idle found (covers.later idx slot (bounds idx member).1 found)]
        rfl)
    ran kept.results fun idx result found => (told.tells idx result found).2
  obtain ⟨size, tells, stays, filled⟩ := fills
  refine inv_finish ⟨kept.slots, size, kept.each⟩ covers.ended tells ?_
  intro idx within
  by_cases before : idx < batch.start
  · exact stays idx (told.filled idx before within)
  · exact filled idx (List.mem_range'_1.mpr (by omega))

/-- The tasks of a chunk begin. -/
theorem inv_begun {slots : List Slot} (kept : Kept call batch) (running : batch.outcome = none)
    (more : batch.start < call.targets.length)
    (covers : Covers call batch batch.start batch.start) (told : Told call batch batch.start)
    (begun : slots = batch.slots.mapIdx fun idx slot =>
      if batch.start ≤ idx ∧
          idx < min (batch.start + call.options.concurrency) call.targets.length then
        { slot with task := .inspecting }
      else slot) :
    Inv call
      { batch with
        stop := min (batch.start + call.options.concurrency) call.targets.length
        slots := slots } := by
  have at_ (idx : Nat) (slot : Slot) (found : slots[idx]? = some slot) :
      ∃ old, batch.slots[idx]? = some old ∧ slot.journal = old.journal ∧
        slot.content = old.content ∧
        (slot = old ∧ ¬(batch.start ≤ idx ∧
            idx < min (batch.start + call.options.concurrency) call.targets.length) ∨
          batch.start ≤ idx ∧
            idx < min (batch.start + call.options.concurrency) call.targets.length ∧
            old.task = .idle ∧ slot.task = .inspecting) := by
    rw [begun, List.getElem?_mapIdx] at found
    obtain ⟨old, here, same⟩ := Option.map_eq_some_iff.mp found
    split at same
    · next inside =>
      refine ⟨old, here, ?_⟩
      rw [← same]
      exact ⟨rfl, rfl, .inr ⟨inside.1, inside.2, covers.later idx old inside.1 here, rfl⟩⟩
    · next outside =>
      exact ⟨old, here, by rw [same], by rw [same], .inl ⟨same.symm, outside⟩⟩
  have same (idx : Nat) (slot : Slot) (found : batch.slots[idx]? = some slot) :
      ∃ new, slots[idx]? = some new ∧ new.journal = slot.journal := by
    rw [begun, List.getElem?_mapIdx, found]
    refine ⟨_, rfl, ?_⟩
    split <;> rfl
  refine ⟨⟨?_, kept.results, ?_⟩, ?_⟩
  · rw [← kept.slots, begun, List.length_mapIdx]
  · intro idx slot found
    obtain ⟨old, here, journal, content, changed⟩ := at_ idx slot found
    have ok := kept.each idx old here
    rcases changed with ⟨unchanged, _⟩ | ⟨_, _, idle, begins⟩
    · rw [unchanged]
      exact ok
    · refine ⟨?_, ?_⟩
      · rw [content, journal]
        exact ok.files
      rw [begins]
      exact journal.trans (kept.idle here idle)
  · rw [running]
    refine ⟨more, rfl, ⟨?_, ?_, ?_⟩, ⟨?_, told.filled⟩, ?_⟩
    · intro idx slot before found
      dsimp only at before
      obtain ⟨old, here, _, _, ⟨unchanged, _⟩ | ⟨after, _⟩⟩ := at_ idx slot found
      · rw [unchanged]
        exact covers.settled idx old before here
      · omega
    · intro idx slot after found
      dsimp only at after
      obtain ⟨old, here, _, _, ⟨unchanged, _⟩ | ⟨_, before, _⟩⟩ := at_ idx slot found
      · rw [unchanged]
        exact covers.later idx old (by omega) here
      · exact absurd before (by omega)
    · refine covers.committed.trans ⟨?_, ?_⟩
      · rintro ⟨idx, slot, before, found, renamed⟩
        obtain ⟨new, here, journal⟩ := same idx slot found
        exact ⟨idx, new, before, here, by rw [journal, renamed]⟩
      · rintro ⟨idx, slot, before, found, renamed⟩
        obtain ⟨old, here, journal, _⟩ := at_ idx slot found
        exact ⟨idx, old, before, here, by rw [← journal, renamed]⟩
    · intro idx result found
      obtain ⟨before, named, slot, here, written⟩ := told.tells idx result found
      obtain ⟨new, there, journal⟩ := same idx slot here
      exact ⟨before, named, new, there, by rw [written, journal]⟩
    · intro idx slot after before found
      obtain ⟨old, here, _, _, ⟨_, outside⟩ | ⟨_, _, _, begins⟩⟩ := at_ idx slot found
      · exact absurd ⟨after, before⟩ outside
      · rw [begins]
        exact Task.noConfusion

/-- The head of the loop finishes the call, or begins the next chunk. -/
theorem inv_beginChunk (kept : Kept call batch) (running : batch.outcome = none)
    (covers : Covers call batch batch.start batch.start) (told : Told call batch batch.start)
    (prints : batch.start < call.targets.length → batch.hasCommitted = true →
      ∀ reason, batch.signal = some reason → reason.text.isSome = true) :
    Inv call (beginChunk call batch) := by
  unfold beginChunk
  dsimp only
  split
  · next more =>
    cases aborted : batch.signal with
    | some reason =>
      dsimp only
      split
      · next commits =>
        have described : ∃ message, (reason.orElse abortError).text = some message := by
          have prints := Option.isSome_iff_exists.mp (prints more commits reason aborted)
          cases reason with
          | null | undefined => exact ⟨_, rfl⟩
          | _ => exact prints
        obtain ⟨message, text⟩ := described
        rw [text]
        have fills (results : List (Option InlineFileResult)) (idx : Nat)
            (_ : idx ∈ List.range' batch.start (call.targets.length - batch.start)) :=
          fillMissing_ok call message results idx
        obtain ⟨results, ran⟩ := foldlM_ok fills batch.results
        rw [ran]
        have filled := inv_fill kept covers told ran
        rw [aborted] at filled
        exact filled
      · next silent => exact inv_reject kept covers silent reason
    | none =>
      have begun := inv_begun kept running more covers told rfl
      rw [aborted] at begun
      exact begun
  · next all =>
    refine inv_finish kept covers.ended (fun idx result found => (told.tells idx result found).2)
      ?_
    intro idx within
    exact told.filled idx (by omega) within

end WebTsToolkit.AssetInliner.InlineFiles.Batch
