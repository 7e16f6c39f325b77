import WebTsToolkit.AssetInliner.InlineFiles

set_option autoImplicit false

namespace WebTsToolkit.AssetInliner.InlineFiles

/-- A thrown value that is the reason of the abort, or that has a description; a `DOMException`
of our own stands for a reason that is `null`. -/
def Reported (signal : Option Thrown) (thrown : Thrown) : Prop :=
  signal = some thrown ∨
    thrown.describe.isSome = true ∧
      (thrown.isDomException = true → signal = some .null ∨ signal = some .undefined)

/-- The journal when no call for writing was made. -/
def Journal.Unopened (journal : Journal) : Prop :=
  journal.openedTemp = false ∧ journal.createdTemp = false ∧ journal.renamed = false ∧
    journal.unlinkedTemp = false

/-- The temporary file is there and was neither renamed nor unlinked. -/
def Journal.Staged (journal : Journal) : Prop :=
  journal.openedTemp = true ∧ journal.createdTemp = true ∧ journal.renamed = false ∧
    journal.unlinkedTemp = false

/-- The target was not replaced and nothing is left of its temporary file. -/
def Journal.Cleaned (journal : Journal) : Prop :=
  journal.renamed = false ∧ (journal.createdTemp = true → journal.unlinkedTemp = true)

/-- What an awaited call of `writeAtomicAsync` goes with. -/
def StageOk (signal : Option Thrown) (slot : Slot) (inlineResult : InlineResult)
    (staging : Staging) : WriteStage → Prop
  | .stat => slot.journal.Unopened
  | .openTemp =>
    slot.journal.openedTemp = true ∧ slot.journal.createdTemp = false ∧
      slot.journal.renamed = false ∧ slot.journal.unlinkedTemp = false ∧
      staging.handle = false ∧ staging.tempCreated = false
  | .writeFile => slot.journal.Staged ∧ staging.handle = true ∧ staging.tempCreated = true
  | .chmod =>
    slot.journal.Staged ∧ staging.handle = true ∧ staging.tempCreated = true ∧
      slot.temp = some inlineResult.content
  | .sync =>
    slot.journal.Staged ∧ staging.handle = true ∧ staging.tempCreated = true ∧
      slot.temp = some inlineResult.content
  | .close =>
    slot.journal.Staged ∧ staging.handle = true ∧ staging.tempCreated = true ∧
      slot.temp = some inlineResult.content
  | .rename =>
    slot.journal.Staged ∧ staging.handle = false ∧ staging.tempCreated = true ∧
      slot.temp = some inlineResult.content
  | .openDir | .syncDir | .closeDir => slot.journal.renamed = true
  | .cleanupClose thrown =>
    slot.journal.Staged ∧ staging.tempCreated = true ∧ Reported signal thrown
  | .cleanupUnlink thrown => slot.journal.Cleaned ∧ Reported signal thrown
  | .unwind thrown => slot.journal.Cleaned ∧ Reported signal thrown

/-- What a task goes with. -/
def TaskOk (options : Options) (path : String) (signal : Option Thrown) (slot : Slot) :
    Task → Prop
  | .idle | .inspecting | .reading | .transforming _ =>
    slot.journal = ⟨none, false, false, false, false⟩
  | .writing inlineResult staging stage =>
    slot.journal.transformed = some inlineResult ∧ inlineResult.modified = true ∧
      options.write = true ∧ StageOk signal slot inlineResult staging stage
  | .fulfilled result =>
    result.filePath = path ∧ result.written = slot.journal.renamed ∧
      (slot.journal.renamed = true ∨ slot.journal.Cleaned)
  | .rejected reason =>
    slot.journal.Cleaned ∧ Reported signal reason

/-- The files of a target go with what was done for it. -/
structure FilesOk (options : Options) (content now : String) (journal : Journal) : Prop where
  kept : journal.renamed = false → now = content
  replaced : journal.renamed = true → journal.openedTemp = true ∧
    ∃ inlineResult, journal.transformed = some inlineResult ∧
      now = inlineResult.content
  opened : journal.openedTemp = true → options.write = true ∧
    ∃ inlineResult, journal.transformed = some inlineResult ∧ inlineResult.modified = true
  created : journal.createdTemp = true → journal.openedTemp = true
  unlinked : journal.unlinkedTemp = true →
    journal.createdTemp = true ∧ journal.renamed = false

structure SlotOk (options : Options) (path content : String) (signal : Option Thrown)
    (slot : Slot) : Prop where
  files : FilesOk options content slot.content slot.journal
  task : TaskOk options path signal slot slot.task

section Steps

variable {options : Options} {path content : String} {signal : Option Thrown} {slot : Slot}

theorem Reported.later {thrown reason : Thrown} (reported : Reported signal thrown) :
    Reported (some (signal.getD reason)) thrown := by
  rcases reported with same | described
  · rw [same]
    exact .inl rfl
  · refine .inr ⟨described.1, fun dom => ?_⟩
    rcases described.2 dom with same | same <;> rw [same]
    · exact .inl rfl
    · exact .inr rfl

variable {thrown : Thrown} {err : Thrown} {next : Slot} {stage : WriteStage}

theorem Reported.plain (described : thrown.describe.isSome = true)
    (plain : thrown.isDomException = false) : Reported signal thrown :=
  .inr ⟨described, fun dom => absurd (plain.symm.trans dom) (by simp)⟩

/-- What the `catch` block of `writeAtomicAsync` throws is reported. -/
theorem primaryError_reported (filePath : String) (staging : Staging)
    (own : err.isDomException = true → signal = some err) :
    Reported signal (primaryError signal filePath staging err) := by
  cases signal with
  | none => cases err <;> exact .plain rfl rfl
  | some reason =>
    rw [primaryError]
    split
    · next aborts =>
      cases err with
      | domException name message code => exact .inl (own rfl)
      | _ => exact absurd aborts (by simp [Thrown.isAbortError])
    · cases reason with
      | null => exact .inr ⟨rfl, fun _ => .inl rfl⟩
      | undefined => exact .inr ⟨rfl, fun _ => .inr rfl⟩
      | _ => exact .inl rfl

/-- An abort leaves a target as it is. -/
theorem SlotOk.abort (ok : SlotOk options path content signal slot) (reason : Thrown) :
    SlotOk options path content (some (signal.getD reason)) slot := by
  refine ⟨ok.files, ?_⟩
  have task := ok.task
  cases same : slot.task with
  | writing inlineResult staging stage =>
    rw [same] at task
    obtain ⟨transformed, modified, write, stageOk⟩ := task
    refine ⟨transformed, modified, write, ?_⟩
    cases stage with
    | cleanupClose thrown => exact ⟨stageOk.1, stageOk.2.1, stageOk.2.2.later⟩
    | cleanupUnlink thrown | unwind thrown => exact ⟨stageOk.1, stageOk.2.later⟩
    | _ => exact stageOk
  | rejected thrown =>
    rw [same] at task
    exact ⟨task.1, task.2.later⟩
  | _ =>
    rw [same] at task
    exact task

/-- What is left to do in a task. -/
@[simp] def WriteStage.rank : WriteStage → Nat
  | .stat => 10
  | .openTemp => 9
  | .writeFile => 8
  | .chmod => 7
  | .sync => 6
  | .close => 5
  | .rename => 4
  | .openDir => 3
  | .syncDir => 2
  | .closeDir => 1
  | .cleanupClose _ => 3
  | .cleanupUnlink _ => 2
  | .unwind _ => 1

@[simp] def Task.rank : Task → Nat
  | .idle => 14
  | .inspecting => 13
  | .reading => 12
  | .transforming _ => 11
  | .writing _ _ stage => stage.rank
  | .fulfilled _ => 0
  | .rejected _ => 0

/-- The write of a target whose `catch` block has not run. -/
structure Attempting (options : Options) (content : String) (slot : Slot)
    (inlineResult : InlineResult) (staging : Staging) : Prop where
  files : FilesOk options content slot.content slot.journal
  transformed : slot.journal.transformed = some inlineResult
  modified : inlineResult.modified = true
  write : options.write = true
  renamed : slot.journal.renamed = false
  unlinked : slot.journal.unlinkedTemp = false
  tempCreated : slot.journal.createdTemp = staging.tempCreated
  handle : staging.handle = true → staging.tempCreated = true

variable {inlineResult : InlineResult} {staging : Staging}

theorem unlinkTemp_ok (path : String)
    (attempting : Attempting options content slot inlineResult staging)
    (reported : Reported signal thrown) :
    SlotOk options path content signal (unlinkTemp slot inlineResult staging thrown) ∧
      (unlinkTemp slot inlineResult staging thrown).task.rank ≤ 2 := by
  have files := attempting.files
  have created := attempting.tempCreated
  rw [unlinkTemp]
  split
  · next temp =>
    rw [temp] at created
    refine ⟨⟨?_, ?_⟩, Nat.le_refl _⟩
    · exact {
        kept := files.kept
        replaced := files.replaced
        opened := files.opened
        created := files.created
        unlinked := fun _ => ⟨created, attempting.renamed⟩ }
    · exact ⟨attempting.transformed, attempting.modified, attempting.write,
        ⟨attempting.renamed, fun _ => rfl⟩, reported⟩
  · next temp =>
    refine ⟨⟨files, ?_⟩, by simp⟩
    refine ⟨attempting.transformed, attempting.modified, attempting.write,
      ⟨attempting.renamed, fun exists_ => ?_⟩, reported⟩
    exact absurd (created.symm.trans exists_) temp

theorem catchAtomic_ok (path : String) (signal : Option Thrown)
    (attempting : Attempting options content slot inlineResult staging)
    (own : err.isDomException = true → signal = some err) :
    SlotOk options path content signal
        (catchAtomic signal path slot inlineResult staging err) ∧
      (catchAtomic signal path slot inlineResult staging err).task.rank ≤ 3 := by
  have reported := primaryError_reported path staging own
  rw [catchAtomic, closeTemp]
  split
  · next handle =>
    have temp := attempting.handle handle
    have created := attempting.tempCreated.trans temp
    refine ⟨⟨attempting.files, ?_⟩, Nat.le_refl _⟩
    exact ⟨attempting.transformed, attempting.modified, attempting.write,
      ⟨attempting.files.created created, created, attempting.renamed, attempting.unlinked⟩,
      temp, reported⟩
  · have unlinked := unlinkTemp_ok path attempting reported
    exact ⟨unlinked.1, Nat.le_trans unlinked.2 (by decide)⟩

theorem proceed_ok (path : String) (signal : Option Thrown)
    (attempting : Attempting options content slot inlineResult staging)
    (stageOk : StageOk none slot inlineResult staging stage) (early : 3 ≤ stage.rank) :
    SlotOk options path content signal
        (proceed signal path slot inlineResult staging stage) ∧
      (proceed signal path slot inlineResult staging stage).task.rank ≤ stage.rank := by
  cases signal with
  | none =>
    refine ⟨⟨attempting.files, ?_⟩, Nat.le_refl _⟩
    refine ⟨attempting.transformed, attempting.modified, attempting.write, ?_⟩
    cases stage <;> exact stageOk
  | some reason =>
    have caught := catchAtomic_ok path (some reason) attempting
      fun _ => rfl
    exact ⟨caught.1, Nat.le_trans caught.2 early⟩

/-- Where the temporary file is staged, the write is an attempt. -/
theorem Attempting.of_staged (files : FilesOk options content slot.content slot.journal)
    (transformed : slot.journal.transformed = some inlineResult)
    (modified : inlineResult.modified = true) (write : options.write = true)
    (staged : slot.journal.Staged) (temp : staging.tempCreated = true) :
    Attempting options content slot inlineResult staging where
  files := files
  transformed := transformed
  modified := modified
  write := write
  renamed := staged.2.2.1
  unlinked := staged.2.2.2
  tempCreated := staged.2.1.trans temp.symm
  handle := fun _ => temp

/-- A call that fails is left for the `catch` block. -/
theorem fails_ok (attempting : Attempting options content slot inlineResult staging)
    (plain : err.isDomException = false) (early : 3 < stage.rank) :
    SlotOk options path content signal
        (catchAtomic signal path slot inlineResult staging err) ∧
      (catchAtomic signal path slot inlineResult staging err).task.rank < stage.rank := by
  have own : err.isDomException = true → signal = some err :=
    fun dom => absurd (plain.symm.trans dom) (by simp)
  have caught := catchAtomic_ok path signal attempting own
  exact ⟨caught.1, Nat.lt_of_le_of_lt caught.2 early⟩

/-- A call that succeeds is left for the next one. -/
theorem proceeds_ok {stage later : WriteStage}
    (attempting : Attempting options content slot inlineResult staging)
    (stageOk : StageOk none slot inlineResult staging later) (early : 3 ≤ later.rank)
    (less : later.rank < stage.rank) :
    SlotOk options path content signal
        (proceed signal path slot inlineResult staging later) ∧
      (proceed signal path slot inlineResult staging later).task.rank < stage.rank := by
  have goes := proceed_ok path signal attempting stageOk early
  exact ⟨goes.1, Nat.lt_of_le_of_lt goes.2 less⟩

/-- The caller of `writeAtomicAsync` rethrows when the signal is aborted, and reports else. -/
theorem catchWrite_ok (options : Options) (path : String) (inlineResult : InlineResult)
    (cleaned : slot.journal.Cleaned) (reported : Reported signal thrown) :
    TaskOk options path signal slot (catchWrite signal path inlineResult thrown) ∧
      (catchWrite signal path inlineResult thrown).rank = 0 := by
  rw [catchWrite]
  split
  · exact ⟨⟨cleaned, reported⟩, rfl⟩
  · next silent =>
    rw [Bool.or_eq_true, not_or] at silent
    rcases reported with same | described
    · rw [same] at silent
      exact absurd rfl silent.2
    · obtain ⟨message, same⟩ := Option.isSome_iff_exists.mp described.1
      rw [same]
      exact ⟨⟨rfl, cleaned.1.symm, .inr cleaned⟩, rfl⟩

/-- A step of `writeAtomicAsync`. -/
theorem advanceWrite_ok {outcome : Outcome}
    (files : FilesOk options content slot.content slot.journal)
    (transformed : slot.journal.transformed = some inlineResult)
    (modified : inlineResult.modified = true) (write : options.write = true)
    (stageOk : StageOk signal slot inlineResult staging stage)
    (taken : advanceWrite signal path slot inlineResult staging stage outcome = some next) :
    SlotOk options path content signal next ∧ next.task.rank < stage.rank := by
  have finished (renamed : slot.journal.renamed = true) :
      SlotOk options path content signal { slot with task := written path inlineResult } :=
    ⟨files, rfl, renamed.symm, .inl renamed⟩
  cases stage with
  | stat =>
    obtain ⟨opened, created, renamed, unlinked⟩ := stageOk
    cases outcome with
    | done =>
      cases signal with
      | none =>
        obtain rfl := Option.some.inj taken
        refine ⟨⟨?_, ?_⟩, by simp⟩
        · exact {
            kept := files.kept
            replaced := fun replaced => absurd (renamed.symm.trans replaced) (by decide)
            opened := fun _ => ⟨write, _, transformed, modified⟩
            created := fun _ => rfl
            unlinked := files.unlinked }
        · exact ⟨transformed, modified, write, rfl, created, renamed, unlinked, rfl, rfl⟩
      | some reason =>
        obtain rfl := Option.some.inj taken
        refine ⟨⟨files, transformed, modified, write, ⟨renamed, ?_⟩, ?_⟩,
          by simp⟩
        · exact fun exists_ => absurd (created.symm.trans exists_) (by decide)
        · exact .inl rfl
    | failed code message =>
      obtain rfl := Option.some.inj taken
      refine ⟨⟨files, transformed, modified, write, ⟨renamed, ?_⟩, ?_⟩,
        by simp⟩
      · exact fun exists_ => absurd (created.symm.trans exists_) (by decide)
      · exact .plain rfl rfl
    | _ => cases taken
  | openTemp =>
    obtain ⟨opened, created, renamed, unlinked, handle, temp⟩ := stageOk
    cases outcome with
    | done =>
      obtain rfl := Option.some.inj taken
      refine ⟨⟨?_, ?_⟩, by simp⟩
      · exact {
          kept := files.kept
          replaced := files.replaced
          opened := files.opened
          created := fun _ => opened
          unlinked := fun unlinks => absurd (unlinked.symm.trans unlinks) (by decide) }
      · exact ⟨transformed, modified, write, ⟨opened, rfl, renamed, unlinked⟩, rfl, rfl⟩
    | failed code message =>
      obtain rfl := Option.some.inj taken
      have attempting : Attempting options content slot inlineResult staging :=
        ⟨files, transformed, modified, write, renamed, unlinked, created.trans temp.symm,
          fun opens => absurd (handle.symm.trans opens) (by decide)⟩
      exact fails_ok attempting rfl (by simp)
    | _ => cases taken
  | writeFile =>
    obtain ⟨staged, handle, temp⟩ := stageOk
    have attempting := Attempting.of_staged files transformed modified write staged temp
    cases outcome with
    | done =>
      obtain rfl := Option.some.inj taken
      exact proceeds_ok
        (.of_staged files transformed modified write staged temp)
        ⟨staged, handle, temp, rfl⟩ (by simp) (by simp)
    | failed code message =>
      obtain rfl := Option.some.inj taken
      exact fails_ok attempting rfl (by simp)
    | _ => cases taken
  | chmod | sync =>
    obtain ⟨staged, handle, temp, holds⟩ := stageOk
    have attempting := Attempting.of_staged files transformed modified write staged temp
    cases outcome with
    | done =>
      obtain rfl := Option.some.inj taken
      exact proceeds_ok
        (.of_staged files transformed modified write staged temp)
        ⟨staged, handle, temp, holds⟩ (by simp) (by simp)
    | failed code message =>
      obtain rfl := Option.some.inj taken
      exact fails_ok attempting rfl (by simp)
    | _ => cases taken
  | close =>
    obtain ⟨staged, handle, temp, holds⟩ := stageOk
    have attempting := Attempting.of_staged files transformed modified write staged temp
    cases outcome with
    | done =>
      obtain rfl := Option.some.inj taken
      exact proceeds_ok
        (.of_staged files transformed modified write staged temp)
        ⟨staged, rfl, temp, holds⟩ (by simp) (by simp)
    | failed code message =>
      obtain rfl := Option.some.inj taken
      exact fails_ok attempting rfl (by simp)
    | _ => cases taken
  | rename =>
    obtain ⟨staged, handle, temp, holds⟩ := stageOk
    have attempting := Attempting.of_staged files transformed modified write staged temp
    cases outcome with
    | done =>
      obtain rfl := Option.some.inj taken
      refine ⟨⟨?_, transformed, modified, write, rfl⟩, by simp⟩
      exact {
        kept := fun kept => absurd kept (by simp)
        replaced := fun _ => ⟨staged.1, _, transformed, by rw [holds]; rfl⟩
        opened := files.opened
        created := files.created
        unlinked := fun unlinks => absurd (staged.2.2.2.symm.trans unlinks) (by decide) }
    | failed code message =>
      obtain rfl := Option.some.inj taken
      exact fails_ok attempting rfl (by simp)
    | _ => cases taken
  | openDir =>
    cases outcome with
    | done =>
      obtain rfl := Option.some.inj taken
      exact ⟨⟨files, transformed, modified, write, stageOk⟩, by simp⟩
    | failed code message =>
      obtain rfl := Option.some.inj taken
      exact ⟨finished stageOk, by simp [written]⟩
    | _ => cases taken
  | syncDir | cleanupUnlink thrown =>
    cases outcome with
    | done | failed code message =>
      obtain rfl := Option.some.inj taken
      exact ⟨⟨files, transformed, modified, write, stageOk⟩, by simp⟩
    | _ => cases taken
  | closeDir =>
    cases outcome with
    | done | failed code message =>
      obtain rfl := Option.some.inj taken
      exact ⟨finished stageOk, by simp [written]⟩
    | _ => cases taken
  | cleanupClose thrown =>
    obtain ⟨staged, temp, reported⟩ := stageOk
    have attempting := Attempting.of_staged files transformed modified write staged temp
    have unlinked := unlinkTemp_ok path attempting reported
    cases outcome with
    | done | failed code message =>
      obtain rfl := Option.some.inj taken
      exact ⟨unlinked.1, Nat.lt_of_le_of_lt unlinked.2 (by simp)⟩
    | _ => cases taken
  | unwind thrown =>
    obtain ⟨cleaned, reported⟩ := stageOk
    cases outcome with
    | done =>
      obtain rfl := Option.some.inj taken
      have caught := catchWrite_ok options path inlineResult cleaned reported
      exact ⟨⟨files, caught.1⟩, by rw [caught.2]; simp⟩
    | _ => cases taken

theorem cleaned_of_fresh {journal : Journal} (fresh : journal = ⟨none, false, false, false, false⟩) :
    journal.Cleaned := by
  rw [fresh]
  exact ⟨rfl, id⟩

/-- Before the write a task rejects with the reason of the abort, or goes on. -/
theorem throwIfAborted_ok (options : Options) (path : String) (signal : Option Thrown)
    {slot : Slot} (fresh : slot.journal.Cleaned) (task : Task)
    (next : signal = none → TaskOk options path signal slot task) :
    TaskOk options path signal slot (throwIfAborted signal task) ∧
      (throwIfAborted signal task).rank ≤ task.rank := by
  cases signal with
  | none => exact ⟨next rfl, Nat.le_refl _⟩
  | some reason => exact ⟨⟨fresh, .inl rfl⟩, Nat.zero_le _⟩

theorem catchTransform_ok (options : Options) (path : String) (signal : Option Thrown)
    (content : String) (err : Thrown) (cleaned : slot.journal.Cleaned) :
    TaskOk options path signal slot (catchTransform signal path content err) ∧
      (catchTransform signal path content err).rank = 0 := by
  cases signal with
  | some reason => exact ⟨⟨cleaned, .inl rfl⟩, rfl⟩
  | none =>
    rw [catchTransform, throwIfAborted]
    dsimp only
    cases err.describe with
    | none => exact ⟨⟨cleaned, .plain rfl rfl⟩, rfl⟩
    | some message => exact ⟨⟨rfl, cleaned.1.symm, .inr cleaned⟩, rfl⟩

/-- A step of a target keeps what goes with its task, and leaves less to do. -/
theorem advance_ok {outcome : Outcome} (ok : SlotOk options path content signal slot)
    (taken : advance signal path options slot outcome = some next) :
    SlotOk options path content signal next ∧ next.task.rank < slot.task.rank := by
  obtain ⟨files, task⟩ := ok
  unfold advance at taken
  cases same : slot.task with
  | idle =>
    rw [same] at taken
    cases taken
  | inspecting =>
    rw [same] at taken task
    have cleaned := cleaned_of_fresh task
    have reads := throwIfAborted_ok options path signal cleaned .reading fun _ => task
    cases outcome with
    | size size =>
      cases size with
      | none =>
        obtain rfl := Option.some.inj taken
        exact ⟨⟨files, reads.1⟩, Nat.lt_of_le_of_lt reads.2 (by simp)⟩
      | some size =>
        dsimp only at taken
        split at taken
        · obtain rfl := Option.some.inj taken
          have fails := throwIfAborted_ok options path signal cleaned
            (.fulfilled (errorResult (.named "RESOURCE_LIMIT")
              (targetByteLimitMessage size options.maxTargetBytes) path))
            fun _ => ⟨rfl, cleaned.1.symm, .inr cleaned⟩
          exact ⟨⟨files, fails.1⟩, Nat.lt_of_le_of_lt fails.2 (by simp)⟩
        · obtain rfl := Option.some.inj taken
          exact ⟨⟨files, reads.1⟩, Nat.lt_of_le_of_lt reads.2 (by simp)⟩
    | _ => cases taken
  | reading =>
    rw [same] at taken task
    have cleaned := cleaned_of_fresh task
    cases outcome with
    | text text =>
      obtain rfl := Option.some.inj taken
      split
      · next large =>
        have fails := catchTransform_ok options path signal text
          (targetByteLimitError text.utf8ByteSize options.maxTargetBytes) cleaned
        have reads := throwIfAborted_ok options path signal cleaned _ fun _ => fails.1
        exact ⟨⟨files, reads.1⟩,
          Nat.lt_of_le_of_lt (Nat.le_trans reads.2 (Nat.le_of_eq fails.2)) (by simp)⟩
      · have reads := throwIfAborted_ok options path signal cleaned (.transforming text)
          fun _ => task
        exact ⟨⟨files, reads.1⟩, Nat.lt_of_le_of_lt reads.2 (by simp)⟩
    | failed code message =>
      obtain rfl := Option.some.inj taken
      have fails := throwIfAborted_ok options path signal cleaned
        (.fulfilled (errorResult (.named "FILESYSTEM_ERROR") message path))
        fun _ => ⟨rfl, cleaned.1.symm, .inr cleaned⟩
      exact ⟨⟨files, fails.1⟩, Nat.lt_of_le_of_lt fails.2 (by simp)⟩
    | _ => cases taken
  | transforming text =>
    rw [same] at taken task
    have cleaned := cleaned_of_fresh task
    cases outcome with
    | transformed inlined =>
      cases inlined with
      | error err =>
        obtain rfl := Option.some.inj taken
        have fails := catchTransform_ok options path signal text err cleaned
        exact ⟨⟨files, fails.1⟩, by rw [fails.2]; simp⟩
      | ok inlineResult =>
        obtain rfl := Option.some.inj taken
        have journal : slot.journal.Unopened := by
          rw [task]
          exact ⟨rfl, rfl, rfl, rfl⟩
        let after : Slot :=
          { slot with journal := { slot.journal with transformed := some inlineResult } }
        have done : after.journal.Cleaned := cleaned
        have goes := throwIfAborted_ok options path signal done
          (if options.write && inlineResult.modified then
              .writing inlineResult ⟨false, false, "write"⟩ .stat
            else .fulfilled (makeInlineFileResult path inlineResult [] false)) (by
            intro _
            split
            · next writes =>
              rw [Bool.and_eq_true] at writes
              exact ⟨rfl, writes.2, writes.1, journal⟩
            · exact ⟨rfl, journal.2.2.1.symm, .inr cleaned⟩)
        refine ⟨⟨?_, goes.1⟩, Nat.lt_of_le_of_lt goes.2 ?_⟩
        · exact {
            kept := files.kept
            replaced := fun renamed => absurd (journal.2.2.1.symm.trans renamed) (by decide)
            opened := fun opened => absurd (journal.1.symm.trans opened) (by decide)
            created := files.created
            unlinked := files.unlinked }
        · split <;> simp
    | _ => cases taken
  | writing inlineResult staging stage =>
    rw [same] at taken task
    obtain ⟨transformed, modified, write, stageOk⟩ := task
    exact advanceWrite_ok files transformed modified write stageOk taken
  | fulfilled result | rejected reason =>
    rw [same] at taken
    cases taken

end Steps

end WebTsToolkit.AssetInliner.InlineFiles
