import WebTsToolkit.PdfReader.LoadCustody

set_option autoImplicit false

namespace WebTsToolkit.PdfReader.Load

variable {Document Error : Type} {reader : Reader Document Error} {index : Nat}
  {before attempt : LoadState Document Error} {tasks tasks' : List (LoadingTask Error)}

/-- A task that is given up is given up to a call of its `destroy()`, also one that throws. -/
theorem destroyLoadStateTask_spec (index : Nat) (throws : Option Error)
    (alone : ∀ name, attempt.task = some name →
      attempt.destroyPromise = none ∧ name < tasks.length) :
    (destroyLoadStateTask attempt tasks throws).1.task = none ∧
      (destroyLoadStateTask attempt tasks throws).1.destroyed = attempt.destroyed ∧
        (destroyLoadStateTask attempt tasks throws).1.stage = attempt.stage ∧
          Handed index attempt.task none tasks (destroyLoadStateTask attempt tasks throws).2.1 := by
  rcases has : attempt.task with _ | name
  · rcases attempt with ⟨task, destroyed, _ | promise, stage⟩
    · have free : task = none := has
      subst free
      exact ⟨rfl, rfl, rfl, Handed.kept none tasks⟩
    · exact ⟨has, rfl, rfl, Handed.kept none tasks⟩
  · obtain ⟨unset, within⟩ := alone name has
    rcases attempt with ⟨task, destroyed, destroyPromise, stage⟩
    have held : task = some name := has
    have none : destroyPromise = none := unset
    subst held none
    rcases throws with _ | error
    · exact ⟨rfl, rfl, rfl, Handed.released name tasks within⟩
    · exact ⟨rfl, rfl, rfl, Handed.released name tasks within⟩

/-- What the attempt at an index may do in one go: it goes on, it fails, or it publishes. -/
inductive Move (reader : Reader Document Error) (index : Nat) : Reader Document Error → Prop where
  | write {before after : LoadState Document Error} {tasks' : List (LoadingTask Error)}
      (found : reader.attempts[index]? = some before) (running : before.isSettled = false)
      (running' : after.isSettled = false)
      (handed : Handed index before.task after.task reader.tasks tasks')
      (creates : after.task ≠ none → before.task = none → reader.destroyed = false)
      (ok : after.Ok reader.destroyed reader.loadingState index) :
      Move reader index (Reader.write { reader with tasks := tasks' } index after)
  | fail {before after : LoadState Document Error} {tasks' : List (LoadingTask Error)}
      (found : reader.attempts[index]? = some before) (running : before.isSettled = false)
      (handed : Handed index before.task none reader.tasks tasks') (free : after.task = none)
      (failed : Bool) (reason : Reason Error) :
      Move reader index
        (Reader.finish { reader with tasks := tasks', lastLoadFailed := failed } index after
          (.error reason))
  | publish {attempt : LoadState Document Error} {name : Nat}
      (found : reader.attempts[index]? = some attempt) (running : attempt.isSettled = false)
      (alive : reader.destroyed = false) (has : attempt.task = some name) (document : Document) :
      Move reader index (reader.publish index attempt name document)

section Moves

/-- A move keeps what holds of a reader. -/
theorem Sound.move (sound : Sound reader) {next : Reader Document Error}
    (move : Move reader index next) : Sound next := by
  cases move with
  | write found running running' handed _ ok => exact sound.replace found running running' handed ok
  | fail found running handed free failed reason =>
    apply sound.finish found running free failed sound.owned.1
    · intro destroyed
      exact (sound.closed destroyed).2
    · intro name
      have balance := handed.balance name
      simp only [reduceCtorEq, if_false] at balance
      omega
    · exact handed.creator_none
  | publish found running alive has document =>
    rename_i attempt name
    have loads := ((sound.attempts index attempt found).flagged running).2 alive
    have unowned : reader.loadingTask = none := by
      by_contra owned
      have idle := sound.owned.2 (Option.isSome_iff_ne_none.mpr owned)
      rw [loads] at idle
      cases idle
    have free : ({ attempt with task := none } : LoadState Document Error).task = none := rfl
    apply sound.finish found running free false rfl
    · intro destroyed
      rw [alive] at destroyed
      cases destroyed
    · intro other
      rw [has, unowned]
      simp only [reduceCtorEq, if_false]
      omega
    · intro other
      rfl

/-- The outer `catch`, where the task was given up. -/
theorem Sound.caught (sound : Sound reader) (found : reader.attempts[index]? = some before)
    (running : before.isSettled = false) (handed : Handed index before.task none reader.tasks tasks')
    (free : attempt.task = none) (same : attempt.destroyed = before.destroyed)
    (reason : Reason Error) :
    Move reader index (Reader.caught { reader with tasks := tasks' } index attempt reason) := by
  have ok := sound.attempts index before found
  rw [Reader.caught]
  split
  · apply Move.write found running rfl
    · rw [← free] at handed
      exact handed
    · intro held
      exact absurd free held
    · constructor
      · intro _
        rw [← (ok.flagged running).1, ← same]
        exact ⟨rfl, same ▸ (ok.flagged running).1 ▸ (ok.flagged running).2⟩
      · intro name has
        cases has.symm.trans free
      · intro name waiter wait
        cases wait
      · intro soon
        cases soon
  · exact Move.fail found running handed free true reason

theorem Sound.caught_same (sound : Sound reader) (found : reader.attempts[index]? = some attempt)
    (running : attempt.isSettled = false) (free : attempt.task = none) (reason : Reason Error) :
    Move reader index (reader.caught index attempt reason) := by
  have handed : Handed index attempt.task none reader.tasks reader.tasks := by
    rw [free]
    exact Handed.kept none reader.tasks
  exact sound.caught found running handed free rfl reason

/-- An attempt that has no task goes on without one. -/
theorem Sound.rest (sound : Sound reader) (found : reader.attempts[index]? = some attempt)
    (running : attempt.isSettled = false) (free : attempt.task = none)
    (stage : Stage Document Error) (running' : { attempt with stage }.isSettled = false)
    (elsewhere : ∀ name waiter, stage ≠ .taskWait name waiter)
    (soon : { attempt with stage }.isEarly = true → attempt.isEarly = true) :
    Move reader index (reader.write index { attempt with stage }) := by
  have ok := sound.attempts index attempt found
  have handed : Handed index attempt.task ({ attempt with stage } : LoadState Document Error).task
      reader.tasks reader.tasks := Handed.kept _ _
  apply Move.write found running running' handed
  · intro held
    exact absurd free held
  · constructor
    · intro _
      exact ok.flagged running
    · intro name has
      cases has.symm.trans free
    · intro name waiter wait
      exact absurd wait (elsewhere name waiter)
    · intro early
      exact ok.early (soon early)

/-- An attempt keeps the task it waits for. -/
theorem Sound.wait (sound : Sound reader) (found : reader.attempts[index]? = some attempt)
    {name : Nat} {waiter : Option (Except (Reason Error) Document)}
    (stage : attempt.stage = .taskWait name waiter)
    (waiter' : Option (Except (Reason Error) Document)) :
    Move reader index (reader.write index { attempt with stage := .taskWait name waiter' }) := by
  have ok := sound.attempts index attempt found
  have running : attempt.isSettled = false := by
    rw [LoadState.isSettled, stage]
  have handed : Handed index attempt.task
      ({ attempt with stage := .taskWait name waiter' } : LoadState Document Error).task
      reader.tasks reader.tasks := Handed.kept _ _
  apply Move.write found running rfl handed
  · intro held free
    exact absurd free held
  · constructor
    · intro _
      exact ok.flagged running
    · intro other has
      obtain ⟨-, alive, unset, waited, held⟩ := ok.holding other has
      have same : name = other := (Stage.taskWait.inj (stage.symm.trans held)).1
      exact ⟨rfl, alive, unset, waiter', by rw [same]⟩
    · intro other waiting wait alive
      have same : name = other := (Stage.taskWait.inj wait).1
      rw [← same]
      exact ok.waiting name waiter stage alive
    · intro soon
      cases soon

/-- The approval of an attempt whose policy has not been resumed. -/
theorem Sound.proceed (sound : Sound reader) (found : reader.attempts[index]? = some attempt)
    (early : attempt.isEarly = true) (creation : Creation Error) :
    Move reader index (reader.proceed index attempt creation) := by
  have ok := sound.attempts index attempt found
  have running := isSettled_of_isEarly early
  have free := ok.free_of_isEarly early
  have thrown (reason : Reason Error) : Move reader index (reader.caught index attempt reason) :=
    sound.caught_same found running free reason
  unfold Reader.proceed
  split
  · exact thrown _
  · split
    · exact thrown _
    · exact thrown _
  · split
    · exact thrown _
    · rename_i alive
      rw [Bool.or_eq_true, not_or, Bool.not_eq_true, Bool.not_eq_true] at alive
      apply Move.write found running rfl
      · rw [free]
        exact Handed.created _ reader.tasks rfl rfl
      · intro _ _
        exact alive.2
      · constructor
        · intro _
          exact ok.flagged running
        · intro name has
          exact ⟨rfl, alive.1, (ok.early early alive.1).1, none, by rw [← Option.some.inj has]⟩
        · intro name waiter wait _
          exact congrArg some (Stage.taskWait.inj wait).1
        · intro soon
          cases soon

/-- The teardown of an attempt that waited for its task. -/
theorem Sound.tearDown (sound : Sound reader) (found : reader.attempts[index]? = some attempt)
    (running : attempt.isSettled = false) (reason : Reason Error) (throws : Option Error) :
    Move reader index (reader.tearDown index attempt reason throws) := by
  have ok := sound.attempts index attempt found
  have alone : ∀ name, attempt.task = some name →
      attempt.destroyPromise = none ∧ name < reader.tasks.length := by
    intro name has
    exact ⟨(ok.holding name has).2.2.1, creator_lt (sound.creators index attempt name found has)⟩
  have spec := destroyLoadStateTask_spec index throws alone
  unfold Reader.tearDown
  split
  · rename_i attempt' tasks' torn
    rw [torn] at spec
    obtain ⟨free, flag, -, handed⟩ := spec
    simp only at free flag handed
    apply Move.write found running rfl
    · rw [← free] at handed
      exact handed
    · intro held
      exact absurd free held
    · constructor
      · intro _
        exact ⟨flag.trans (ok.flagged running).1, (ok.flagged running).2⟩
      · intro name has
        cases has.symm.trans free
      · intro name waiter wait
        cases wait
      · intro soon
        cases soon
  · rename_i attempt' tasks' error torn
    rw [torn] at spec
    obtain ⟨free, flag, -, handed⟩ := spec
    exact sound.caught found running handed free flag _

theorem Sound.afterTask (numPages : Document → Nat) (maxDocumentPages : Nat)
    (sound : Sound reader) (found : reader.attempts[index]? = some attempt) {name : Nat}
    {outcome : Except (Reason Error) Document}
    (stage : attempt.stage = .taskWait name (some outcome)) (throws : Option Error) :
    Move reader index
      (reader.afterTask numPages maxDocumentPages index attempt name outcome throws) := by
  have ok := sound.attempts index attempt found
  have running : attempt.isSettled = false := by
    rw [LoadState.isSettled, stage]
  have flagged := (ok.flagged running).1
  unfold Reader.afterTask
  split
  · split
    · rename_i destroyed
      have free : attempt.task = none := by
        rw [← flagged, Bool.or_self] at destroyed
        by_contra held
        obtain ⟨name, has⟩ := Option.ne_none_iff_exists'.mp held
        have alive := (ok.holding name has).2.1
        rw [destroyed] at alive
        cases alive
      exact sound.rest found running free _ rfl (by simp) (fun soon => by cases soon)
    · exact sound.tearDown found running _ _
  · split
    · exact sound.tearDown found running _ _
    · rename_i alive
      have unflagged : attempt.destroyed = false := by simpa using alive
      have free : reader.destroyed = false := flagged.symm.trans unflagged
      split
      · exact sound.tearDown found running _ _
      · rw [if_neg (by simp [free])]
        exact Move.publish found running free (ok.waiting name _ stage unflagged) _

theorem Sound.afterPolicy (sound : Sound reader) (found : reader.attempts[index]? = some attempt)
    (early : attempt.isEarly = true) (result : PolicyResult Error) :
    Move reader index (reader.afterPolicy index attempt result) := by
  have ok := sound.attempts index attempt found
  have running := isSettled_of_isEarly early
  have free := ok.free_of_isEarly early
  unfold Reader.afterPolicy
  split
  · exact sound.proceed found early _
  · exact sound.caught_same found running free _
  · exact sound.rest found running free _ rfl (by simp) (fun _ => early)

/-- An attempt that begins has been opened, and may have moved since. -/
theorem Sound.begin (sound : Sound reader) (alive : reader.destroyed = false)
    (idle : reader.loadingState = none) (empty : reader.document = none)
    (opening : Opening Error) :
    reader.begin opening = reader.opened ∨
      Move reader.opened reader.attempts.length (reader.begin opening) := by
  have opened := sound.opened alive idle empty
  have found : reader.opened.attempts[reader.attempts.length]? =
      some { task := none, destroyed := false, destroyPromise := none, stage := .policyRunning } :=
    List.getElem?_concat_length
  unfold Reader.begin
  split
  · exact Or.inr (opened.caught_same found rfl rfl _)
  · exact Or.inr (opened.proceed found rfl _)
  · exact Or.inl rfl

end Moves

section Destroy

@[simp] theorem onDestroy_task (attempt : LoadState Document Error) :
    attempt.onDestroy.task = attempt.task := by
  unfold LoadState.onDestroy
  split <;> rfl

@[simp] theorem onDestroy_destroyPromise (attempt : LoadState Document Error) :
    attempt.onDestroy.destroyPromise = attempt.destroyPromise := by
  unfold LoadState.onDestroy
  split <;> rfl

theorem onDestroy_of_settled (settled : attempt.isSettled = true) : attempt.onDestroy = attempt := by
  unfold LoadState.isSettled at settled
  split at settled
  · rename_i outcome stage
    rw [LoadState.onDestroy, stage]
  · cases settled

@[simp] theorem onDestroy_isSettled (attempt : LoadState Document Error) :
    attempt.onDestroy.isSettled = attempt.isSettled := by
  rcases attempt with ⟨task, destroyed, destroyPromise, stage⟩
  cases stage with
  | policyWait waiter | taskWait name waiter => cases waiter <;> rfl
  | _ => rfl

theorem LoadState.Ok.free_of_settled {destroyed : Bool} {loadingState : Option Nat}
    (ok : attempt.Ok destroyed loadingState index) (settled : attempt.isSettled = true) :
    attempt.task = none := by
  by_contra held
  obtain ⟨name, has⟩ := Option.ne_none_iff_exists'.mp held
  have running := (ok.holding name has).1
  rw [settled] at running
  cases running

/-- What `destroy` leaves of a reader. -/
def Reader.shut (reader : Reader Document Error) (promise : Nat)
    (attempts : List (LoadState Document Error)) (tasks : List (LoadingTask Error))
    (destroyPromises : List (Destroying Error)) : Reader Document Error :=
  { reader with
    destroyPromise := some promise
    returned := reader.returned ++ [promise]
    destroyed := true
    loadingTask := none
    document := none
    loadingState := none
    attempts, tasks, destroyPromises }

/-- A reader whose tasks are all given up. -/
theorem Sound.shut (sound : Sound reader) (unset : reader.destroyPromise = none)
    {attempts : List (LoadState Document Error)} (promise : Nat)
    (promises : List (Destroying Error))
    (oks : ∀ (index : Nat) (attempt : LoadState Document Error), attempts[index]? = some attempt →
      attempt.task = none ∧ attempt.Ok true none index)
    (single : attempts.countP (fun attempt => !attempt.isSettled) ≤ 1)
    (spent : ∀ name, destroys tasks' name = if name < tasks'.length then 1 else 0)
    (made : ∀ name owner, creator tasks' name = some owner → owner < attempts.length) :
    Sound (reader.shut promise attempts tasks' promises) := by
  have unreturned : reader.returned = [] := sound.memo.2.1.mpr unset
  constructor
  · exact fun index attempt found => (oks index attempt found).2
  · exact single
  · intro index loading
    cases loading
  · exact ⟨rfl, fun _ => rfl⟩
  · exact fun _ => ⟨rfl, rfl⟩
  · simp [Reader.shut, unreturned]
  · intro name
    have none : attempts.countP (holds name) = 0 := by
      rw [List.countP_eq_zero]
      intro attempt member
      obtain ⟨index, found⟩ := List.mem_iff_getElem?.mp member
      simp [holds, (oks index attempt found).1]
    show destroys tasks' name + (attempts.countP (holds name) + 0) =
      if name < tasks'.length then 1 else 0
    rw [none, spent]
    rfl
  · intro index attempt name found has
    cases has.symm.trans (oks index attempt found).1
  · exact made

/-- Where no attempt is in progress, only the reader may hold a task. -/
theorem Sound.unheld (sound : Sound reader) (alive : reader.destroyed = false)
    (idle : reader.loadingState = none) (name : Nat) :
    reader.attempts.countP (holds name) = 0 := by
  rw [List.countP_eq_zero]
  intro attempt member
  obtain ⟨index, found⟩ := List.mem_iff_getElem?.mp member
  have settled := sound.quiet alive idle member
  simp [holds, (sound.attempts index attempt found).free_of_settled settled]

/-- `destroy` while no attempt is in progress. -/
theorem Sound.shut_idle (sound : Sound reader) (unset : reader.destroyPromise = none)
    (idle : reader.loadingState = none) (promise : Nat) (promises : List (Destroying Error))
    (length : tasks'.length = reader.tasks.length)
    (spent : ∀ name, destroys tasks' name =
      destroys reader.tasks name + if reader.loadingTask = some name then 1 else 0)
    (creates : ∀ name, creator tasks' name = creator reader.tasks name) :
    Sound (reader.shut promise (reader.attempts.map LoadState.onDestroy) tasks' promises) := by
  have alive : reader.destroyed = false := by
    rw [sound.memo.1, unset]
    rfl
  have same : reader.attempts.map LoadState.onDestroy = reader.attempts := by
    have each : ∀ attempt ∈ reader.attempts, attempt.onDestroy = id attempt :=
      fun attempt member => onDestroy_of_settled (sound.quiet alive idle member)
    rw [List.map_congr_left each, List.map_id]
  rw [same]
  apply sound.shut unset
  · intro index attempt found
    have settled := sound.quiet alive idle (List.mem_of_getElem? found)
    have ok := sound.attempts index attempt found
    exact ⟨ok.free_of_settled settled, ok.of_settled settled⟩
  · exact sound.single
  · intro name
    have custody := sound.custody name
    rw [sound.unheld alive idle name] at custody
    rw [spent, length]
    omega
  · intro name owner has
    exact sound.made name owner ((creates name).symm.trans has)

/-- `destroy` while an attempt is in progress: its task, if it has one, is given up. -/
theorem Sound.shut_loading (sound : Sound reader) (unset : reader.destroyPromise = none)
    (unowned : reader.loadingTask = none) (found : reader.attempts[index]? = some before)
    (running : before.isSettled = false) (promise : Nat) (promises : List (Destroying Error))
    {after : LoadState Document Error} (free : after.task = none) (flag : after.destroyed = true)
    (handed : Handed index before.task none reader.tasks tasks') :
    Sound (reader.shut promise ((reader.attempts.map LoadState.onDestroy).set index after) tasks'
      promises) := by
  have mapped (other : Nat) (attempt : LoadState Document Error) (apart : other ≠ index)
      (there : (reader.attempts.map LoadState.onDestroy)[other]? = some attempt) :
      reader.attempts[other]? = some attempt ∧ attempt.isSettled = true := by
    rw [List.getElem?_map] at there
    obtain ⟨old, here, rfl⟩ := Option.map_eq_some_iff.mp there
    have settled := sound.settled_of_apart found running apart here
    rw [onDestroy_of_settled settled]
    exact ⟨here, settled⟩
  have length := handed.length_none
  apply sound.shut unset
  · intro other attempt looked
    rcases getElem?_set_cases looked with ⟨rfl, rfl⟩ | ⟨apart, there⟩
    · refine ⟨free, ?_⟩
      constructor
      · intro _
        exact ⟨flag, fun alive => by cases alive⟩
      · intro name has
        cases has.symm.trans free
      · intro name waiter _ alive
        cases alive.symm.trans flag
      · intro _ alive
        cases alive.symm.trans flag
    · obtain ⟨here, settled⟩ := mapped other attempt apart there
      have ok := sound.attempts other attempt here
      exact ⟨ok.free_of_settled settled, ok.of_settled settled⟩
  · have there : (reader.attempts.map LoadState.onDestroy)[index]? = some before.onDestroy := by
      rw [List.getElem?_map, found]
      rfl
    have count := countP_set_add (fun attempt => !attempt.isSettled) there after
    have single := sound.single
    rw [List.countP_map] at count
    simp only [Function.comp_def, onDestroy_isSettled, running, Bool.not_false, if_true] at count
    split at count <;> omega
  · intro name
    have custody := sound.custody name
    have balance := handed.balance name
    have count := countP_set_add (holds name) found after
    have none : (reader.attempts.set index after).countP (holds name) = 0 := by
      rw [List.countP_eq_zero]
      intro attempt member
      obtain ⟨other, looked⟩ := List.mem_iff_getElem?.mp member
      rcases getElem?_set_cases looked with ⟨rfl, rfl⟩ | ⟨apart, there⟩
      · simp [holds, free]
      · have ok := sound.attempts other attempt there
        have settled := sound.settled_of_apart found running apart there
        simp [holds, ok.free_of_settled settled]
    have gone : holds name after = false := by simp [holds, free]
    rw [none, gone] at count
    simp only [holds, beq_iff_eq, Bool.false_eq_true, if_false] at count
    simp only [unowned, reduceCtorEq, if_false] at custody balance
    omega
  · intro name owner has
    rw [List.length_set, List.length_map]
    exact sound.made name owner ((handed.creator_none name).symm.trans has)

theorem Sound.destroy (sound : Sound reader) (throws : Option Error) :
    Sound (reader.destroy throws) := by
  unfold Reader.destroy
  split
  · rename_i promise set
    refine { sound with memo := ⟨sound.memo.1, ?_, ?_⟩ }
    · simp [set]
    · intro other member
      rcases List.mem_append.mp member with old | new
      · exact sound.memo.2.2 other old
      · rw [List.mem_singleton.mp new]
        exact set
  · rename_i unset
    unfold Reader.tearDownAll
    split
    · rename_i name owned
      have idle := sound.owned.2 (by rw [owned]; rfl)
      have custody := sound.custody name
      rw [owned, if_pos rfl] at custody
      have within : name < reader.tasks.length := by
        by_contra beyond
        rw [if_neg beyond] at custody
        omega
      apply sound.shut_idle unset idle
      · exact length_callDestroy _ _
      · intro other
        rw [destroys_callDestroy within, owned]
        simp only [Option.some.injEq, eq_comm]
      · exact creator_callDestroy _ _
    · rename_i unowned idle
      apply sound.shut_idle unset idle
      · rfl
      · intro name
        rw [unowned]
        rfl
      · intro name
        rfl
    · rename_i index unowned loading
      obtain ⟨before, found, running⟩ := sound.loading index loading
      have ok := sound.attempts index before found
      have there : (reader.attempts.map LoadState.onDestroy)[index]? = some before.onDestroy := by
        rw [List.getElem?_map, found]
        rfl
      have alone : ∀ name, ({ before.onDestroy with destroyed := true } :
          LoadState Document Error).task = some name →
          ({ before.onDestroy with destroyed := true } :
            LoadState Document Error).destroyPromise = none ∧ name < reader.tasks.length := by
        intro name has
        have held : before.task = some name := (onDestroy_task before).symm.trans has
        refine ⟨(onDestroy_destroyPromise before).trans (ok.holding name held).2.2.1, ?_⟩
        exact creator_lt (sound.creators index before name found held)
      have spec := destroyLoadStateTask_spec index throws alone
      simp only [there]
      split
      · rename_i attempt tasks torn
        rw [torn] at spec
        obtain ⟨free, flag, -, handed⟩ := spec
        rw [onDestroy_task] at handed
        exact sound.shut_loading unset unowned found running _ _ free flag handed
      · rename_i attempt tasks error torn
        rw [torn] at spec
        obtain ⟨free, flag, -, handed⟩ := spec
        rw [onDestroy_task] at handed
        exact sound.shut_loading unset unowned found running _ _ free flag handed

end Destroy

end WebTsToolkit.PdfReader.Load
