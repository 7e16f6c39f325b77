import Mathlib.Data.List.Basic
import WebTsToolkit.PdfReader.LoadAttempts

set_option autoImplicit false

namespace WebTsToolkit.PdfReader.Load

variable {Document Error : Type}

section Counting

variable {α : Type}

/-- One item takes the place of another one. -/
theorem countP_set_add (counts : α → Bool) {items : List α} {index : Nat} {old : α}
    (found : items[index]? = some old) (new : α) :
    (items.set index new).countP counts + (if counts old then 1 else 0) =
      items.countP counts + if counts new then 1 else 0 := by
  obtain ⟨within, here⟩ := List.getElem?_eq_some_iff.mp found
  rw [List.countP_set within, here]
  have counted : (if counts old then 1 else 0) ≤ items.countP counts := by
    split
    · rename_i yes
      exact List.countP_pos_iff.mpr ⟨old, List.mem_of_getElem? found, yes⟩
    · omega
  omega

/-- Items that are counted at most once are at one index. -/
theorem index_unique {counts : α → Bool} {items : List α} (once : items.countP counts ≤ 1)
    {first second : Nat} {one other : α} (found : items[first]? = some one)
    (found' : items[second]? = some other) (yes : counts one = true) (yes' : counts other = true) :
    first = second := by
  induction items generalizing first second with
  | nil => cases found
  | cons item rest ih =>
    rw [List.countP_cons] at once
    have counted {index : Nat} {old : α} (here : rest[index]? = some old)
        (yes : counts old = true) : 0 < rest.countP counts :=
      List.countP_pos_iff.mpr ⟨old, List.mem_of_getElem? here, yes⟩
    rcases first with _ | first <;> rcases second with _ | second
    · rfl
    · have same := Option.some.inj found
      have more := counted found' yes'
      rw [same, if_pos yes] at once
      omega
    · have same := Option.some.inj found'
      have more := counted found yes
      rw [same, if_pos yes'] at once
      omega
    · rw [ih (by omega) found found']

end Counting

section Tasks

/-- How often `destroy()` was called for a task. -/
def destroys (tasks : List (LoadingTask Error)) (name : Nat) : Nat :=
  ((tasks[name]?).map LoadingTask.destroys).getD 0

def holds (name : Nat) (attempt : LoadState Document Error) : Bool :=
  attempt.task == some name

/-- An attempt keeps the task it holds, if any, or gives it up to a teardown, or creates one. -/
inductive Handed (index : Nat) : Option Nat → Option Nat → List (LoadingTask Error) →
    List (LoadingTask Error) → Prop where
  | kept (held : Option Nat) (tasks : List (LoadingTask Error)) : Handed index held held tasks tasks
  | released (name : Nat) (tasks : List (LoadingTask Error)) (within : name < tasks.length) :
      Handed index (some name) none tasks (callDestroy tasks name)
  | created (task : LoadingTask Error) (tasks : List (LoadingTask Error))
      (own : task.attempt = index) (fresh : task.destroys = 0) :
      Handed index none (some tasks.length) tasks (tasks ++ [task])

variable {tasks tasks' : List (LoadingTask Error)} {index name : Nat}

@[simp] theorem length_callDestroy (tasks : List (LoadingTask Error)) (name : Nat) :
    (callDestroy tasks name).length = tasks.length :=
  List.length_modify _ _ _

theorem getElem?_callDestroy (tasks : List (LoadingTask Error)) (name other : Nat) :
    (callDestroy tasks name)[other]? =
      (tasks[other]?).map fun task =>
        if other = name then { task with destroys := task.destroys + 1 } else task := by
  rw [callDestroy, List.getElem?_modify]
  by_cases same : name = other
  · subst same
    simp
  · simp [same, Ne.symm same]

theorem destroys_callDestroy (within : name < tasks.length) (other : Nat) :
    destroys (callDestroy tasks name) other =
      destroys tasks other + if other = name then 1 else 0 := by
  rw [destroys, destroys, getElem?_callDestroy]
  by_cases same : other = name
  · subst same
    rw [List.getElem?_eq_getElem within]
    simp
  · rcases tasks[other]? with _ | task <;> simp [same]

variable {before after : Option Nat} {owner : Nat}

/-- What a handing over adds to the calls of `destroy()` and to the tasks held, it adds to the
tasks there are. -/
theorem Handed.balance (handed : Handed index before after tasks tasks') (name : Nat) :
    destroys tasks' name + (if after = some name then 1 else 0) +
        (if name < tasks.length then 1 else 0) =
      destroys tasks name + (if before = some name then 1 else 0) +
        if name < tasks'.length then 1 else 0 := by
  cases handed with
  | kept => omega
  | released task tasks within =>
    rw [destroys_callDestroy within, length_callDestroy]
    by_cases same : name = task
    · subst same
      simp
    · simp [same, Ne.symm same]
  | created task tasks own fresh =>
    have length : (tasks ++ [task]).length = tasks.length + 1 := List.length_append
    rw [destroys, destroys, length]
    rcases Nat.lt_trichotomy name tasks.length with less | same | more
    · rw [List.getElem?_append_left less]
      have apart : tasks.length ≠ name := by omega
      have within : name < tasks.length + 1 := by omega
      simp [apart, less, within]
    · subst same
      simp [fresh]
    · rw [List.getElem?_eq_none (l := tasks) (by omega),
        List.getElem?_eq_none (l := tasks ++ [task]) (by omega)]
      have apart : tasks.length ≠ name := by omega
      have beyond : ¬name < tasks.length + 1 := by omega
      have beyond' : ¬name < tasks.length := by omega
      simp [apart, beyond, beyond']

/-- The attempt that created a task. -/
def creator (tasks : List (LoadingTask Error)) (name : Nat) : Option Nat :=
  (tasks[name]?).map LoadingTask.attempt

theorem creator_callDestroy (tasks : List (LoadingTask Error)) (name other : Nat) :
    creator (callDestroy tasks name) other = creator tasks other := by
  rw [creator, creator, getElem?_callDestroy]
  rcases tasks[other]? with _ | task
  · rfl
  · by_cases same : other = name <;> simp [same]

theorem creator_append (tasks : List (LoadingTask Error)) (task : LoadingTask Error)
    (name : Nat) : creator (tasks ++ [task]) name =
      if name = tasks.length then some task.attempt else creator tasks name := by
  rw [creator, creator]
  by_cases here : name = tasks.length
  · subst here
    simp
  · rw [if_neg here]
    by_cases less : name < tasks.length
    · rw [List.getElem?_append_left less]
    · have length : (tasks ++ [task]).length = tasks.length + 1 := List.length_append
      rw [List.getElem?_eq_none (l := tasks) (by omega),
        List.getElem?_eq_none (l := tasks ++ [task]) (by omega)]

theorem creator_lt (found : creator tasks name = some owner) : name < tasks.length := by
  obtain ⟨task, here, -⟩ := Option.map_eq_some_iff.mp found
  exact (List.getElem?_eq_some_iff.mp here).1

theorem Handed.creator_old (handed : Handed index before after tasks tasks')
    (found : creator tasks name = some owner) : creator tasks' name = some owner := by
  cases handed with
  | kept => exact found
  | released task tasks within =>
    rw [creator_callDestroy]
    exact found
  | created task tasks own fresh =>
    have less := creator_lt found
    rw [creator_append, if_neg (by omega)]
    exact found

theorem Handed.creator_new (handed : Handed index before after tasks tasks')
    (found : creator tasks' name = some owner) :
    creator tasks name = some owner ∨ owner = index := by
  cases handed with
  | kept => exact Or.inl found
  | released task tasks within =>
    rw [creator_callDestroy] at found
    exact Or.inl found
  | created task tasks own fresh =>
    rw [creator_append] at found
    split at found
    · rw [← Option.some.inj found]
      exact Or.inr own
    · exact Or.inl found

/-- An attempt that has a task was given it before, or has created it. -/
theorem Handed.creator_own (handed : Handed index before after tasks tasks')
    (has : after = some name) : before = some name ∨ creator tasks' name = some index := by
  cases handed with
  | kept => exact Or.inl has
  | released task tasks within => cases has
  | created task tasks own fresh =>
    right
    rw [creator_append, if_pos (Option.some.inj has).symm, own]

/-- No task is created where none is held after. -/
theorem Handed.creator_none {before : Option Nat} (handed : Handed index before none tasks tasks')
    (name : Nat) : creator tasks' name = creator tasks name := by
  cases handed with
  | kept => rfl
  | released task tasks within => exact creator_callDestroy tasks task name

theorem Handed.length_none {before : Option Nat} (handed : Handed index before none tasks tasks') :
    tasks'.length = tasks.length := by
  generalize after : (none : Option Nat) = held at handed
  cases handed with
  | kept => rfl
  | released task tasks within => exact length_callDestroy tasks task
  | created task tasks own fresh => cases after

theorem Handed.length_or (handed : Handed index before after tasks tasks') :
    tasks'.length = tasks.length ∨ before = none ∧ after ≠ none := by
  cases handed with
  | kept => exact Or.inl rfl
  | released task tasks within => exact Or.inl (length_callDestroy tasks task)
  | created task tasks own fresh => exact Or.inr ⟨rfl, by simp⟩

end Tasks

/-- The policy has not been resumed yet. -/
def LoadState.isEarly (attempt : LoadState Document Error) : Bool :=
  match attempt.stage with
  | .policyRunning | .policyWait _ => true
  | _ => false

/-- An attempt at an index of a reader. While it is not settled it is the one that loads or that
was destroyed with the reader; a task that it holds is the one that it waits for. -/
structure LoadState.Ok (destroyed : Bool) (loadingState : Option Nat) (index : Nat)
    (attempt : LoadState Document Error) : Prop where
  flagged : attempt.isSettled = false →
    attempt.destroyed = destroyed ∧ (destroyed = false → loadingState = some index)
  holding : ∀ name, attempt.task = some name → attempt.isSettled = false ∧
    attempt.destroyed = false ∧ attempt.destroyPromise = none ∧
      ∃ waiter, attempt.stage = .taskWait name waiter
  waiting : ∀ name waiter, attempt.stage = .taskWait name waiter → attempt.destroyed = false →
    attempt.task = some name
  early : attempt.isEarly = true → attempt.destroyed = false →
    attempt.destroyPromise = none ∧ attempt.task = none

variable {attempt : LoadState Document Error}

theorem LoadState.Ok.of_settled {destroyed destroyed' : Bool}
    {loadingState loadingState' : Option Nat} {index : Nat}
    (ok : attempt.Ok destroyed loadingState index) (settled : attempt.isSettled = true) :
    attempt.Ok destroyed' loadingState' index := by
  constructor
  · intro still
    rw [settled] at still
    cases still
  · exact ok.holding
  · exact ok.waiting
  · exact ok.early

theorem isSettled_of_isEarly (early : attempt.isEarly = true) : attempt.isSettled = false := by
  unfold LoadState.isEarly at early
  unfold LoadState.isSettled
  split at early
  · rename_i stage
    rw [stage]
  · rename_i waiter stage
    rw [stage]
  · cases early

theorem LoadState.Ok.free_of_isEarly {destroyed : Bool} {loadingState : Option Nat} {index : Nat}
    (ok : attempt.Ok destroyed loadingState index) (early : attempt.isEarly = true) :
    attempt.task = none := by
  by_contra held
  obtain ⟨name, has⟩ := Option.ne_none_iff_exists'.mp held
  exact held (ok.early early (ok.holding name has).2.1).2

/-- Each task is held by one attempt or by the reader, or `destroy()` was called for it once. -/
structure Sound (reader : Reader Document Error) : Prop where
  attempts : ∀ (index : Nat) (attempt : LoadState Document Error),
    reader.attempts[index]? = some attempt → attempt.Ok reader.destroyed reader.loadingState index
  single : reader.attempts.countP (fun attempt => !attempt.isSettled) ≤ 1
  loading : ∀ index, reader.loadingState = some index → ∃ attempt,
    reader.attempts[index]? = some attempt ∧ attempt.isSettled = false
  owned : reader.document.isSome = reader.loadingTask.isSome ∧
    (reader.loadingTask.isSome = true → reader.loadingState = none)
  closed : reader.destroyed = true → reader.loadingState = none ∧ reader.loadingTask = none
  memo : reader.destroyed = reader.destroyPromise.isSome ∧
    (reader.returned = [] ↔ reader.destroyPromise = none) ∧
      ∀ promise ∈ reader.returned, reader.destroyPromise = some promise
  custody : ∀ name, destroys reader.tasks name +
      (reader.attempts.countP (holds name) + if reader.loadingTask = some name then 1 else 0) =
    if name < reader.tasks.length then 1 else 0
  creators : ∀ (index : Nat) (attempt : LoadState Document Error) (name : Nat),
    reader.attempts[index]? = some attempt → attempt.task = some name →
      creator reader.tasks name = some index
  made : ∀ name owner, creator reader.tasks name = some owner → owner < reader.attempts.length

section Sound

variable {reader : Reader Document Error} {index : Nat} {before after : LoadState Document Error}
  {tasks' : List (LoadingTask Error)}

/-- Attempts that were looked up after one was replaced. -/
theorem getElem?_set_cases {attempts : List (LoadState Document Error)} {other : Nat}
    {found : LoadState Document Error}
    (looked : (attempts.set index after)[other]? = some found) :
    (other = index ∧ found = after) ∨ (other ≠ index ∧ attempts[other]? = some found) := by
  rw [List.getElem?_set] at looked
  split at looked
  · rename_i same
    split at looked
    · exact Or.inl ⟨same.symm, (Option.some.inj looked).symm⟩
    · cases looked
  · rename_i apart
    exact Or.inr ⟨Ne.symm apart, looked⟩

/-- An attempt goes on. -/
theorem Sound.replace (sound : Sound reader) (found : reader.attempts[index]? = some before)
    (running : before.isSettled = false) (running' : after.isSettled = false)
    (handed : Handed index before.task after.task reader.tasks tasks')
    (ok : after.Ok reader.destroyed reader.loadingState index) :
    Sound (Reader.write { reader with tasks := tasks' } index after) := by
  obtain ⟨within, -⟩ := List.getElem?_eq_some_iff.mp found
  constructor
  · intro other attempt looked
    rcases getElem?_set_cases looked with ⟨rfl, rfl⟩ | ⟨-, there⟩
    · exact ok
    · exact sound.attempts other attempt there
  · have count := countP_set_add (fun attempt => !attempt.isSettled) found after
    have single := sound.single
    simp only [running, running'] at count
    show (reader.attempts.set index after).countP _ ≤ 1
    omega
  · intro other loading
    obtain ⟨attempt, there, still⟩ := sound.loading other loading
    show ∃ attempt, (reader.attempts.set index after)[other]? = some attempt ∧ _
    rw [List.getElem?_set]
    split
    · rename_i same
      exact ⟨after, by simp, running'⟩
    · exact ⟨attempt, there, still⟩
  · exact sound.owned
  · exact sound.closed
  · exact sound.memo
  · intro name
    have count := countP_set_add (holds name) found after
    have balance := handed.balance name
    have custody := sound.custody name
    simp only [holds, beq_iff_eq] at count
    show destroys tasks' name + ((reader.attempts.set index after).countP (holds name) +
        if reader.loadingTask = some name then 1 else 0) = if name < tasks'.length then 1 else 0
    omega
  · intro other attempt name looked has
    rcases getElem?_set_cases looked with ⟨rfl, rfl⟩ | ⟨-, there⟩
    · rcases handed.creator_own has with held | own
      · exact handed.creator_old (sound.creators _ before name found held)
      · exact own
    · exact handed.creator_old (sound.creators other attempt name there has)
  · intro name owner creates
    show owner < (reader.attempts.set index after).length
    rw [List.length_set]
    rcases handed.creator_new creates with old | rfl
    · exact sound.made name owner old
    · exact within

/-- The attempt that is in progress is the one that loads, if any does. -/
theorem Sound.cleared (sound : Sound reader) (found : reader.attempts[index]? = some before)
    (running : before.isSettled = false) :
    (if reader.loadingState = some index then none else reader.loadingState) = none := by
  obtain ⟨-, loads⟩ := (sound.attempts index before found).flagged running
  rcases destroyed : reader.destroyed with _ | _
  · rw [if_pos (loads destroyed)]
  · rw [(sound.closed destroyed).1]
    rfl

theorem Sound.settled_of_apart (sound : Sound reader)
    (found : reader.attempts[index]? = some before) (running : before.isSettled = false)
    {other : Nat} {attempt : LoadState Document Error} (apart : other ≠ index)
    (there : reader.attempts[other]? = some attempt) : attempt.isSettled = true := by
  by_contra still
  apply apart
  exact index_unique sound.single there found (by simpa using still) (by simpa using running)

/-- An attempt ends, without its task: it went to a teardown, or to the reader. -/
theorem Sound.finish (sound : Sound reader) (found : reader.attempts[index]? = some before)
    (running : before.isSettled = false) (free : after.task = none)
    {loadingTask : Option Nat} {document : Option Document} (failed : Bool)
    (owned : document.isSome = loadingTask.isSome)
    (closed : reader.destroyed = true → loadingTask = none)
    (balance : ∀ name, destroys tasks' name + (if loadingTask = some name then 1 else 0) +
        (if name < reader.tasks.length then 1 else 0) =
      destroys reader.tasks name + (if before.task = some name then 1 else 0) +
        (if reader.loadingTask = some name then 1 else 0) +
          if name < tasks'.length then 1 else 0)
    (creates : ∀ name, creator tasks' name = creator reader.tasks name)
    (outcome : Except (Reason Error) Document) :
    Sound (Reader.finish
      { reader with tasks := tasks', loadingTask, document, lastLoadFailed := failed }
      index after outcome) := by
  obtain ⟨within, -⟩ := List.getElem?_eq_some_iff.mp found
  have cleared := sound.cleared found running
  constructor
  · intro other attempt looked
    rcases getElem?_set_cases looked with ⟨rfl, rfl⟩ | ⟨apart, there⟩
    · constructor
      · intro still
        cases still
      · intro name has
        cases has.symm.trans free
      · intro name waiter wait
        cases wait
      · intro soon
        cases soon
    · exact (sound.attempts other attempt there).of_settled 
        (sound.settled_of_apart found running apart there)
  · have count := countP_set_add (fun attempt => !attempt.isSettled) found
      { after with stage := .settled outcome }
    have single := sound.single
    have done : ({ after with stage := .settled outcome } : LoadState Document Error).isSettled =
        true := rfl
    simp only [running, done, Bool.not_false, Bool.not_true, if_true, Bool.false_eq_true,
      if_false] at count
    show (reader.attempts.set index _).countP _ ≤ 1
    omega
  · intro other loading
    have none : (if reader.loadingState = some index then none else reader.loadingState) =
        some other := loading
    rw [cleared] at none
    cases none
  · exact ⟨owned, fun _ => cleared⟩
  · intro destroyed
    exact ⟨cleared, closed destroyed⟩
  · exact sound.memo
  · intro name
    have count := countP_set_add (holds name) found { after with stage := .settled outcome }
    have custody := sound.custody name
    have moved := balance name
    have gone : holds name { after with stage := .settled outcome } = false := by
      simp [holds, free]
    rw [gone] at count
    simp only [holds, beq_iff_eq, Bool.false_eq_true, if_false] at count
    show destroys tasks' name + ((reader.attempts.set index _).countP (holds name) +
        if loadingTask = some name then 1 else 0) = if name < tasks'.length then 1 else 0
    omega
  · intro other attempt name looked has
    rcases getElem?_set_cases looked with ⟨rfl, rfl⟩ | ⟨-, there⟩
    · cases has.symm.trans free
    · have own := sound.creators other attempt name there has
      exact (creates name).trans own
  · intro name owner has
    show owner < (reader.attempts.set index _).length
    rw [List.length_set]
    exact sound.made name owner ((creates name).symm.trans has)

/-- Tasks may be told apart from before by what their promises were settled with. -/
theorem Sound.told (sound : Sound reader) (length : tasks'.length = reader.tasks.length)
    (calls : ∀ name, destroys tasks' name = destroys reader.tasks name)
    (creates : ∀ name, creator tasks' name = creator reader.tasks name) :
    Sound { reader with tasks := tasks' } := by
  constructor
  · exact sound.attempts
  · exact sound.single
  · exact sound.loading
  · exact sound.owned
  · exact sound.closed
  · exact sound.memo
  · intro name
    have custody := sound.custody name
    rw [← calls, ← length] at custody
    exact custody
  · intro index attempt name there has
    exact (creates name).trans (sound.creators index attempt name there has)
  · intro name owner has
    exact sound.made name owner ((creates name).symm.trans has)

/-- Where no attempt loads and the reader is not destroyed, none is in progress. -/
theorem Sound.quiet (sound : Sound reader) (alive : reader.destroyed = false)
    (idle : reader.loadingState = none) {attempt : LoadState Document Error}
    (member : attempt ∈ reader.attempts) : attempt.isSettled = true := by
  obtain ⟨index, found⟩ := List.mem_iff_getElem?.mp member
  by_contra still
  have loads := ((sound.attempts index attempt found).flagged (by simpa using still)).2 alive
  rw [idle] at loads
  cases loads

theorem Sound.opened (sound : Sound reader) (alive : reader.destroyed = false)
    (idle : reader.loadingState = none) (empty : reader.document = none) :
    Sound reader.opened := by
  have unowned : reader.loadingTask = none := by
    rw [← Option.isSome_eq_false_iff.trans Option.isNone_iff_eq_none, ← sound.owned.1, empty]
    rfl
  constructor
  · intro index attempt found
    have looked : (reader.attempts ++ [_])[index]? = some attempt := found
    rw [List.getElem?_append] at looked
    split at looked
    · have settled := sound.quiet alive idle (List.mem_of_getElem? looked)
      exact (sound.attempts index attempt looked).of_settled settled
    · rename_i beyond
      obtain ⟨within, same⟩ := List.getElem?_eq_some_iff.mp looked
      have last : index = reader.attempts.length := by
        rw [List.length_singleton] at within
        omega
      subst last
      simp only [Nat.sub_self, List.getElem_cons_zero] at same
      subst same
      constructor
      · intro _
        exact ⟨alive.symm, fun _ => rfl⟩
      · intro name has
        cases has
      · intro name waiter wait
        cases wait
      · intro _ _
        exact ⟨rfl, rfl⟩
  · have none : reader.attempts.countP (fun attempt => !attempt.isSettled) = 0 := by
      rw [List.countP_eq_zero]
      intro attempt member
      simp [sound.quiet alive idle member]
    show (reader.attempts ++ [_]).countP _ ≤ 1
    rw [List.countP_append, none, List.countP_singleton]
    split <;> omega
  · intro index loading
    have last : some reader.attempts.length = some index := loading
    rw [← Option.some.inj last]
    exact ⟨_, List.getElem?_concat_length, rfl⟩
  · constructor
    · exact sound.owned.1
    · intro owned
      have some : reader.loadingTask.isSome = true := owned
      rw [unowned] at some
      cases some
  · intro destroyed
    rw [show reader.opened.destroyed = false from alive] at destroyed
    cases destroyed
  · exact sound.memo
  · intro name
    have custody := sound.custody name
    show destroys reader.tasks name + ((reader.attempts ++ [_]).countP (holds name) + _) = _
    rw [List.countP_append, List.countP_singleton]
    exact custody
  · intro index attempt name found has
    have looked : (reader.attempts ++ [_])[index]? = some attempt := found
    rw [List.getElem?_append] at looked
    split at looked
    · exact sound.creators index attempt name looked has
    · have fresh := List.mem_singleton.mp (List.mem_of_getElem? looked)
      rw [fresh] at has
      cases has
  · intro name owner has
    have old := sound.made name owner has
    show owner < (reader.attempts ++ [_]).length
    rw [List.length_append]
    omega

end Sound

end WebTsToolkit.PdfReader.Load
