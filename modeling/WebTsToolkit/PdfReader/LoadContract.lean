import WebTsToolkit.PdfReader.LoadRun

set_option autoImplicit false

namespace WebTsToolkit.PdfReader.Load

open Library

variable {Document Error : Type}

/-- Tasks that differ in what their promises were settled with. -/
structure Told (tasks tasks' : List (LoadingTask Error)) : Prop where
  length : tasks'.length = tasks.length
  calls : ∀ name, destroys tasks' name = destroys tasks name
  creates : ∀ name, creator tasks' name = creator tasks name

theorem Told.refl (tasks : List (LoadingTask Error)) : Told tasks tasks :=
  ⟨rfl, fun _ => rfl, fun _ => rfl⟩

theorem Told.set {tasks : List (LoadingTask Error)} {name : Nat} {task : LoadingTask Error}
    (found : tasks[name]? = some task) {task' : LoadingTask Error}
    (attempt : task'.attempt = task.attempt) (calls : task'.destroys = task.destroys) :
    Told tasks (tasks.set name task') := by
  obtain ⟨within, -⟩ := List.getElem?_eq_some_iff.mp found
  have looked (other : Nat) : (tasks.set name task')[other]? =
      if name = other then some task' else tasks[other]? := by
    rw [List.getElem?_set]
    by_cases same : name = other
    · subst same
      simp [within]
    · simp [same]
  constructor
  · exact List.length_set
  · intro other
    rw [destroys, destroys, looked]
    split
    · rename_i same
      rw [← same, found]
      simp [calls]
    · rfl
  · intro other
    rw [creator, creator, looked]
    split
    · rename_i same
      rw [← same, found]
      simp [attempt]
    · rfl

/-- All that an event may do to a reader. -/
inductive Effect (reader : Reader Document Error) : Reader Document Error → Prop where
  | told (tasks : List (LoadingTask Error)) (same : Told reader.tasks tasks) :
      Effect reader { reader with tasks }
  | move (tasks : List (LoadingTask Error)) (same : Told reader.tasks tasks) (index : Nat)
      (next : Reader Document Error) (moved : Move { reader with tasks } index next) :
      Effect reader next
  | begin (alive : reader.destroyed = false) (idle : reader.loadingState = none)
      (empty : reader.document = none) (opening : Opening Error) :
      Effect reader (reader.begin opening)
  | destroy (throws : Option Error) : Effect reader (reader.destroy throws)
  | resumed (promise : Nat) (awaited : Option Nat) (outcome : Except Error Unit)
      (found : reader.destroyPromises[promise]? = some (.awaiting awaited)) :
      Effect reader
        { reader with
          destroyPromises := reader.destroyPromises.set promise (.settled outcome) }

theorem Effect.refl {reader : Reader Document Error} : Effect reader reader :=
  .told _ (.refl _)

theorem Effect.moved {reader next : Reader Document Error} {index : Nat}
    (moved : Move reader index next) : Effect reader next :=
  .move _ (.refl _) index next moved

section Load

variable {state : State Document Error}

theorem refusal_eq_none {options : Option LoadOptions} (accepted : state.refusal options = none) :
    ∃ given, options = some given ∧ state.reader.destroyed = false ∧
      state.isAborted given = false := by
  rcases options with _ | given
  · cases accepted
  · rw [State.refusal] at accepted
    split at accepted
    · cases accepted
    · split at accepted
      · cases accepted
      · rename_i alive going
        exact ⟨given, rfl, by simpa using alive, by simpa using going⟩

theorem registered_of_accepted {given : LoadOptions} (going : state.isAborted given = false)
    (alive : state.reader.destroyed = false) (attempt : Nat) :
    state.registered given attempt = .waiting attempt := by
  simp [State.registered, going, alive]

theorem caught_destroyed (reader : Reader Document Error) (index : Nat)
    (attempt : LoadState Document Error) (reason : Reason Error) :
    (reader.caught index attempt reason).destroyed = reader.destroyed := by
  unfold Reader.caught
  split <;> rfl

theorem begin_destroyed (reader : Reader Document Error) (opening : Opening Error) :
    (reader.begin opening).destroyed = reader.destroyed := by
  have proceeds (creation : Creation Error) (index : Nat) (attempt : LoadState Document Error) :
      (reader.opened.proceed index attempt creation).destroyed = reader.destroyed := by
    cases creation with
    | overLimit error => exact caught_destroyed _ _ _ _
    | initThrows error =>
      rw [Reader.proceed]
      split <;> exact caught_destroyed _ _ _ _
    | created =>
      rw [Reader.proceed]
      split
      · exact caught_destroyed _ _ _ _
      · rfl
  cases opening with
  | sourceThrows error => exact caught_destroyed _ _ _ _
  | noPolicy creation => exact proceeds creation _ _
  | policy => rfl

/-- A call of `load` that is not refused finds the document, joins the attempt that loads, or starts
one. -/
theorem load_cases (state : State Document Error) (options : Option LoadOptions)
    (opening : Opening Error) :
    (∃ given reason, state.refusal options = some reason ∧
        state.load options opening = state.addCall given (.done (.error reason))) ∨
      ∃ given, options = some given ∧ state.refusal options = none ∧
        ((∃ document, state.reader.document = some document ∧
            state.load options opening = state.addCall given (.done (.ok document))) ∨
          (∃ attempt, state.reader.document = none ∧ state.reader.loadingState = some attempt ∧
            state.load options opening = state.addCall given (.waiting attempt)) ∨
          ∃ status, state.reader.document = none ∧ state.reader.loadingState = none ∧
            (status = .starting state.reader.attempts.length ∨
              status = .waiting state.reader.attempts.length) ∧
            state.load options opening =
              State.addCall { state with reader := state.reader.begin opening } given status) := by
  rcases refused : state.refusal options with _ | reason
  · right
    obtain ⟨given, rfl, alive, going⟩ := refusal_eq_none refused
    refine ⟨given, rfl, rfl, ?_⟩
    rcases document : state.reader.document with _ | loaded
    · right
      rcases loading : state.reader.loadingState with _ | attempt
      · right
        have waits : ({ state with reader := state.reader.begin opening } :
            State Document Error).registered given state.reader.attempts.length =
              .waiting state.reader.attempts.length := by
          apply registered_of_accepted
          · exact going
          · exact (begin_destroyed state.reader opening).trans alive
        cases opening with
        | sourceThrows error | noPolicy creation =>
          refine ⟨_, rfl, rfl, Or.inr rfl, ?_⟩
          simp only [State.load, refused, document, loading, Option.getD_some, waits]
        | policy =>
          refine ⟨_, rfl, rfl, Or.inl rfl, ?_⟩
          simp only [State.load, refused, document, loading, Option.getD_some]
      · left
        refine ⟨attempt, rfl, rfl, ?_⟩
        simp only [State.load, refused, document, loading, Option.getD_some,
          registered_of_accepted going alive]
    · left
      refine ⟨_, rfl, ?_⟩
      simp only [State.load, refused, document, Option.getD_some]
  · left
    refine ⟨options.getD { signal := none, deadline := false }, reason, rfl, ?_⟩
    simp only [State.load, refused]

theorem isEarly_of_stage {attempt : LoadState Document Error}
    (stage : attempt.stage = .policyRunning ∨ ∃ waiter, attempt.stage = .policyWait waiter) :
    attempt.isEarly = true := by
  rcases stage with stage | ⟨waiter, stage⟩
  · rw [LoadState.isEarly, stage]
  · rw [LoadState.isEarly, stage]

/-- An attempt at the end of its last wait holds no task. -/
theorem Sound.free_of_late {reader : Reader Document Error} (sound : Sound reader) {index : Nat}
    {attempt : LoadState Document Error} (found : reader.attempts[index]? = some attempt)
    (late : ∀ name waiter, attempt.stage ≠ .taskWait name waiter) : attempt.task = none := by
  by_contra held
  obtain ⟨name, has⟩ := Option.ne_none_iff_exists'.mp held
  obtain ⟨-, -, -, waiter, stage⟩ := (sound.attempts index attempt found).holding name has
  exact late name waiter stage

/-- The events that are no call's own, begin none and register none. -/
def Event.isBackground : Event Document Error → Bool
  | .load _ _ | .policyReturns _ _ | .destroy _ => false
  | event => event.call.isNone

/-- What belongs to one call settles its waiter or ends it. -/
theorem step_own {numPages : Document → Nat} {maxDocumentPages index : Nat}
    {state next : State Document Error} {event : Event Document Error}
    (taken : step numPages maxDocumentPages state event = some next)
    (own : event.call = some index) :
    (∃ outcome, next = state.settleCall index outcome) ∨ ∃ options outcome, next =
      { state with
        calls := state.calls.set index
          { options, status := .done (state.returned options outcome) } } := by
  cases event with
  | aborted call =>
    obtain rfl := Option.some.inj own
    simp only [step] at taken
    split at taken
    · split at taken
      · exact Or.inl ⟨_, (Option.some.inj taken).symm⟩
      · cases taken
    · cases taken
  | expired call =>
    obtain rfl := Option.some.inj own
    simp only [step] at taken
    split at taken
    · exact Or.inl ⟨_, (Option.some.inj taken).symm⟩
    · cases taken
  | react call =>
    obtain rfl := Option.some.inj own
    simp only [step] at taken
    split at taken
    · split at taken
      · exact Or.inl ⟨_, (Option.some.inj taken).symm⟩
      · cases taken
    · cases taken
  | resumeCall call =>
    obtain rfl := Option.some.inj own
    simp only [step] at taken
    split at taken
    · exact Or.inr ⟨_, _, (Option.some.inj taken).symm⟩
    · cases taken
  | _ => cases own

/-- What happens in the background moves the reader and leaves the calls as they are. -/
theorem step_background {numPages : Document → Nat} {maxDocumentPages : Nat}
    {state next : State Document Error} (sound : Sound state.reader)
    {event : Event Document Error} (apart : event.isBackground = true)
    (taken : step numPages maxDocumentPages state event = some next) :
    Effect state.reader next.reader ∧ next.calls = state.calls := by
  cases event with
  | load | policyReturns | destroy | aborted | expired | react | resumeCall => cases apart
  | policySettles index result =>
    simp only [step] at taken
    split at taken
    · rename_i attempt found
      split at taken
      · rename_i stage
        have early := isEarly_of_stage (Or.inr ⟨_, stage⟩)
        have free := (sound.attempts index attempt found).free_of_isEarly early
        rw [← Option.some.inj taken]
        exact ⟨.moved (sound.rest found (isSettled_of_isEarly early) free _ rfl (by simp)
          (fun _ => early)), rfl⟩
      · cases taken
    · cases taken
  | resumePolicy index creation =>
    simp only [step] at taken
    split at taken
    · rename_i attempt found
      split at taken
      · rename_i stage
        rw [← Option.some.inj taken]
        exact ⟨.moved (sound.proceed found (isEarly_of_stage (Or.inr ⟨_, stage⟩)) creation), rfl⟩
      · rename_i reason stage
        have early := isEarly_of_stage (Or.inr ⟨_, stage⟩)
        have free := (sound.attempts index attempt found).free_of_isEarly early
        rw [← Option.some.inj taken]
        exact ⟨.moved (sound.caught_same found (isSettled_of_isEarly early) free reason), rfl⟩
      · cases taken
    · cases taken
  | taskSettles name result =>
    simp only [step] at taken
    split at taken
    · rename_i index destroys teardown found
      have told : Told state.reader.tasks
          (state.reader.tasks.set name { attempt := index, settled := true, destroys, teardown }) :=
        Told.set found rfl rfl
      split at taken
      · rename_i attempt here
        split at taken
        · rename_i waited stage
          split at taken
          · rename_i same
            subst same
            rw [← Option.some.inj taken]
            have still := sound.told told.length told.calls told.creates
            exact ⟨Effect.move _ told index _ (still.wait here stage _), rfl⟩
          · rw [← Option.some.inj taken]
            exact ⟨Effect.told _ told, rfl⟩
        · rw [← Option.some.inj taken]
          exact ⟨Effect.told _ told, rfl⟩
      · rw [← Option.some.inj taken]
        exact ⟨Effect.told _ told, rfl⟩
    · cases taken
  | resumeTask index throws =>
    simp only [step] at taken
    split at taken
    · rename_i attempt found
      split at taken
      · rename_i name outcome stage
        rw [← Option.some.inj taken]
        exact ⟨.moved (sound.afterTask numPages maxDocumentPages found stage throws), rfl⟩
      · cases taken
    · cases taken
  | teardownSettles name result =>
    simp only [step] at taken
    split at taken
    · rename_i attempt settled calls found
      rw [← Option.some.inj taken]
      exact ⟨Effect.told _ (Told.set found rfl rfl), rfl⟩
    · cases taken
  | resumeTeardown index =>
    simp only [step] at taken
    split at taken
    · rename_i attempt found
      split at taken
      · rename_i reason awaited stage
        obtain ⟨outcome, -, rfl⟩ := Option.map_eq_some_iff.mp taken
        have running : attempt.isSettled = false := by
          rw [LoadState.isSettled, stage]
        have free := sound.free_of_late found (by simp [stage])
        exact ⟨.moved (sound.caught_same found running free reason), rfl⟩
      · rename_i awaited stage
        obtain ⟨outcome, -, rfl⟩ := Option.map_eq_some_iff.mp taken
        have running : attempt.isSettled = false := by
          rw [LoadState.isSettled, stage]
        have free := sound.free_of_late found (by simp [stage])
        have handed : Handed index attempt.task none state.reader.tasks state.reader.tasks := by
          rw [free]
          exact Handed.kept none _
        exact ⟨.moved (Move.fail found running handed free state.reader.lastLoadFailed .destroyed), rfl⟩
      · cases taken
    · cases taken
  | abort signal =>
    rw [← Option.some.inj taken]
    exact ⟨.refl, rfl⟩
  | resumeDestroy promise =>
    simp only [step] at taken
    split at taken
    · rename_i awaited found
      obtain ⟨outcome, -, rfl⟩ := Option.map_eq_some_iff.mp taken
      exact ⟨Effect.resumed promise awaited outcome found, rfl⟩
    · cases taken

/-- What one event does to the reader. -/
theorem step_effect {numPages : Document → Nat} {maxDocumentPages : Nat}
    {state next : State Document Error} (sound : Sound state.reader)
    (event : Event Document Error) (taken : step numPages maxDocumentPages state event = some next) :
    Effect state.reader next.reader := by
  cases event with
  | load options opening =>
    rw [← Option.some.inj taken]
    rcases load_cases state options opening with ⟨given, reason, -, same⟩ | ⟨given, -, accepted,
      ⟨document, -, same⟩ | ⟨attempt, -, -, same⟩ | ⟨status, empty, unloaded, -, same⟩⟩
    · rw [same]
      exact .refl
    · rw [same]
      exact .refl
    · rw [same]
      exact .refl
    · obtain ⟨-, -, alive, -⟩ := refusal_eq_none accepted
      rw [same]
      exact Effect.begin alive unloaded empty opening
  | policyReturns index result =>
    simp only [step] at taken
    split at taken
    · rename_i attempt found
      split at taken
      · rename_i stage
        rw [← Option.some.inj taken]
        exact .moved (sound.afterPolicy found (isEarly_of_stage (Or.inl stage)) result)
      · cases taken
    · cases taken
  | destroy throws =>
    rw [← Option.some.inj taken]
    exact Effect.destroy throws
  | aborted index | expired index | react index | resumeCall index =>
    obtain ⟨outcome, rfl⟩ | ⟨options, outcome, rfl⟩ := step_own taken rfl
    · exact .refl
    · exact .refl
  | _ => exact (step_background sound rfl taken).1

end Load

section Effects

variable {reader next : Reader Document Error}

theorem Sound.effect (sound : Sound reader) (effect : Effect reader next) : Sound next := by
  cases effect with
  | told tasks same => exact sound.told same.length same.calls same.creates
  | move tasks same index next moved =>
    exact (sound.told same.length same.calls same.creates).move moved
  | begin alive idle empty opening =>
    have opened := sound.opened alive idle empty
    rcases sound.begin alive idle empty opening with same | moved
    · rw [same]
      exact opened
    · exact opened.move moved
  | destroy throws => exact sound.destroy throws
  | resumed promise awaited outcome found => exact { sound with }

/-- A move neither destroys the reader nor has to do with its teardown; it creates no task for a
reader that is destroyed. -/
structure Alike (reader next : Reader Document Error) : Prop where
  destroyed : next.destroyed = reader.destroyed
  destroyPromises : next.destroyPromises = reader.destroyPromises
  tasks : reader.destroyed = true → next.tasks.length = reader.tasks.length

variable {index : Nat}

theorem Move.alike (move : Move reader index next) : Alike reader next := by
  cases move with
  | write found running running' handed creates ok =>
    rename_i before after tasks'
    refine ⟨rfl, rfl, ?_⟩
    intro destroyed
    have made := handed.length_or
    rcases made with same | ⟨free, held⟩
    · exact same
    · rw [creates held free] at destroyed
      cases destroyed
  | fail found running handed free failed reason => exact ⟨rfl, rfl, fun _ => handed.length_none⟩
  | publish found running alive has document => exact ⟨rfl, rfl, fun _ => rfl⟩

theorem Move.length (move : Move reader index next) :
    next.attempts.length = reader.attempts.length := by
  cases move with
  | write found running running' handed creates ok => exact List.length_set
  | fail found running handed free failed reason => exact List.length_set
  | publish found running alive has document => exact List.length_set

theorem length_begin (sound : Sound reader) (alive : reader.destroyed = false)
    (idle : reader.loadingState = none) (empty : reader.document = none)
    (opening : Opening Error) :
    (reader.begin opening).attempts.length = reader.attempts.length + 1 := by
  have opened : reader.opened.attempts.length = reader.attempts.length + 1 := List.length_append
  rcases sound.begin alive idle empty opening with same | moved
  · rw [same]
    exact opened
  · exact moved.length.trans opened

theorem begin_alike (sound : Sound reader) (alive : reader.destroyed = false)
    (idle : reader.loadingState = none) (empty : reader.document = none)
    (opening : Opening Error) : Alike reader (reader.begin opening) := by
  have opened : Alike reader reader.opened := ⟨rfl, rfl, fun _ => rfl⟩
  rcases sound.begin alive idle empty opening with same | moved
  · rw [same]
    exact opened
  · have alike := moved.alike
    refine ⟨alike.destroyed, alike.destroyPromises, ?_⟩
    intro destroyed
    rw [alive] at destroyed
    cases destroyed

/-- Where a reader is destroyed it stays so, and no task is created. -/
theorem Effect.closed (sound : Sound reader) (effect : Effect reader next)
    (destroyed : reader.destroyed = true) :
    next.destroyed = true ∧ next.tasks.length = reader.tasks.length := by
  cases effect with
  | told tasks same => exact ⟨destroyed, same.length⟩
  | move tasks same index next moved =>
    have alike := moved.alike
    exact ⟨alike.destroyed.trans destroyed, (alike.tasks destroyed).trans same.length⟩
  | begin alive idle empty opening =>
    rw [alive] at destroyed
    cases destroyed
  | destroy throws =>
    have set : reader.destroyPromise.isSome = true := by
      rw [← sound.memo.1]
      exact destroyed
    obtain ⟨promise, set⟩ := Option.isSome_iff_exists.mp set
    rw [Reader.destroy, set]
    exact ⟨destroyed, rfl⟩
  | resumed promise awaited outcome found => exact ⟨destroyed, rfl⟩

theorem tearDownAll_destroyed (reader : Reader Document Error)
    (loadingTask loadingState : Option Nat) (throws : Option Error) :
    (reader.tearDownAll loadingTask loadingState throws).destroyed = reader.destroyed := by
  unfold Reader.tearDownAll
  split
  · rfl
  · rfl
  · split
    · rfl
    · split <;> rfl

theorem tearDownAll_outcome {promise : Nat} {outcome : Except Error Unit}
    {loadingTask loadingState : Option Nat} {throws : Option Error}
    (found : reader.destroyPromises[promise]? = some (.settled outcome)) :
    (reader.tearDownAll loadingTask loadingState throws).destroyPromises[promise]? =
      some (.settled outcome) := by
  have within := (List.getElem?_eq_some_iff.mp found).1
  have kept (last : Destroying Error) :
      (reader.destroyPromises ++ [last])[promise]? = some (.settled outcome) := by
    rw [List.getElem?_append_left within]
    exact found
  unfold Reader.tearDownAll
  split
  · exact kept _
  · exact kept _
  · split
    · exact kept _
    · split <;> exact kept _

/-- The outcome of a call of `destroy` does not change. -/
theorem Effect.outcome (sound : Sound reader) (effect : Effect reader next) {promise : Nat}
    {outcome : Except Error Unit}
    (found : reader.destroyPromises[promise]? = some (.settled outcome)) :
    next.destroyPromises[promise]? = some (.settled outcome) := by
  cases effect with
  | told tasks same => exact found
  | move tasks same index next moved =>
    rw [moved.alike.destroyPromises]
    exact found
  | begin alive idle empty opening =>
    rw [(begin_alike sound alive idle empty opening).destroyPromises]
    exact found
  | destroy throws =>
    unfold Reader.destroy
    split
    · exact found
    · exact tearDownAll_outcome found
  | resumed other awaited result awaiting =>
    have apart : other ≠ promise := by
      rintro rfl
      cases awaiting.symm.trans found
    show (reader.destroyPromises.set other _)[promise]? = _
    rw [List.getElem?_set_ne apart]
    exact found

/-- While an attempt is in progress there is no document. -/
theorem Sound.undocumented (sound : Sound reader) {attempt : LoadState Document Error}
    (found : reader.attempts[index]? = some attempt) (running : attempt.isSettled = false) :
    reader.document = none := by
  have unowned : reader.loadingTask = none := by
    rcases destroyed : reader.destroyed with _ | _
    · have loads := ((sound.attempts index attempt found).flagged running).2 destroyed
      by_contra owned
      have idle := sound.owned.2 (Option.isSome_iff_ne_none.mpr owned)
      rw [loads] at idle
      cases idle
    · exact (sound.closed destroyed).2
  have same := sound.owned.1
  rw [unowned] at same
  simpa using same

theorem Sound.undocumented_of_destroyed (sound : Sound reader) (destroyed : reader.destroyed = true) :
    reader.document = none := by
  have same := sound.owned.1
  rw [(sound.closed destroyed).2] at same
  simpa using same

theorem Sound.destroy_destroyed (sound : Sound reader) (throws : Option Error) :
    (reader.destroy throws).destroyed = true := by
  unfold Reader.destroy
  split
  · rename_i promise set
    show reader.destroyed = true
    rw [sound.memo.1, set]
    rfl
  · exact tearDownAll_destroyed _ _ _ _

/-- The attempt at the index has ended. -/
def Settled (attempts : List (LoadState Document Error)) (index : Nat) : Prop :=
  ∃ attempt, attempts[index]? = some attempt ∧ attempt.isSettled = true

/-- An attempt that a move settles with an error leaves no document. -/
theorem Sound.move_failed (sound : Sound reader) (move : Move reader index next) {other : Nat}
    {after : LoadState Document Error} {reason : Reason Error}
    (found : next.attempts[other]? = some after) (stage : after.stage = .settled (.error reason)) :
    Settled reader.attempts other ∨ next.document = none ∧ next.loadingState = none := by
  have settled : after.isSettled = true := by
    rw [LoadState.isSettled, stage]
  cases move with
  | write here running running' handed creates ok =>
    rcases getElem?_set_cases found with ⟨-, rfl⟩ | ⟨-, there⟩
    · rw [settled] at running'
      cases running'
    · exact Or.inl ⟨after, there, settled⟩
  | fail here running handed free failed reason' =>
    exact Or.inr ⟨sound.undocumented here running, sound.cleared here running⟩
  | publish here running alive has document =>
    rcases getElem?_set_cases found with ⟨-, rfl⟩ | ⟨-, there⟩
    · cases stage
    · exact Or.inl ⟨after, there, settled⟩

theorem Effect.failed (sound : Sound reader) (effect : Effect reader next)
    {after : LoadState Document Error} {reason : Reason Error}
    (found : next.attempts[index]? = some after) (stage : after.stage = .settled (.error reason)) :
    Settled reader.attempts index ∨ next.document = none ∧ next.loadingState = none := by
  have settled : after.isSettled = true := by
    rw [LoadState.isSettled, stage]
  cases effect with
  | told tasks same | resumed promise awaited outcome here => exact Or.inl ⟨after, found, settled⟩
  | move tasks same other next moved =>
    exact (sound.told same.length same.calls same.creates).move_failed moved found stage
  | begin alive idle empty opening =>
    have opened : Settled reader.opened.attempts index → Settled reader.attempts index := by
      rintro ⟨attempt, here, done⟩
      have looked : (reader.attempts ++ [_])[index]? = some attempt := here
      rw [List.getElem?_append] at looked
      split at looked
      · exact ⟨attempt, looked, done⟩
      · rw [List.mem_singleton.mp (List.mem_of_getElem? looked)] at done
        cases done
    rcases sound.begin alive idle empty opening with same | moved
    · rw [same] at found
      exact Or.inl (opened ⟨after, found, settled⟩)
    · rcases (sound.opened alive idle empty).move_failed moved found stage with old | left
      · exact Or.inl (opened old)
      · exact Or.inr left
  | destroy throws =>
    right
    have destroyed := sound.destroy_destroyed throws
    have shut := sound.destroy throws
    exact ⟨shut.undocumented_of_destroyed destroyed, (shut.closed destroyed).1⟩

end Effects

/-- Every reachable reader is sound. -/
theorem sound_reachable {numPages : Document → Nat} {maxDocumentPages : Nat}
    {state : State Document Error}
    (reached : (system numPages maxDocumentPages).Reachable state) : Sound state.reader := by
  induction reached with
  | start =>
    constructor
    · intro index attempt found
      cases found
    · exact Nat.zero_le 1
    · intro index loading
      cases loading
    · exact ⟨rfl, fun _ => rfl⟩
    · exact fun _ => ⟨rfl, rfl⟩
    · exact ⟨rfl, by simp [system], by simp [system]⟩
    · intro name
      rfl
    · intro index attempt name found
      cases found
    · intro name owner creates
      cases creates
  | step event _ taken ih => exact ih.effect (step_effect ih event taken)

section Contract

variable {numPages : Document → Nat} {maxDocumentPages : Nat} {state next : State Document Error}
  {index : Nat} {call : LoadCall Document Error} {document : Document}

/-- What belongs to one call changes that call only. -/
theorem step_call {event : Event Document Error}
    (taken : step numPages maxDocumentPages state event = some next)
    (own : event.call = some index) :
    next.reader = state.reader ∧ next.aborted = state.aborted ∧
      ∀ other, other ≠ index → next.calls[other]? = state.calls[other]? := by
  obtain ⟨outcome, rfl⟩ | ⟨options, outcome, rfl⟩ := step_own taken own
  · exact ⟨rfl, rfl, fun other apart => List.getElem?_modify_ne _ _ (Ne.symm apart)⟩
  · exact ⟨rfl, rfl, fun other apart => List.getElem?_set_ne (Ne.symm apart)⟩

/-- Calls that change one by one, none of them to a fulfilled one. -/
theorem fulfilled_of_changed {calls : List (LoadCall Document Error)}
    {change : LoadCall Document Error → LoadCall Document Error}
    (unfulfilled : ∀ call document, (change call).status = .done (.ok document) →
      change call = call) {next : List (LoadCall Document Error)}
    (changed : next[index]? = calls[index]? ∨ next[index]? = (calls[index]?).map change)
    (found : next[index]? = some call) (fulfilled : call.status = .done (.ok document)) :
    calls[index]? = some call := by
  rcases changed with same | mapped
  · rw [← same]
    exact found
  · rw [mapped] at found
    obtain ⟨old, here, rfl⟩ := Option.map_eq_some_iff.mp found
    rw [unfulfilled old document fulfilled]
    exact here

theorem fulfilled_of_settleCall {index called : Nat} {outcome : Except (Reason Error) Document}
    (found : (state.settleCall called outcome).calls[index]? = some call)
    (fulfilled : call.status = .done (.ok document)) : state.calls[index]? = some call := by
  have changed : (state.settleCall called outcome).calls[index]? = state.calls[index]? ∨
      (state.settleCall called outcome).calls[index]? =
        (state.calls[index]?).map ({ · with status := .waited outcome }) := by
    by_cases same : called = index
    · subst same
      exact Or.inr (List.getElem?_modify_eq _ _ _)
    · exact Or.inl (List.getElem?_modify_ne _ _ same)
  apply fulfilled_of_changed _ changed found fulfilled
  intro call document wrong
  cases wrong

theorem registered_unfulfilled (state : State Document Error) (options : LoadOptions)
    (attempt : Nat) (document : Document) :
    state.registered options attempt ≠ .done (.ok document) := by
  unfold State.registered
  split
  · simp
  · split <;> simp

/-- No call is fulfilled by a step of a reader that is destroyed. -/
theorem step_fulfils_none (sound : Sound state.reader) (destroyed : state.reader.destroyed = true)
    {event : Event Document Error}
    (taken : step numPages maxDocumentPages state event = some next)
    (found : next.calls[index]? = some call) (fulfilled : call.status = .done (.ok document)) :
    state.calls[index]? = some call := by
  have owned {called : Nat} (own : event.call = some called) :
      state.calls[index]? = some call := by
    obtain ⟨outcome, rfl⟩ | ⟨options, outcome, rfl⟩ := step_own taken own
    · exact fulfilled_of_settleCall found fulfilled
    · have looked : (state.calls.set called _)[index]? = some call := found
      rw [List.getElem?_set] at looked
      split at looked
      · split at looked
        · rw [← Option.some.inj looked] at fulfilled
          simp only [State.returned, destroyed, if_true] at fulfilled
          cases fulfilled
        · cases looked
      · exact looked
  cases event with
  | aborted called | expired called | react called | resumeCall called => exact owned rfl
  | load options opening =>
    rw [← Option.some.inj taken] at found
    rcases load_cases state options opening with ⟨given, reason, -, same⟩ | ⟨given, -, accepted, -⟩
    · rw [same] at found
      have looked : (state.calls ++ [_])[index]? = some call := found
      rw [List.getElem?_append] at looked
      split at looked
      · exact looked
      · rw [List.mem_singleton.mp (List.mem_of_getElem? looked)] at fulfilled
        cases fulfilled
    · obtain ⟨-, -, alive, -⟩ := refusal_eq_none accepted
      rw [destroyed] at alive
      cases alive
  | policyReturns started result =>
    simp only [step] at taken
    split at taken
    · split at taken
      · rw [← Option.some.inj taken] at found
        apply fulfilled_of_changed _ (Or.inr List.getElem?_map) found fulfilled
        intro old document done
        split at done
        · split at done
          · exact absurd done (registered_unfulfilled _ _ _ _)
          · rename_i apart
            simp only [apart, if_false]
        · rfl
      · cases taken
    · cases taken
  | destroy throws =>
    have set : state.reader.destroyPromise.isSome = true := by
      rw [← sound.memo.1]
      exact destroyed
    rw [← Option.some.inj taken] at found
    simp only [set, if_true] at found
    exact found
  | _ =>
    rw [(step_background sound rfl taken).2] at found
    exact found

/-- While an attempt is in progress each call joins it that is not refused. -/
theorem load_shared (sound : Sound state.reader) {attempt : LoadState Document Error}
    (found : state.reader.attempts[index]? = some attempt) (running : attempt.isSettled = false)
    (options : Option LoadOptions) (opening : Opening Error) :
    (state.load options opening).reader = state.reader ∧ ∃ given,
      state.load options opening = state.addCall given
        (match state.refusal options with
          | some reason => .done (.error reason)
          | none => .waiting index) := by
  rcases load_cases state options opening with ⟨given, reason, refused, same⟩ | ⟨given, -, accepted,
    ⟨document, loaded, -⟩ | ⟨other, -, loading, same⟩ | ⟨status, -, idle, -, -⟩⟩
  · rw [same, refused]
    exact ⟨rfl, given, rfl⟩
  · rw [sound.undocumented found running] at loaded
    cases loaded
  · obtain ⟨-, -, alive, -⟩ := refusal_eq_none accepted
    have loads := ((sound.attempts index attempt found).flagged running).2 alive
    rw [loads] at loading
    rw [same, accepted, ← Option.some.inj loading]
    exact ⟨rfl, given, rfl⟩
  · obtain ⟨-, -, alive, -⟩ := refusal_eq_none accepted
    have loads := ((sound.attempts index attempt found).flagged running).2 alive
    rw [loads] at idle
    cases idle

/-- A task whose attempt has ended, or any task of a reader that is destroyed, is that of the
document, or `destroy()` was called for it once. -/
theorem Sound.task (sound : Sound state.reader) {name : Nat} {task : LoadingTask Error}
    (found : state.reader.tasks[name]? = some task) :
    task.destroys ≤ 1 ∧ ∃ attempt, state.reader.attempts[task.attempt]? = some attempt ∧
      (attempt.isSettled = true ∨ state.reader.destroyed = true →
        (state.reader.loadingTask = some name ∧ state.reader.document.isSome = true ∧
            task.destroys = 0) ∨
          (state.reader.loadingTask ≠ some name ∧ task.destroys = 1)) := by
  have within := (List.getElem?_eq_some_iff.mp found).1
  have created : creator state.reader.tasks name = some task.attempt := by
    rw [creator, found]
    rfl
  have calls : destroys state.reader.tasks name = task.destroys := by
    rw [destroys, found]
    rfl
  have custody := sound.custody name
  rw [if_pos within, calls] at custody
  have known := sound.made name task.attempt created
  refine ⟨by omega, _, List.getElem?_eq_getElem known, ?_⟩
  intro ended
  -- an attempt that still held the task would be the one that created it
  have free : state.reader.attempts.countP (holds name) = 0 := by
    rw [List.countP_eq_zero]
    intro attempt member held
    obtain ⟨index, here⟩ := List.mem_iff_getElem?.mp member
    have has : attempt.task = some name := by simpa [holds] using held
    have own := sound.creators index attempt name here has
    rw [created] at own
    have same := Option.some.inj own
    subst same
    have ok := sound.attempts _ attempt here
    obtain ⟨running, alive, -⟩ := ok.holding name has
    rw [(List.getElem?_eq_some_iff.mp here).2, running, ← (ok.flagged running).1, alive] at ended
    rcases ended with wrong | wrong <;> cases wrong
  rw [free] at custody
  by_cases owned : state.reader.loadingTask = some name
  · rw [if_pos owned] at custody
    refine Or.inl ⟨owned, ?_, by omega⟩
    rw [sound.owned.1, owned]
    rfl
  · rw [if_neg owned] at custody
    exact Or.inr ⟨owned, by omega⟩

end Contract

/-- A load whose document has too many pages, and a second one that is aborted meanwhile. -/
def limitedRun : List (Event Nat String) :=
  [.load (some { signal := none, deadline := true }) .policy, .policyReturns 0 .promise,
    .policySettles 0 (.ok ()), .resumePolicy 0 .created, .taskSettles 0 (.ok 12),
    .resumeTask 0 none, .load (some { signal := some 3, deadline := false }) .policy, .abort 3,
    .aborted 1]

end WebTsToolkit.PdfReader.Load
