import WebTsToolkit.AccessRouter.HookGate

set_option autoImplicit false

namespace WebTsToolkit.AccessRouter.HookGate

open Library

def limitOf (limits : Nat → Nat) : Queue → Nat
  | .roots gate => limits gate
  | .children _ => 1

/-- A call that has a frame. -/
def Phase.invoked : Phase → Bool
  | .queued | .granted => false
  | _ => true

/-- A call whose frame waits for nothing any more. -/
def Phase.ended : Phase → Bool
  | .closed | .released | .settled => true
  | _ => false

/-- What the fields of a frame tell about its call and its children. -/
structure FrameOk (state : State) (number : Nat) (frame : HookFrame) : Prop where
  parent : ∀ parent, frame.parent = some parent →
    parent < number ∧ (state.outer parent).isSome = true
  opened : frame.isOpen = true ↔ state.phase number = .running
  drains : frame.drained = true → frame.isOpen = false
  pending : frame.pending = (unsettled state number).card
  ended : (state.phase number).ended = true → frame.pending = 0

/-- What a call refers to was there before it. -/
structure CallOk (state : State) (number : Nat) (call : Call) : Prop where
  owner : ∀ owner, call.owner = some owner →
    owner < number ∧ (state.outer owner).isSome = true
  context : ∀ context, call.context = some context →
    context < number ∧ (state.outer context).isSome = true

structure Inv (limits : Nat → Nat) (state : State) : Prop where
  accounted : ∀ queue, Accounted (limitOf limits queue) state queue
  invoked : ∀ number, (state.outer number).isSome = true ↔
    number < state.calls.length ∧ (state.phase number).invoked = true
  calls : ∀ (number : Nat) (call : Call), state.calls[number]? = some call →
    CallOk state number call
  frames : ∀ (number : Nat) (frame : HookFrame), state.outer number = some frame →
    FrameOk state number frame

/-- What entering an admission does to a state. The owner counts one child more. -/
structure Enters (state next : State) (call : Call) : Prop where
  calls : next.calls = state.calls ++ [call]
  phase : ∀ number, next.phase number = if number = state.calls.length then
      (if ((state.admission call.queue).enter state.calls.length).2 then .granted else .queued)
    else state.phase number
  frame : ∀ number, next.outer number = if call.owner = some number then
      (state.outer number).map fun frame => { frame with pending := frame.pending + 1 }
    else state.outer number
  admission : ∀ queue, next.admission queue = if queue = call.queue then
      ((state.admission call.queue).enter state.calls.length).1
    else state.admission queue

theorem enterQueue_enters {state : State} {call : Call} (there : state.Exists call.queue) :
    (state.enterQueue call).calls = state.calls ++ [call] ∧
    (∀ number, (state.enterQueue call).phase number = if number = state.calls.length then
        (if ((state.admission call.queue).enter state.calls.length).2 then .granted else .queued)
      else state.phase number) ∧
    (∀ number, (state.enterQueue call).outer number = state.outer number) ∧
    ∀ queue, (state.enterQueue call).admission queue = if queue = call.queue then
        ((state.admission call.queue).enter state.calls.length).1
      else state.admission queue := by
  have there' : State.Exists { state with calls := state.calls ++ [call] } call.queue := there
  have kept (queue : Queue) :
      State.admission { state with calls := state.calls ++ [call] } queue =
        state.admission queue := by
    cases queue <;> rfl
  refine ⟨?_, ?_, ?_, ?_⟩
  · simp [State.enterQueue]
  · intro number
    simp [State.enterQueue]
  · intro number
    simp only [State.enterQueue, State.outer_setPhase, State.outer_setAdmission]
    rfl
  · intro queue
    simp only [State.enterQueue, State.admission_setPhase, State.admission_setAdmission there', kept]

theorem owner_of_queue {call : Call} {frame : Nat} (queued : call.queue = .children frame) :
    call.owner = some frame := by
  rw [Call.queue] at queued
  split at queued
  · contradiction
  · next owner found => rw [found, Queue.children.inj queued]

theorem ownerOf_open {state : State} {gate : Nat} {context : Option Nat} {owner : Nat}
    (found : state.ownerOf gate context = some owner) :
    ∃ frame, state.frame owner = some frame ∧ frame.isOpen = true := by
  rw [State.ownerOf, Option.filter_eq_some_iff] at found
  obtain ⟨_, isOpen⟩ := found
  cases there : state.frame owner with
  | none => simp [there] at isOpen
  | some frame => exact ⟨frame, rfl, by simpa [there] using isOpen⟩

/-- A call is rejected at the maximum depth, or enters the admission of its owner, or of the
roots when the closest frame of the gate is closed or there is none. -/
theorem run_cases (state : State) (gate : Nat) (context : Option Nat) :
    (∃ owner, state.ownerOf gate context = some owner ∧ maxHookDepth ≤ state.depthOf owner ∧
      state.run gate context = state) ∨
    Enters state (state.run gate context)
      { gate, context, owner := state.ownerOf gate context } := by
  rw [State.run]
  cases found : state.ownerOf gate context with
  | none =>
    have there : state.Exists (Call.queue { gate, context, owner := none }) := by
      intro frame same
      cases same
    obtain ⟨calls, phase, frame, admission⟩ := enterQueue_enters there
    refine Or.inr ⟨calls, phase, ?_, admission⟩
    intro number
    rw [if_neg (by simp)]
    exact frame number
  | some owner =>
    by_cases deep : maxHookDepth ≤ state.depthOf owner
    · exact Or.inl ⟨owner, rfl, deep, if_pos deep⟩
    · obtain ⟨frame, there, _⟩ := ownerOf_open found
      let pend : HookFrame → HookFrame := fun frame => { frame with pending := frame.pending + 1 }
      have exists' : State.Exists (state.modifyFrame owner pend)
          (Call.queue { gate, context, owner := some owner }) := by
        intro number same
        have here : owner = number := Queue.children.inj same
        subst here
        rw [State.frame_modifyFrame, if_pos rfl, there]
        rfl
      obtain ⟨calls, phase, outer, admission⟩ := enterQueue_enters exists'
      have children : ∀ frame, (pend frame).children = frame.children := fun _ => rfl
      have kept (queue : Queue) :
          (state.modifyFrame owner pend).admission queue = state.admission queue :=
        state.admission_modifyFrame owner children queue
      right
      simp only [if_neg deep]
      refine ⟨calls, ?_, ?_, ?_⟩
      · intro number
        rw [phase, kept]
        rfl
      · intro number
        rw [outer, state.outer_modifyFrame owner number (fun _ => rfl)]
        by_cases here : number = owner
        · subst here
          rw [if_pos rfl, if_pos rfl]
        · rw [if_neg here, if_neg (fun same => here (Option.some.inj same).symm)]
      · intro queue
        rw [admission, kept, kept]
        rfl

section Entering

variable {limits : Nat → Nat} {state next : State} {call : Call}

theorem Enters.getElem? (enters : Enters state next call) (number : Nat) :
    next.calls[number]? =
      if number = state.calls.length then some call else state.calls[number]? := by
  rw [enters.calls]
  by_cases last : number = state.calls.length
  · rw [if_pos last, last, List.getElem?_concat_length]
  · rw [if_neg last]
    by_cases inside : number < state.calls.length
    · exact List.getElem?_append_left inside
    · have beyond : (state.calls ++ [call]).length ≤ number := by
        rw [List.length_append, List.length_singleton]
        omega
      rw [List.getElem?_eq_none beyond, List.getElem?_eq_none (by omega)]

theorem getElem?_length (state : State) : state.calls[state.calls.length]? = none :=
  List.getElem?_eq_none (Nat.le_refl _)

theorem Enters.holdsAt (enters : Enters state next call) (queue : Queue) (number : Nat) :
    HoldsAt next queue number ↔ HoldsAt state queue number ∨
      number = state.calls.length ∧ queue = call.queue ∧
        ((state.admission call.queue).enter state.calls.length).2 = true := by
  rw [HoldsAt, HoldsAt, enters.getElem?, enters.phase]
  by_cases last : number = state.calls.length
  · subst last
    rw [if_pos rfl, if_pos rfl, getElem?_length, Option.map_none, Option.map_some,
      Option.some.injEq]
    by_cases admitted : ((state.admission call.queue).enter state.calls.length).2 = true
    · rw [if_pos admitted]
      simp [admitted, Phase.holds, @eq_comm _ queue]
    · rw [if_neg admitted]
      simp [admitted, Phase.holds]
  · simp [last]

theorem Enters.waitsAt (enters : Enters state next call) (queue : Queue) (number : Nat) :
    WaitsAt next queue number ↔ WaitsAt state queue number ∨
      number = state.calls.length ∧ queue = call.queue ∧
        ((state.admission call.queue).enter state.calls.length).2 = false := by
  rw [WaitsAt, WaitsAt, enters.getElem?, enters.phase]
  by_cases last : number = state.calls.length
  · subst last
    rw [if_pos rfl, if_pos rfl, getElem?_length, Option.map_none, Option.map_some,
      Option.some.injEq]
    by_cases admitted : ((state.admission call.queue).enter state.calls.length).2 = true
    · rw [if_pos admitted]
      simp [admitted]
    · rw [if_neg admitted]
      simp [admitted, @eq_comm _ queue]
  · simp [last]

variable {queue : Queue} {number : Nat} {limit : Nat}

theorem WaitsAt.lt (waits : WaitsAt state queue number) : number < state.calls.length := by
  obtain ⟨call, found, _⟩ := Option.map_eq_some_iff.mp waits.1
  exact (List.getElem?_eq_some_iff.mp found).1

theorem HoldsAt.lt (holds : HoldsAt state queue number) : number < state.calls.length := by
  obtain ⟨call, found, _⟩ := Option.map_eq_some_iff.mp holds.1
  exact (List.getElem?_eq_some_iff.mp found).1

theorem Accounted.fresh (accounted : Accounted limit state queue) :
    state.calls.length ∉ (poolOf state queue).holders ∧
      state.calls.length ∉ (poolOf state queue).queue := by
  constructor
  · intro member
    exact absurd (mem_holders.mp member).lt (Nat.lt_irrefl _)
  · intro member
    exact absurd ((accounted.waits _).mp member).lt (Nat.lt_irrefl _)

/-- The entered admission follows the abstract pool. -/
theorem Enters.pool (enters : Enters state next call)
    (accounted : Accounted limit state call.queue) :
    poolOf next call.queue = (poolOf state call.queue).acquire limit state.calls.length := by
  have fresh := accounted.fresh
  obtain ⟨represents, admitted⟩ := accounted.represents.enter fresh.1
  have admission := enters.admission call.queue
  rw [if_pos rfl] at admission
  apply PermitPool.ext
  · ext number
    have held : number ∈ (poolOf next call.queue).holders ↔
        HoldsAt state call.queue number ∨ number = state.calls.length ∧
          (poolOf state call.queue).holders.card < limit := by
      rw [← admitted]
      refine mem_holders.trans ((enters.holdsAt _ _).trans ?_)
      simp
    rw [held, ← mem_holders]
    by_cases free : (poolOf state call.queue).holders.card < limit
    · rw [PermitPool.acquire, if_pos free, Finset.mem_insert]
      constructor
      · rintro (held | ⟨last, _⟩)
        · exact Or.inr held
        · exact Or.inl last
      · rintro (last | held)
        · exact Or.inr ⟨last, free⟩
        · exact Or.inl held
    · rw [PermitPool.acquire, if_neg free]
      constructor
      · rintro (held | ⟨_, free'⟩)
        · exact held
        · exact absurd free' free
      · exact Or.inl
  · show (next.admission call.queue).waiters = _
    rw [admission, represents.waiting]

theorem Enters.accounted (enters : Enters state next call)
    (accounted : Accounted limit state queue) : Accounted limit next queue := by
  by_cases here : queue = call.queue
  · subst here
    have fresh := accounted.fresh
    obtain ⟨represents, admitted⟩ := accounted.represents.enter fresh.1
    have pool := enters.pool accounted
    have admission := enters.admission call.queue
    rw [if_pos rfl] at admission
    have waiters : (next.admission call.queue).waiters =
        ((poolOf state call.queue).acquire limit state.calls.length).queue := by
      rw [admission, represents.waiting]
    have waiting : (state.admission call.queue).waiters = (poolOf state call.queue).queue := rfl
    constructor
    · rw [admission, pool]
      exact represents
    · rw [pool]
      exact accounted.fair.acquire fresh.1 fresh.2
    · intro number
      rw [waiters, enters.waitsAt, ← accounted.waits, ← Bool.not_eq_true, admitted, waiting]
      by_cases free : (poolOf state call.queue).holders.card < limit
      · rw [PermitPool.acquire, if_pos free]
        simp [free]
      · rw [PermitPool.acquire, if_neg free]
        simp [free]
    · rw [waiters]
      by_cases free : (poolOf state call.queue).holders.card < limit
      · rw [PermitPool.acquire, if_pos free]
        exact accounted.oldest
      · rw [PermitPool.acquire, if_neg free]
        apply List.pairwise_append.mpr
        refine ⟨accounted.oldest, List.pairwise_singleton _ _, ?_⟩
        intro earlier member last same
        rw [List.mem_singleton.mp same]
        exact ((accounted.waits earlier).mp member).lt
  · refine accounted.congr ?_ ?_ ?_
    · intro number
      rw [enters.holdsAt]
      simp [here]
    · intro number
      rw [enters.waitsAt]
      simp [here]
    · rw [enters.admission, if_neg here]

theorem FrameOk.congr {frame : HookFrame} (ok : FrameOk state number frame)
    (there : ∀ other, (state.outer other).isSome = true → (next.outer other).isSome = true)
    (phase : next.phase number = state.phase number)
    (same : unsettled next number = unsettled state number) : FrameOk next number frame where
  parent := fun parent found => ⟨(ok.parent parent found).1, there _ (ok.parent parent found).2⟩
  opened := by rw [phase, ok.opened]
  drains := ok.drains
  pending := by rw [same, ok.pending]
  ended := by
    rw [phase]
    exact ok.ended

theorem CallOk.congr {call : Call} (ok : CallOk state number call)
    (there : ∀ other, (state.outer other).isSome = true → (next.outer other).isSome = true) :
    CallOk next number call where
  owner := fun owner found => ⟨(ok.owner owner found).1, there _ (ok.owner owner found).2⟩
  context := fun context found =>
    ⟨(ok.context context found).1, there _ (ok.context context found).2⟩

theorem PendsAt.lt {frame number : Nat} (pends : PendsAt state frame number) :
    number < state.calls.length := by
  obtain ⟨call, found, _⟩ := Option.bind_eq_some_iff.mp pends.1
  exact (List.getElem?_eq_some_iff.mp found).1

theorem Enters.isSome_outer (enters : Enters state next call) (number : Nat) :
    (next.outer number).isSome = (state.outer number).isSome := by
  rw [enters.frame]
  split
  · rw [Option.isSome_map]
  · rfl

theorem Enters.pendsAt (enters : Enters state next call) (frame number : Nat) :
    PendsAt next frame number ↔ PendsAt state frame number ∨
      number = state.calls.length ∧ call.owner = some frame := by
  rw [PendsAt, PendsAt, enters.getElem?, enters.phase]
  by_cases last : number = state.calls.length
  · subst last
    have fresh : (if ((state.admission call.queue).enter state.calls.length).2 = true then
        Phase.granted else .queued) ≠ .settled := by
      split <;> decide
    rw [if_pos rfl, if_pos rfl, getElem?_length]
    simp [fresh]
  · simp [last]

theorem Enters.inv (enters : Enters state next call) (inv : Inv limits state)
    (ok : CallOk state state.calls.length call)
    (open_ : ∀ owner, call.owner = some owner →
      ∀ frame, state.outer owner = some frame → frame.isOpen = true) : Inv limits next := by
  have there : ∀ other, (state.outer other).isSome = true → (next.outer other).isSome = true := by
    intro other held
    rwa [enters.isSome_outer]
  have size : next.calls.length = state.calls.length + 1 := by
    rw [enters.calls, List.length_append, List.length_singleton]
  have early : ∀ number, (state.outer number).isSome = true → number ≠ state.calls.length := by
    intro number held
    have inside := ((inv.invoked number).mp held).1
    omega
  constructor
  · intro queue
    exact enters.accounted (inv.accounted queue)
  · intro number
    rw [enters.isSome_outer, inv.invoked, enters.phase, size]
    by_cases last : number = state.calls.length
    · rw [if_pos last]
      constructor
      · intro held
        omega
      · intro held
        have late := held.2
        split at late <;> contradiction
    · rw [if_neg last]
      constructor
      · intro held
        exact ⟨by omega, held.2⟩
      · intro held
        exact ⟨by omega, held.2⟩
  · intro number other found
    rw [enters.getElem?] at found
    split at found
    · next last =>
      rw [last, ← Option.some.inj found]
      exact ok.congr there
    · exact (inv.calls number other found).congr there
  · intro number frame found
    rw [enters.frame] at found
    split at found
    · next owned =>
      obtain ⟨frame, found', rfl⟩ := Option.map_eq_some_iff.mp found
      have old := inv.frames number frame found'
      have running := old.opened.mp (open_ number owned frame found')
      have phase : next.phase number = state.phase number := by
        rw [enters.phase, if_neg (early number (by rw [found']; rfl))]
      have more : unsettled next number = insert state.calls.length (unsettled state number) := by
        ext other
        rw [Finset.mem_insert, mem_unsettled, mem_unsettled, enters.pendsAt]
        simp [owned, or_comm]
      have fresh : state.calls.length ∉ unsettled state number := by
        intro member
        exact absurd (mem_unsettled.mp member).lt (Nat.lt_irrefl _)
      constructor
      · intro parent same
        exact ⟨(old.parent parent same).1, there _ (old.parent parent same).2⟩
      · rw [phase]
        exact old.opened
      · exact old.drains
      · rw [more, Finset.card_insert_of_notMem fresh, ← old.pending]
      · rw [phase, running]
        intro ended
        contradiction
    · next other =>
      refine (inv.frames number frame found).congr there ?_ ?_
      · rw [enters.phase, if_neg (early number (by rw [found]; rfl))]
      · ext child
        rw [mem_unsettled, mem_unsettled, enters.pendsAt]
        simp [other]

end Entering

end WebTsToolkit.AccessRouter.HookGate
