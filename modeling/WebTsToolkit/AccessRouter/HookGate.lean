import Mathlib.Logic.Function.Basic
import WebTsToolkit.Library.PermitPool
import WebTsToolkit.Library.TransitionSystem

set_option autoImplicit false

namespace WebTsToolkit.AccessRouter.HookGate

open Library

/-- Callers wait under their call numbers, the oldest first. -/
structure FifoAdmission where
  limit : Nat
  activeWork : Nat
  waiters : List Nat
  deriving Repr, DecidableEq

namespace FifoAdmission

def new (limit : Nat) : FifoAdmission :=
  { limit, activeWork := 0, waiters := [] }

/-- The start of `run`: whether the caller goes on at once. -/
def enter (admission : FifoAdmission) (call : Nat) : FifoAdmission × Bool :=
  if admission.limit ≤ admission.activeWork then
    ({ admission with waiters := admission.waiters ++ [call] }, false)
  else ({ admission with activeWork := admission.activeWork + 1 }, true)

/-- The end of `run`: the permit is transferred directly, or goes back. -/
def leave (admission : FifoAdmission) : FifoAdmission × Option Nat :=
  match admission.waiters with
  | next :: rest => ({ admission with waiters := rest }, some next)
  | [] => ({ admission with activeWork := admission.activeWork - 1 }, none)

end FifoAdmission

/-- Frames go by the number of the call that invoked their operation. `drained` tells that the
frame waits for its last child. -/
structure HookFrame where
  gate : Nat
  parent : Option Nat
  depth : Nat
  isOpen : Bool
  children : FifoAdmission
  pending : Nat
  drained : Bool

/-- Where a call is: waiting for a permit; past the admission, not yet invoked; in its
operation; waiting for the children of its closed frame; invoked to the end, with its permit;
without the permit, not yet counted as settled by its owner; settled. -/
inductive Phase where
  | queued
  | granted
  | running
  | draining
  | closed
  | released
  | settled
  deriving Repr, DecidableEq

/-- The admission that a call goes through. -/
inductive Queue where
  | roots (gate : Nat)
  | children (frame : Nat)
  deriving Repr, DecidableEq

/-- A call of `run` from within the frame `context`. The owner is the frame that admits it, none
for a new root. -/
structure Call where
  gate : Nat
  context : Option Nat
  owner : Option Nat
  deriving Repr, DecidableEq

def Call.queue (call : Call) : Queue :=
  match call.owner with
  | none => .roots call.gate
  | some frame => .children frame

/-- Any number of gates. A call keeps its number, its place in `calls`. -/
structure State where
  calls : List Call
  phase : Nat → Phase
  frame : Nat → Option HookFrame
  roots : Nat → FifoAdmission

inductive Event where
  | run (gate : Nat) (context : Option Nat)
  | invoke (call : Nat)
  | complete (call : Nat) (failed : Bool)
  | release (call : Nat)
  | settle (call : Nat)

def maxHookDepth : Nat := 64

namespace State

def setPhase (state : State) (call : Nat) (phase : Phase) : State :=
  { state with phase := Function.update state.phase call phase }

def setFrame (state : State) (number : Nat) (frame : HookFrame) : State :=
  { state with frame := Function.update state.frame number (some frame) }

def modifyFrame (state : State) (frame : Nat) (change : HookFrame → HookFrame) : State :=
  { state with frame := Function.update state.frame frame ((state.frame frame).map change) }

/-- A frame that is not there yet has had no children. -/
def admission (state : State) (queue : Queue) : FifoAdmission :=
  match queue with
  | .roots gate => state.roots gate
  | .children frame => ((state.frame frame).map HookFrame.children).getD (.new 1)

def setAdmission (state : State) (queue : Queue) (admission : FifoAdmission) : State :=
  match queue with
  | .roots gate => { state with roots := Function.update state.roots gate admission }
  | .children frame => state.modifyFrame frame fun frame => { frame with children := admission }

/-- The closest frame of a gate, from the context up through the parents. -/
def nearestFrame (state : State) (gate : Nat) (fuel : Nat) (context : Option Nat) : Option Nat :=
  match fuel, context with
  | 0, _ => none
  | _, none => none
  | fuel + 1, some number =>
    match state.frame number with
    | none => none
    | some frame =>
      if frame.gate = gate then some number
      else state.nearestFrame gate fuel frame.parent

/-- The frame that a call from a context goes through; a closed frame is not skipped. -/
def ownerOf (state : State) (gate : Nat) (context : Option Nat) : Option Nat :=
  (state.nearestFrame gate state.calls.length context).filter fun number =>
    ((state.frame number).map HookFrame.isOpen).getD false

/-- A new call enters the admission of its queue. -/
def enterQueue (state : State) (call : Call) : State :=
  let number := state.calls.length
  let entered := (state.admission call.queue).enter number
  let state := { state with calls := state.calls ++ [call] }
  (state.setAdmission call.queue entered.1).setPhase number
    (if entered.2 then .granted else .queued)

def depthOf (state : State) (number : Nat) : Nat :=
  ((state.frame number).map HookFrame.depth).getD 0

/-- `SharedHookGate.run`. A call below a frame at the maximum depth throws at once and leaves
no trace. -/
def run (state : State) (gate : Nat) (context : Option Nat) : State :=
  match state.ownerOf gate context with
  | none => state.enterQueue { gate, context, owner := none }
  | some owner =>
    if maxHookDepth ≤ state.depthOf owner then state
    else
      (state.modifyFrame owner fun frame => { frame with pending := frame.pending + 1 }).enterQueue
        { gate, context, owner := some owner }

/-- The frame that `invoke` makes. -/
def newFrame (state : State) (call : Call) : HookFrame where
  gate := call.gate
  parent := call.context
  depth := match call.owner with
    | none => 1
    | some owner => state.depthOf owner + 1
  isOpen := true
  children := .new 1
  pending := 0
  drained := false

/-- `invoke` up to the start of the operation. -/
def invoke (state : State) (number : Nat) (call : Call) : State :=
  (state.setFrame number (state.newFrame call)).setPhase number .running

/-- The operation ends, by a result or an error alike. -/
def complete (state : State) (number : Nat) : State :=
  match state.frame number with
  | none => state
  | some frame =>
    if frame.pending = 0 then
      (state.modifyFrame number fun frame => { frame with isOpen := false }).setPhase number
        .closed
    else
      (state.modifyFrame number fun frame =>
        { frame with isOpen := false, drained := true }).setPhase number .draining

/-- The `finally` of the admission. -/
def release (state : State) (number : Nat) (call : Call) : State :=
  let left := (state.admission call.queue).leave
  let state := (state.setAdmission call.queue left.1).setPhase number .released
  match left.2 with
  | none => state
  | some next => state.setPhase next .granted

/-- Whether no child is left of a frame that waits for them. -/
def isDrained (state : State) (number : Nat) : Bool :=
  ((state.frame number).map fun frame => frame.pending == 0 && frame.drained).getD false

/-- The `finally` of `SharedHookGate.run`: the last child lets a waiting frame go on. -/
def settle (state : State) (number : Nat) (call : Call) : State :=
  let settled := state.setPhase number .settled
  match call.owner with
  | none => settled
  | some owner =>
    let less := settled.modifyFrame owner fun frame => { frame with pending := frame.pending - 1 }
    if less.isDrained owner then less.setPhase owner .closed else less

/-- Code runs in a context only once its frame is there, and from then on at any time. -/
def step (state : State) (event : Event) : Option State :=
  match event with
  | .run gate context =>
    if context.all fun number => (state.frame number).isSome then some (state.run gate context)
    else none
  | .invoke number =>
    match state.calls[number]? with
    | some call => if state.phase number = .granted then some (state.invoke number call) else none
    | none => none
  | .complete number _ =>
    if number < state.calls.length ∧ state.phase number = .running then
      some (state.complete number)
    else none
  | .release number =>
    match state.calls[number]? with
    | some call => if state.phase number = .closed then some (state.release number call) else none
    | none => none
  | .settle number =>
    match state.calls[number]? with
    | some call =>
      if state.phase number = .released then some (state.settle number call) else none
    | none => none

def start (limits : Nat → Nat) : State where
  calls := []
  phase := fun _ => .queued
  frame := fun _ => none
  roots := fun gate => .new (limits gate)

@[simp] theorem phase_setPhase (state : State) (call other : Nat) (phase : Phase) :
    (state.setPhase call phase).phase other = if other = call then phase else state.phase other :=
  Function.update_apply state.phase call phase other

@[simp] theorem calls_setPhase (state : State) (call : Nat) (phase : Phase) :
    (state.setPhase call phase).calls = state.calls := rfl

@[simp] theorem admission_setPhase (state : State) (call : Nat) (phase : Phase) (queue : Queue) :
    (state.setPhase call phase).admission queue = state.admission queue := by
  cases queue <;> rfl

@[simp] theorem frame_setFrame (state : State) (number other : Nat) (frame : HookFrame) :
    (state.setFrame number frame).frame other =
      if other = number then some frame else state.frame other :=
  Function.update_apply state.frame number (some frame) other

/-- A new frame has no children, as before it was there. -/
theorem admission_setFrame {state : State} {number : Nat} (absent : state.frame number = none)
    {frame : HookFrame} (childless : frame.children = .new 1) (queue : Queue) :
    (state.setFrame number frame).admission queue = state.admission queue := by
  cases queue with
  | roots gate => rfl
  | children other =>
    rw [admission, admission, frame_setFrame]
    by_cases here : other = number
    · subst here
      rw [if_pos rfl, absent, Option.map_some, childless]
      rfl
    · rw [if_neg here]

@[simp] theorem frame_modifyFrame (state : State) (frame other : Nat)
    (change : HookFrame → HookFrame) : (state.modifyFrame frame change).frame other =
      if other = frame then (state.frame frame).map change else state.frame other :=
  Function.update_apply state.frame frame _ other

/-- A change that leaves the children alone leaves all admissions alone. -/
theorem admission_modifyFrame (state : State) (number : Nat) {change : HookFrame → HookFrame}
    (same : ∀ frame, (change frame).children = frame.children) (queue : Queue) :
    (state.modifyFrame number change).admission queue = state.admission queue := by
  cases queue with
  | roots gate => rfl
  | children frame =>
    rw [admission, admission, frame_modifyFrame]
    by_cases here : frame = number
    · subst here
      rw [if_pos rfl, Option.map_map]
      have kept : HookFrame.children ∘ change = HookFrame.children := funext same
      rw [kept]
    · rw [if_neg here]

@[simp] theorem calls_setAdmission (state : State) (queue : Queue) (admission : FifoAdmission) :
    (state.setAdmission queue admission).calls = state.calls := by
  cases queue <;> rfl

@[simp] theorem phase_setAdmission (state : State) (queue : Queue) (admission : FifoAdmission) :
    (state.setAdmission queue admission).phase = state.phase := by
  cases queue <;> rfl

/-- The queue belongs to a gate, or to a frame that is there. -/
def Exists (state : State) (queue : Queue) : Prop :=
  ∀ frame, queue = .children frame → (state.frame frame).isSome = true

theorem admission_setAdmission {state : State} {queue : Queue} (there : state.Exists queue)
    (admission : FifoAdmission) (other : Queue) :
    (state.setAdmission queue admission).admission other =
      if other = queue then admission else state.admission other := by
  cases queue with
  | roots gate =>
    cases other with
    | roots gate' =>
      have same : (Queue.roots gate' = .roots gate) = (gate' = gate) := by simp
      simp only [same]
      exact Function.update_apply state.roots gate admission gate'
    | children frame => rfl
  | children number =>
    obtain ⟨frame, found⟩ := Option.isSome_iff_exists.mp (there number rfl)
    cases other with
    | roots gate => rfl
    | children other =>
      rw [setAdmission, State.admission, frame_modifyFrame, found]
      by_cases here : other = number
      · subst here
        simp
      · simp [here, State.admission]

/-- A frame without the state of its children admission. -/
def outer (state : State) (number : Nat) : Option HookFrame :=
  (state.frame number).map fun frame => { frame with children := .new 1 }

@[simp] theorem outer_setPhase (state : State) (call number : Nat) (phase : Phase) :
    (state.setPhase call phase).outer number = state.outer number := rfl

@[simp] theorem outer_setAdmission (state : State) (queue : Queue) (admission : FifoAdmission)
    (number : Nat) : (state.setAdmission queue admission).outer number = state.outer number := by
  cases queue with
  | roots gate => rfl
  | children frame =>
    rw [outer, setAdmission, frame_modifyFrame]
    by_cases here : number = frame
    · subst here
      rw [if_pos rfl, Option.map_map]
      rfl
    · rw [if_neg here]
      rfl

theorem outer_modifyFrame (state : State) (frame number : Nat)
    {change : HookFrame → HookFrame}
    (commutes : ∀ frame, { change frame with children := .new 1 } =
      change { frame with children := .new 1 }) :
    (state.modifyFrame frame change).outer number =
      if number = frame then (state.outer number).map change else state.outer number := by
  rw [outer, frame_modifyFrame]
  by_cases here : number = frame
  · subst here
    rw [if_pos rfl, if_pos rfl, outer, Option.map_map, Option.map_map]
    exact congrArg (Option.map · (state.frame number)) (funext commutes)
  · rw [if_neg here, if_neg here, outer]

theorem outer_setFrame (state : State) (number other : Nat) {frame : HookFrame}
    (childless : frame.children = .new 1) : (state.setFrame number frame).outer other =
      if other = number then some frame else state.outer other := by
  rw [outer, frame_setFrame]
  by_cases here : other = number
  · rw [if_pos here, if_pos here, Option.map_some, ← childless]
  · rw [if_neg here, if_neg here, outer]

theorem isSome_outer (state : State) (number : Nat) :
    (state.outer number).isSome = (state.frame number).isSome := by
  rw [outer, Option.isSome_map]

end State

/-- Gates with their limits, under any interleaving of calls and completions. -/
def system (limits : Nat → Nat) : TransitionSystem State Event where
  start := .start limits
  step := State.step

def Phase.holds : Phase → Bool
  | .granted | .running | .draining | .closed => true
  | _ => false

/-- A call holds a permit of a queue. -/
def HoldsAt (state : State) (queue : Queue) (number : Nat) : Prop :=
  (state.calls[number]?).map Call.queue = some queue ∧ (state.phase number).holds = true

/-- A call waits in a queue. -/
def WaitsAt (state : State) (queue : Queue) (number : Nat) : Prop :=
  (state.calls[number]?).map Call.queue = some queue ∧ state.phase number = .queued

/-- A child that the frame has not seen settled. -/
def PendsAt (state : State) (frame number : Nat) : Prop :=
  (state.calls[number]?).bind Call.owner = some frame ∧ state.phase number ≠ .settled

instance (state : State) (queue : Queue) : DecidablePred (HoldsAt state queue) :=
  fun _ => inferInstanceAs (Decidable (_ ∧ _))

instance (state : State) (frame : Nat) : DecidablePred (PendsAt state frame) :=
  fun _ => inferInstanceAs (Decidable (_ ∧ _))

/-- The calls that hold a permit of a queue. -/
def holders (state : State) (queue : Queue) : Finset Nat :=
  (Finset.range state.calls.length).filter (HoldsAt state queue)

def unsettled (state : State) (frame : Nat) : Finset Nat :=
  (Finset.range state.calls.length).filter (PendsAt state frame)

theorem mem_holders {state : State} {queue : Queue} {number : Nat} :
    number ∈ holders state queue ↔ HoldsAt state queue number := by
  rw [holders, Finset.mem_filter, Finset.mem_range]
  constructor
  · intro held
    exact held.2
  · intro held
    obtain ⟨call, found, _⟩ := Option.map_eq_some_iff.mp held.1
    exact ⟨(List.getElem?_eq_some_iff.mp found).1, held⟩

theorem mem_unsettled {state : State} {frame number : Nat} :
    number ∈ unsettled state frame ↔ PendsAt state frame number := by
  rw [unsettled, Finset.mem_filter, Finset.mem_range]
  constructor
  · intro held
    exact held.2
  · intro held
    obtain ⟨call, found, _⟩ := Option.bind_eq_some_iff.mp held.1
    exact ⟨(List.getElem?_eq_some_iff.mp found).1, held⟩

/-- The permit pool that a queue stands for. -/
def poolOf (state : State) (queue : Queue) : PermitPool Nat where
  holders := holders state queue
  queue := (state.admission queue).waiters

/-- An admission with its counter and waiters is a pool with its holders and queue. -/
structure Represents (limit : Nat) (admission : FifoAdmission) (pool : PermitPool Nat) : Prop where
  capacity : admission.limit = limit
  active : admission.activeWork = pool.holders.card
  waiting : admission.waiters = pool.queue

variable {limit : Nat}

theorem Represents.enter {admission : FifoAdmission} {pool : PermitPool Nat}
    (represents : Represents limit admission pool) {call : Nat} (fresh : call ∉ pool.holders) :
    Represents limit (admission.enter call).1 (pool.acquire limit call) ∧
      ((admission.enter call).2 = true ↔ pool.holders.card < limit) := by
  have capacity := represents.capacity
  have active := represents.active
  by_cases full : admission.limit ≤ admission.activeWork
  · have notFree : ¬pool.holders.card < limit := by omega
    rw [FifoAdmission.enter, if_pos full, PermitPool.acquire, if_neg notFree]
    refine ⟨⟨capacity, active, ?_⟩, by simp [notFree]⟩
    show admission.waiters ++ [call] = pool.queue ++ [call]
    rw [represents.waiting]
  · have free : pool.holders.card < limit := by omega
    rw [FifoAdmission.enter, if_neg full, PermitPool.acquire, if_pos free]
    refine ⟨⟨capacity, ?_, represents.waiting⟩, by simp [free]⟩
    show admission.activeWork + 1 = (insert call pool.holders).card
    rw [Finset.card_insert_of_notMem fresh, active]

theorem Represents.leave {admission : FifoAdmission} {pool : PermitPool Nat}
    (represents : Represents limit admission pool) (fair : pool.Fair limit) {call : Nat}
    (held : call ∈ pool.holders) :
    Represents limit admission.leave.1 (pool.release call) ∧
      admission.leave.2 = pool.queue.head? := by
  have active := represents.active
  cases waits : pool.queue with
  | nil =>
    have nobody : admission.waiters = [] := by rw [represents.waiting, waits]
    have left : admission.leave =
        ({ admission with activeWork := admission.activeWork - 1 }, none) := by
      rw [FifoAdmission.leave, nobody]
    have released : pool.release call = { pool with holders := pool.holders.erase call } := by
      rw [PermitPool.release, waits]
    rw [left, released]
    refine ⟨⟨represents.capacity, ?_, represents.waiting⟩, rfl⟩
    show admission.activeWork - 1 = (pool.holders.erase call).card
    rw [Finset.card_erase_of_mem held, active]
  | cons next rest =>
    have somebody : admission.waiters = next :: rest := by rw [represents.waiting, waits]
    have left : admission.leave = ({ admission with waiters := rest }, some next) := by
      rw [FifoAdmission.leave, somebody]
    have count := PermitPool.card_release held waits fair
    have released : (pool.release call).queue = rest := by
      rw [PermitPool.release, waits]
    rw [left]
    refine ⟨⟨represents.capacity, ?_, released.symm⟩, rfl⟩
    rw [count, ← active]

/-- The counters of an admission tell what its calls are doing. -/
structure Accounted (limit : Nat) (state : State) (queue : Queue) : Prop where
  represents : Represents limit (state.admission queue) (poolOf state queue)
  fair : (poolOf state queue).Fair limit
  waits : ∀ number, number ∈ (state.admission queue).waiters ↔ WaitsAt state queue number
  oldest : (state.admission queue).waiters.Pairwise (· < ·)

theorem Accounted.congr {state next : State} {queue : Queue}
    (accounted : Accounted limit state queue)
    (holds : ∀ number, HoldsAt next queue number ↔ HoldsAt state queue number)
    (waits : ∀ number, WaitsAt next queue number ↔ WaitsAt state queue number)
    (same : next.admission queue = state.admission queue) : Accounted limit next queue := by
  have held : holders next queue = holders state queue := by
    ext number
    rw [mem_holders, mem_holders, holds number]
  have pool : poolOf next queue = poolOf state queue := by
    rw [poolOf, poolOf, held, same]
  constructor
  · rw [same, pool]
    exact accounted.represents
  · rw [pool]
    exact accounted.fair
  · intro number
    rw [same, accounted.waits, waits number]
  · rw [same]
    exact accounted.oldest

end WebTsToolkit.AccessRouter.HookGate
