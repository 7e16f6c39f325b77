import WebTsToolkit.AccessRouter.HookGateEntry

set_option autoImplicit false

namespace WebTsToolkit.AccessRouter.HookGate

open Library

section Stepping

variable {limits : Nat → Nat} {state next : State} {number : Nat} {call : Call}

theorem inv_run (inv : Inv limits state) (gate : Nat) {context : Option Nat}
    (there : (context.all fun number => (state.frame number).isSome) = true) :
    Inv limits (state.run gate context) := by
  rcases run_cases state gate context with ⟨_, _, _, same⟩ | enters
  · rwa [same]
  · refine enters.inv inv ⟨?_, ?_⟩ ?_
    · intro owner found
      obtain ⟨frame, found', _⟩ := ownerOf_open found
      have held : (state.outer owner).isSome = true := by
        rw [State.isSome_outer, found']
        rfl
      exact ⟨((inv.invoked owner).mp held).1, held⟩
    · intro origin found
      have same : context = some origin := found
      rw [same, Option.all_some, ← State.isSome_outer] at there
      exact ⟨((inv.invoked origin).mp there).1, there⟩
    · intro owner found frame outer
      obtain ⟨frame', found', isOpen⟩ := ownerOf_open found
      rw [State.outer, found'] at outer
      rw [← Option.some.inj outer]
      exact isOpen

/-- A step that changes phases without taking or giving up a place in a queue. -/
theorem Accounted.ofPhases {limit : Nat} {queue : Queue} (accounted : Accounted limit state queue)
    (calls : next.calls = state.calls)
    (holds : ∀ number, (next.phase number).holds = (state.phase number).holds)
    (waits : ∀ number, next.phase number = .queued ↔ state.phase number = .queued)
    (same : next.admission queue = state.admission queue) : Accounted limit next queue := by
  apply accounted.congr
  · intro number
    rw [HoldsAt, HoldsAt, calls, holds]
  · intro number
    rw [WaitsAt, WaitsAt, calls, waits]
  · exact same

theorem unsettled_ofPhases (calls : next.calls = state.calls) (frame : Nat)
    (settled : ∀ number, next.phase number = .settled ↔ state.phase number = .settled) :
    unsettled next frame = unsettled state frame := by
  ext number
  rw [mem_unsettled, mem_unsettled, PendsAt, PendsAt, calls, ne_eq, settled]

theorem inv_invoke (inv : Inv limits state) (found : state.calls[number]? = some call)
    (granted : state.phase number = .granted) : Inv limits (state.invoke number call) := by
  have absent : state.outer number = none := by
    cases outer : state.outer number with
    | none => rfl
    | some frame =>
      have invoked := ((inv.invoked number).mp (by rw [outer]; rfl)).2
      rw [granted] at invoked
      contradiction
  have absent' : state.frame number = none := by
    cases there : state.frame number with
    | none => rfl
    | some frame =>
      rw [State.outer, there] at absent
      contradiction
  have calls : (state.invoke number call).calls = state.calls := rfl
  have phase (other : Nat) : (state.invoke number call).phase other =
      if other = number then .running else state.phase other := State.phase_setPhase _ _ _ _
  have outer (other : Nat) : (state.invoke number call).outer other =
      if other = number then some (state.newFrame call) else state.outer other :=
    State.outer_setFrame state number other rfl
  have there : ∀ other, (state.outer other).isSome = true →
      ((state.invoke number call).outer other).isSome = true := by
    intro other held
    rw [outer]
    split
    · rfl
    · exact held
  have settled : ∀ other, (state.invoke number call).phase other = .settled ↔
      state.phase other = .settled := by
    intro other
    rw [phase]
    split
    · next here => simp [here, granted]
    · rfl
  have same (frame : Nat) : unsettled (state.invoke number call) frame = unsettled state frame :=
    unsettled_ofPhases calls frame settled
  constructor
  · intro queue
    refine (inv.accounted queue).ofPhases calls ?_ ?_ ?_
    · intro other
      rw [phase]
      split
      · next here => rw [here, granted]; rfl
      · rfl
    · intro other
      rw [phase]
      split
      · next here => simp [here, granted]
      · rfl
    · exact State.admission_setFrame absent' rfl queue
  · intro other
    rw [phase, outer]
    by_cases here : other = number
    · subst here
      have inside := (List.getElem?_eq_some_iff.mp found).1
      rw [if_pos rfl, if_pos rfl]
      exact ⟨fun _ => ⟨inside, rfl⟩, fun _ => rfl⟩
    · rw [if_neg here, if_neg here]
      exact inv.invoked other
  · intro other call' listed
    exact (inv.calls other call' listed).congr there
  · intro other frame listed
    rw [outer] at listed
    by_cases here : other = number
    · subst here
      rw [if_pos rfl] at listed
      rw [← Option.some.inj listed]
      constructor
      · intro parent context
        have held := (inv.calls other call found).context parent context
        exact ⟨held.1, there parent held.2⟩
      · rw [phase, if_pos rfl]
        exact ⟨fun _ => rfl, fun _ => rfl⟩
      · intro drained
        contradiction
      · rw [same]
        have childless : unsettled state other = ∅ := by
          apply Finset.eq_empty_of_forall_notMem
          intro child member
          obtain ⟨call', listed', owned⟩ := Option.bind_eq_some_iff.mp (mem_unsettled.mp member).1
          have held := ((inv.calls child call' listed').owner other owned).2
          rw [absent] at held
          contradiction
        rw [childless]
        rfl
      · intro _
        rfl
    · rw [if_neg here] at listed
      refine (inv.frames other frame listed).congr there ?_ (same other)
      rw [phase, if_neg here]

/-- Closing a frame whose call ends in a phase with its permit. -/
theorem inv_close (inv : Inv limits state) (inside : number < state.calls.length)
    (running : state.phase number = .running) {change : HookFrame → HookFrame} {last : Phase}
    (holds : last.holds = true) (invoked : last.invoked = true) (ran : last ≠ .running)
    (closes : ∀ frame, (change frame).isOpen = false ∧ (change frame).pending = frame.pending ∧
      (change frame).parent = frame.parent ∧ (change frame).children = frame.children)
    (commutes : ∀ frame, { change frame with children := .new 1 } =
      change { frame with children := .new 1 })
    (empty : last.ended = true → ∀ frame, state.outer number = some frame → frame.pending = 0) :
    Inv limits ((state.modifyFrame number change).setPhase number last) := by
  let after := (state.modifyFrame number change).setPhase number last
  have calls : after.calls = state.calls := rfl
  have phase (other : Nat) :
      after.phase other = if other = number then last else state.phase other :=
    State.phase_setPhase _ _ _ _
  have outer (other : Nat) : after.outer other =
      if other = number then (state.outer other).map change else state.outer other :=
    State.outer_modifyFrame state number other commutes
  have some (other : Nat) : (after.outer other).isSome = (state.outer other).isSome := by
    rw [outer]
    split
    · rw [Option.isSome_map]
    · rfl
  have there : ∀ other, (state.outer other).isSome = true → (after.outer other).isSome = true := by
    intro other held
    rwa [some]
  have notSettled : last ≠ .settled := by
    rintro rfl
    contradiction
  have notQueued : last ≠ .queued := by
    rintro rfl
    contradiction
  have same (frame : Nat) : unsettled after frame = unsettled state frame := by
    apply unsettled_ofPhases calls
    intro other
    rw [phase]
    split
    · next here => simp [here, running, notSettled]
    · rfl
  constructor
  · intro queue
    refine (inv.accounted queue).ofPhases calls ?_ ?_ ?_
    · intro other
      rw [phase]
      split
      · next here => rw [here, running, holds]; rfl
      · rfl
    · intro other
      rw [phase]
      split
      · next here => simp [here, running, notQueued]
      · rfl
    · exact State.admission_modifyFrame state number (fun frame => (closes frame).2.2.2) queue
  · intro other
    rw [some, inv.invoked, phase, calls]
    split
    · next here => rw [here, running, invoked]; rfl
    · rfl
  · intro other call' listed
    exact (inv.calls other call' listed).congr there
  · intro other frame listed
    rw [outer] at listed
    by_cases here : other = number
    · subst here
      rw [if_pos rfl] at listed
      obtain ⟨frame, stored, rfl⟩ := Option.map_eq_some_iff.mp listed
      have old := inv.frames other frame stored
      obtain ⟨shut, pending, parent, _⟩ := closes frame
      constructor
      · intro above
        rw [parent]
        intro found
        exact ⟨(old.parent above found).1, there above (old.parent above found).2⟩
      · rw [shut, phase, if_pos rfl]
        simp [ran]
      · intro _
        exact shut
      · rw [pending, same, old.pending]
      · rw [phase, if_pos rfl, pending]
        intro ended
        exact empty ended frame stored
    · rw [if_neg here] at listed
      refine (inv.frames other frame listed).congr there ?_ (same other)
      rw [phase, if_neg here]

theorem inv_complete (inv : Inv limits state) (inside : number < state.calls.length)
    (running : state.phase number = .running) : Inv limits (state.complete number) := by
  rw [State.complete]
  cases there : state.frame number with
  | none => exact inv
  | some frame =>
    have outer : state.outer number = some { frame with children := .new 1 } := by
      rw [State.outer, there]
      rfl
    by_cases none : frame.pending = 0
    · simp only [if_pos none]
      refine inv_close inv inside running rfl rfl (by decide) (fun _ => ⟨rfl, rfl, rfl, rfl⟩)
        (fun _ => rfl) ?_
      intro _ frame' listed
      rw [outer] at listed
      rw [← Option.some.inj listed]
      exact none
    · simp only [if_neg none]
      refine inv_close inv inside running rfl rfl (by decide) (fun _ => ⟨rfl, rfl, rfl, rfl⟩)
        (fun _ => rfl) ?_
      intro ended
      contradiction

/-- The frame waits, and one child is left of it at most. -/
def lastChild (state : State) (number : Nat) : Bool :=
  ((state.outer number).map fun frame => frame.pending - 1 == 0 && frame.drained).getD false

theorem eq_of_lastChild (last : lastChild state number = true) :
    ∃ frame, state.outer number = some frame ∧ frame.pending - 1 = 0 ∧ frame.drained = true := by
  rw [lastChild] at last
  cases outer : state.outer number with
  | none => simp [outer] at last
  | some frame => exact ⟨frame, rfl, by simpa [outer] using last⟩

/-- What the end of a call does to a state: its owner counts one child less, and goes on when
it waited for this one. -/
structure Settles (state next : State) (number : Nat) (call : Call) : Prop where
  calls : next.calls = state.calls
  admission : ∀ queue, next.admission queue = state.admission queue
  outer : ∀ other, next.outer other = if call.owner = some other then
      (state.outer other).map fun frame => { frame with pending := frame.pending - 1 }
    else state.outer other
  phase : ∀ other, next.phase other =
    if call.owner = some other ∧ lastChild state other = true then .closed
    else if other = number then .settled else state.phase other

theorem settle_settles (state : State) (number : Nat) (call : Call) :
    Settles state (state.settle number call) number call := by
  rw [State.settle]
  cases owned : call.owner with
  | none =>
    constructor
    · rfl
    · intro queue
      exact State.admission_setPhase _ _ _ _
    · intro other
      rw [owned, if_neg (by rintro ⟨⟩)]
      rfl
    · intro other
      rw [owned, if_neg (by rintro ⟨⟨⟩, _⟩)]
      exact State.phase_setPhase _ _ _ _
  | some owner =>
    let unpend : HookFrame → HookFrame := fun frame => { frame with pending := frame.pending - 1 }
    let less := (state.setPhase number .settled).modifyFrame owner unpend
    have children : ∀ frame, (unpend frame).children = frame.children := fun _ => rfl
    have commutes : ∀ frame, { unpend frame with children := .new 1 } =
        unpend { frame with children := .new 1 } := fun _ => rfl
    have admission (queue : Queue) : less.admission queue = state.admission queue :=
      (State.admission_modifyFrame _ owner children queue).trans
        (State.admission_setPhase _ _ _ _)
    have outer (other : Nat) : less.outer other =
        if call.owner = some other then (state.outer other).map unpend
        else state.outer other := by
      refine ((state.setPhase number .settled).outer_modifyFrame owner other commutes).trans ?_
      by_cases here : other = owner
      · rw [if_pos here, if_pos (by rw [owned, here])]
        rfl
      · rw [if_neg here, if_neg (fun same => here (Option.some.inj (owned.symm.trans same)).symm)]
        rfl
    have phase (other : Nat) :
        less.phase other = if other = number then .settled else state.phase other :=
      State.phase_setPhase _ _ _ _
    have drained : less.isDrained owner = lastChild state owner := by
      have frame : less.frame owner = (state.frame owner).map unpend := by
        rw [State.frame_modifyFrame, if_pos rfl]
        rfl
      rw [State.isDrained, lastChild, frame, State.outer, Option.map_map, Option.map_map]
      rfl
    show Settles state (if less.isDrained owner = true then less.setPhase owner .closed else less)
      number call
    rw [drained]
    by_cases last : lastChild state owner = true
    · rw [if_pos last]
      refine ⟨rfl, fun queue => ?_, fun other => outer other, fun other => ?_⟩
      · exact (State.admission_setPhase _ _ _ _).trans (admission queue)
      · rw [State.phase_setPhase]
        by_cases here : other = owner
        · rw [if_pos here, if_pos ⟨by rw [owned, here], by rwa [here]⟩]
        · have notWaited : ¬(call.owner = some other ∧ lastChild state other = true) :=
            fun waited => here (Option.some.inj (owned.symm.trans waited.1)).symm
          rw [if_neg here, phase, if_neg notWaited]
    · rw [if_neg last]
      refine ⟨rfl, admission, outer, fun other => ?_⟩
      have notWaited : ¬(call.owner = some other ∧ lastChild state other = true) := by
        rintro ⟨same, last'⟩
        rw [← Option.some.inj (owned.symm.trans same)] at last'
        exact last last'
      rw [phase, if_neg notWaited]

theorem inv_settle (inv : Inv limits state) (found : state.calls[number]? = some call)
    (released : state.phase number = .released) (settles : Settles state next number call) :
    Inv limits next := by
  have ok := inv.calls number call found
  have some (other : Nat) : (next.outer other).isSome = (state.outer other).isSome := by
    rw [settles.outer]
    split
    · rw [Option.isSome_map]
    · rfl
  have there : ∀ other, (state.outer other).isSome = true → (next.outer other).isSome = true := by
    intro other held
    rwa [some]
  -- an owner that is let go on was waiting: it has this child, so it has not ended
  have drains (other : Nat) (owned : call.owner = Option.some other) {frame : HookFrame}
      (outer : state.outer other = Option.some frame) (drained : frame.drained = true) :
      state.phase other = .draining := by
    have old := inv.frames other frame outer
    have invoked := ((inv.invoked other).mp (by rw [outer]; rfl)).2
    have shut := old.drains drained
    have notRunning : state.phase other ≠ .running := by
      intro running
      rw [← old.opened, shut] at running
      contradiction
    have child : number ∈ unsettled state other := by
      rw [mem_unsettled, PendsAt, found, released]
      exact ⟨owned, by decide⟩
    have count : 0 < frame.pending := by
      rw [old.pending]
      exact Finset.card_pos.mpr ⟨number, child⟩
    have notEnded : ¬(state.phase other).ended = true := by
      intro ended
      have none := old.ended ended
      omega
    cases phase : state.phase other <;> rw [phase] at invoked notRunning notEnded <;>
      first | rfl | contradiction
  have phases (other : Nat) : next.phase other = state.phase other ∨
      (state.phase other = .draining ∧ next.phase other = .closed) ∨
      (other = number ∧ state.phase other = .released ∧ next.phase other = .settled) := by
    rw [settles.phase]
    split
    · next waited =>
      obtain ⟨owned, last⟩ := waited
      obtain ⟨frame, outer, _, drained⟩ := eq_of_lastChild last
      exact Or.inr (Or.inl ⟨drains other owned outer drained, rfl⟩)
    · split
      · next here =>
        subst here
        exact Or.inr (Or.inr ⟨rfl, released, rfl⟩)
      · exact Or.inl rfl
  have settled (other : Nat) :
      next.phase other = .settled ↔ state.phase other = .settled ∨ other = number := by
    by_cases here : other = number
    · subst here
      have notWaited : ¬(call.owner = Option.some other ∧ lastChild state other = true) := by
        rintro ⟨owned, _⟩
        exact absurd (ok.owner other owned).1 (Nat.lt_irrefl _)
      rw [settles.phase, if_neg notWaited, if_pos rfl]
      simp
    · rcases phases other with same | ⟨before, after⟩ | ⟨same, _⟩
      · rw [same]
        simp [here]
      · rw [before, after]
        simp [here]
      · exact absurd same here
  have pends (frame other : Nat) : PendsAt next frame other ↔
      PendsAt state frame other ∧ other ≠ number := by
    rw [PendsAt, PendsAt, settles.calls, ne_eq, settled, not_or, and_assoc]
  constructor
  · intro queue
    refine (inv.accounted queue).ofPhases settles.calls ?_ ?_ (settles.admission queue)
    · intro other
      rcases phases other with same | ⟨before, after⟩ | ⟨_, before, after⟩
      · rw [same]
      · rw [before, after]
        rfl
      · rw [before, after]
        rfl
    · intro other
      rcases phases other with same | ⟨before, after⟩ | ⟨_, before, after⟩
      · rw [same]
      · simp [before, after]
      · simp [before, after]
  · intro other
    rw [some, inv.invoked, settles.calls]
    rcases phases other with same | ⟨before, after⟩ | ⟨_, before, after⟩
    · rw [same]
    · rw [before, after]
      rfl
    · rw [before, after]
      rfl
  · intro other call' listed
    rw [settles.calls] at listed
    exact (inv.calls other call' listed).congr there
  · intro other frame listed
    rw [settles.outer] at listed
    by_cases owned : call.owner = Option.some other
    · rw [if_pos owned] at listed
      obtain ⟨frame, stored, rfl⟩ := Option.map_eq_some_iff.mp listed
      have old := inv.frames other frame stored
      have child : number ∈ unsettled state other := by
        rw [mem_unsettled, PendsAt, found, released]
        exact ⟨owned, by decide⟩
      have fewer : unsettled next other = (unsettled state other).erase number := by
        ext child
        rw [Finset.mem_erase, mem_unsettled, mem_unsettled, pends, and_comm]
      constructor
      · intro parent same
        exact ⟨(old.parent parent same).1, there _ (old.parent parent same).2⟩
      · rcases phases other with same | ⟨before, after⟩ | ⟨_, before, after⟩
        · rw [same]
          exact old.opened
        · have shut := old.opened
          rw [before] at shut
          rw [after]
          simpa using shut
        · have shut := old.opened
          rw [before] at shut
          rw [after]
          simpa using shut
      · exact old.drains
      · show frame.pending - 1 = _
        rw [fewer, Finset.card_erase_of_mem child, old.pending]
      · intro ended
        show frame.pending - 1 = 0
        rw [settles.phase] at ended
        split at ended
        · next waited =>
          obtain ⟨held, outer, zero, _⟩ := eq_of_lastChild waited.2
          rw [stored] at outer
          rw [Option.some.inj outer]
          exact zero
        · split at ended
          · next here =>
            subst here
            exact absurd (ok.owner other owned).1 (Nat.lt_irrefl _)
          · rw [old.ended ended]
    · rw [if_neg owned] at listed
      have old := inv.frames other frame listed
      have same : unsettled next other = unsettled state other := by
        ext child
        rw [mem_unsettled, mem_unsettled, pends]
        constructor
        · intro held
          exact held.1
        · intro held
          refine ⟨held, ?_⟩
          rintro rfl
          obtain ⟨call', found', owned'⟩ := Option.bind_eq_some_iff.mp held.1
          rw [found] at found'
          rw [← Option.some.inj found'] at owned'
          exact owned owned'
      have notWaited : ¬(call.owner = Option.some other ∧ lastChild state other = true) :=
        fun waited => owned waited.1
      by_cases here : other = number
      · have phase : next.phase other = .settled := by
          rw [settles.phase, if_neg notWaited, if_pos here]
        have before : state.phase other = .released := by rw [here, released]
        have none := old.ended (by rw [before]; rfl)
        constructor
        · intro parent found'
          exact ⟨(old.parent parent found').1, there _ (old.parent parent found').2⟩
        · have shut := old.opened
          rw [before] at shut
          rw [phase]
          simpa using shut
        · exact old.drains
        · rw [same, old.pending]
        · intro _
          exact none
      · refine old.congr there ?_ same
        rw [settles.phase, if_neg notWaited, if_neg here]

/-- What giving a permit back does to a state: the head of the queue gets it. -/
structure Releases (state next : State) (number : Nat) (call : Call) : Prop where
  calls : next.calls = state.calls
  outer : ∀ other, next.outer other = state.outer other
  phase : ∀ other, next.phase other =
    if (state.admission call.queue).leave.2 = some other then .granted
    else if other = number then .released else state.phase other
  admission : ∀ queue, next.admission queue =
    if queue = call.queue then (state.admission call.queue).leave.1 else state.admission queue

theorem release_releases (there : state.Exists call.queue) :
    Releases state (state.release number call) number call := by
  rw [State.release]
  have admission (queue : Queue) (admission : FifoAdmission) :
      ((state.setAdmission call.queue admission).setPhase number .released).admission queue =
        if queue = call.queue then admission else state.admission queue := by
    rw [State.admission_setPhase]
    exact State.admission_setAdmission there admission queue
  cases left : (state.admission call.queue).leave.2 with
  | none =>
    refine ⟨by simp, fun other => by simp, fun other => ?_, fun queue => admission queue _⟩
    rw [left, if_neg (by simp)]
    simp
  | some head =>
    refine ⟨by simp, fun other => by simp, fun other => ?_, fun queue => ?_⟩
    · by_cases here : other = head
      · rw [if_pos (by rw [left, here]), State.phase_setPhase, if_pos here]
      · have other' : ¬(state.admission call.queue).leave.2 = some other := by
          intro same
          exact here (Option.some.inj (left.symm.trans same)).symm
        rw [if_neg other', State.phase_setPhase, if_neg here]
        simp
    · rw [State.admission_setPhase]
      exact admission queue _

section Releasing

variable {limit : Nat}

theorem Accounted.leave (accounted : Accounted limit state call.queue)
    (held : HoldsAt state call.queue number) :
    Represents limit (state.admission call.queue).leave.1
      ((poolOf state call.queue).release number) ∧
    (state.admission call.queue).leave.2 = (state.admission call.queue).waiters.head? :=
  accounted.represents.leave accounted.fair (mem_holders.mpr held)

/-- The head of the queue is a waiting call. -/
theorem Accounted.head (accounted : Accounted limit state call.queue)
    (held : HoldsAt state call.queue number) {head : Nat}
    (left : (state.admission call.queue).leave.2 = some head) :
    WaitsAt state call.queue head := by
  rw [(accounted.leave held).2] at left
  exact (accounted.waits head).mp (List.mem_of_mem_head? left)

theorem Releases.holdsAt (releases : Releases state next number call)
    (accounted : Accounted limit state call.queue) (held : HoldsAt state call.queue number)
    (queue : Queue) (other : Nat) : HoldsAt next queue other ↔
      (queue = call.queue ∧ (state.admission call.queue).leave.2 = some other) ∨
        (HoldsAt state queue other ∧ other ≠ number) := by
  rw [HoldsAt, HoldsAt, releases.calls, releases.phase]
  by_cases head : (state.admission call.queue).leave.2 = some other
  · have waits := accounted.head held head
    rw [if_pos head, waits.1, waits.2, Option.some.injEq]
    simp [head, Phase.holds, @eq_comm _ queue]
  · rw [if_neg head]
    by_cases here : other = number
    · subst here
      simp [head, Phase.holds]
    · simp [head, here]

theorem Releases.waitsAt (releases : Releases state next number call)
    (held : HoldsAt state call.queue number)
    (queue : Queue) (other : Nat) : WaitsAt next queue other ↔
      WaitsAt state queue other ∧ (state.admission call.queue).leave.2 ≠ some other := by
  rw [WaitsAt, WaitsAt, releases.calls, releases.phase]
  by_cases head : (state.admission call.queue).leave.2 = some other
  · rw [if_pos head]
    simp [head]
  · rw [if_neg head]
    by_cases here : other = number
    · have notQueued : state.phase number ≠ .queued := by
        intro queued
        have holds := held.2
        rw [queued] at holds
        contradiction
      simp [here, notQueued]
    · simp [head, here]

theorem Releases.pool (releases : Releases state next number call)
    (accounted : Accounted limit state call.queue) (held : HoldsAt state call.queue number) :
    poolOf next call.queue = (poolOf state call.queue).release number := by
  obtain ⟨represents, left⟩ := accounted.leave held
  have admission := releases.admission call.queue
  rw [if_pos rfl] at admission
  apply PermitPool.ext
  · ext other
    have holds : other ∈ (poolOf next call.queue).holders ↔
        (state.admission call.queue).waiters.head? = some other ∨
          (HoldsAt state call.queue other ∧ other ≠ number) := by
      rw [← left]
      refine mem_holders.trans ((releases.holdsAt accounted held _ _).trans ?_)
      simp
    rw [holds, ← mem_holders]
    have queue : (poolOf state call.queue).queue = (state.admission call.queue).waiters := rfl
    cases waiters : (state.admission call.queue).waiters with
    | nil =>
      rw [PermitPool.release, queue, waiters]
      show _ ↔ other ∈ (holders state call.queue).erase number
      rw [Finset.mem_erase]
      simp [and_comm]
    | cons head rest =>
      rw [PermitPool.release, queue, waiters]
      show _ ↔ other ∈ insert head ((holders state call.queue).erase number)
      rw [Finset.mem_insert, Finset.mem_erase, List.head?_cons, Option.some.injEq, @eq_comm _ head]
      simp [and_comm]
  · show (next.admission call.queue).waiters = _
    rw [admission, represents.waiting]

theorem Releases.accounted (releases : Releases state next number call)
    (accounted : Accounted limit state call.queue) (held : HoldsAt state call.queue number) :
    Accounted limit next call.queue := by
  obtain ⟨represents, left⟩ := accounted.leave held
  have pool := releases.pool accounted held
  have admission := releases.admission call.queue
  rw [if_pos rfl] at admission
  have queue : (poolOf state call.queue).queue = (state.admission call.queue).waiters := rfl
  have waiters : (next.admission call.queue).waiters =
      (state.admission call.queue).waiters.tail := by
    rw [admission, represents.waiting, PermitPool.release, queue]
    cases stored : (state.admission call.queue).waiters with
    | nil | cons head rest => rfl
  have distinct := accounted.fair.distinct
  have oldest := accounted.oldest
  constructor
  · rw [admission, pool]
    exact represents
  · rw [pool]
    exact accounted.fair.release (mem_holders.mpr held)
  · intro other
    rw [waiters, releases.waitsAt held, ← accounted.waits, left]
    rw [queue] at distinct
    cases stored : (state.admission call.queue).waiters with
    | nil => simp
    | cons head rest =>
      rw [stored, List.nodup_cons] at distinct
      rw [List.tail_cons, List.mem_cons, List.head?_cons, ne_eq, Option.some.injEq]
      constructor
      · intro member
        refine ⟨Or.inr member, ?_⟩
        rintro rfl
        exact distinct.1 member
      · rintro ⟨same | member, apart⟩
        · exact absurd same.symm apart
        · exact member
  · rw [waiters]
    cases stored : (state.admission call.queue).waiters with
    | nil => exact List.Pairwise.nil
    | cons head rest =>
      rw [stored, List.pairwise_cons] at oldest
      exact oldest.2

end Releasing

theorem holdsAt_of_closed (found : state.calls[number]? = some call)
    (closed : state.phase number = .closed) : HoldsAt state call.queue number := by
  refine ⟨by rw [found]; rfl, ?_⟩
  rw [closed]
  rfl

theorem inv_release (inv : Inv limits state) (found : state.calls[number]? = some call)
    (closed : state.phase number = .closed) (releases : Releases state next number call) :
    Inv limits next := by
  have held := holdsAt_of_closed found closed
  have accounted := inv.accounted call.queue
  have there : ∀ other, (state.outer other).isSome = true → (next.outer other).isSome = true := by
    intro other stored
    rwa [releases.outer]
  have phases (other : Nat) : next.phase other = state.phase other ∨
      (state.phase other = .queued ∧ next.phase other = .granted) ∨
      (state.phase other = .closed ∧ next.phase other = .released) := by
    rw [releases.phase]
    split
    · next head => exact Or.inr (Or.inl ⟨(accounted.head held head).2, rfl⟩)
    · split
      · next here => exact Or.inr (Or.inr ⟨by rw [here, closed], rfl⟩)
      · exact Or.inl rfl
  have same (frame : Nat) : unsettled next frame = unsettled state frame := by
    apply unsettled_ofPhases releases.calls
    intro other
    rcases phases other with same | ⟨before, after⟩ | ⟨before, after⟩
    · rw [same]
    · simp [before, after]
    · simp [before, after]
  constructor
  · intro queue
    by_cases here : queue = call.queue
    · subst here
      exact releases.accounted accounted held
    · refine (inv.accounted queue).congr ?_ ?_ ?_
      · intro other
        rw [releases.holdsAt accounted held]
        have apart : HoldsAt state queue other → other ≠ number := by
          rintro holds rfl
          have same := holds.1.symm.trans held.1
          exact here (Option.some.inj same)
        constructor
        · rintro (⟨same, _⟩ | ⟨holds, _⟩)
          · exact absurd same here
          · exact holds
        · intro holds
          exact Or.inr ⟨holds, apart holds⟩
      · intro other
        rw [releases.waitsAt held]
        constructor
        · intro waits
          exact waits.1
        · intro waits
          refine ⟨waits, ?_⟩
          intro head
          have same := waits.1.symm.trans (accounted.head held head).1
          exact here (Option.some.inj same)
      · rw [releases.admission, if_neg here]
  · intro other
    rw [releases.outer, inv.invoked, releases.calls]
    rcases phases other with same | ⟨before, after⟩ | ⟨before, after⟩
    · rw [same]
    · rw [before, after]
      rfl
    · rw [before, after]
      rfl
  · intro other call' listed
    rw [releases.calls] at listed
    exact (inv.calls other call' listed).congr there
  · intro other frame listed
    rw [releases.outer] at listed
    have old := inv.frames other frame listed
    constructor
    · intro parent found'
      exact ⟨(old.parent parent found').1, there _ (old.parent parent found').2⟩
    · rw [old.opened]
      rcases phases other with same | ⟨before, after⟩ | ⟨before, after⟩
      · rw [same]
      · simp [before, after]
      · simp [before, after]
    · exact old.drains
    · rw [same, old.pending]
    · intro ended
      rcases phases other with same | ⟨before, after⟩ | ⟨before, after⟩
      · rw [same] at ended
        exact old.ended ended
      · rw [after] at ended
        contradiction
      · exact old.ended (by rw [before]; rfl)

theorem exists_queue (inv : Inv limits state) (found : state.calls[number]? = some call) :
    state.Exists call.queue := by
  intro frame same
  have owned := owner_of_queue same
  have held := ((inv.calls number call found).owner frame owned).2
  rwa [State.isSome_outer] at held

theorem inv_start (limits : Nat → Nat) : Inv limits (State.start limits) where
  accounted := by
    intro queue
    have nobody : holders (State.start limits) queue = ∅ := rfl
    have admission : (State.start limits).admission queue = .new (limitOf limits queue) := by
      cases queue <;> rfl
    constructor
    · rw [admission]
      refine ⟨rfl, ?_, ?_⟩
      · rw [poolOf, nobody]
        rfl
      · rw [poolOf, admission]
    · rw [poolOf, nobody, admission]
      exact ⟨Nat.zero_le _, fun some => absurd rfl some, List.nodup_nil, by simp [FifoAdmission.new]⟩
    · intro number
      rw [admission]
      simp [FifoAdmission.new, WaitsAt, State.start]
    · rw [admission]
      exact List.Pairwise.nil
  invoked := by
    intro number
    simp [State.start, State.outer]
  calls := by
    intro number call found
    simp [State.start] at found
  frames := by
    intro number frame found
    simp [State.start, State.outer] at found

theorem inv_step (limits : Nat → Nat) (state : State) (event : Event) (next : State)
    (inv : Inv limits state) (taken : state.step event = some next) : Inv limits next := by
  cases event with
  | run gate context =>
    rw [State.step] at taken
    split at taken
    · next there =>
      rw [← Option.some.inj taken]
      exact inv_run inv gate there
    · contradiction
  | invoke number =>
    rw [State.step] at taken
    split at taken
    · next call found =>
      split at taken
      · next granted =>
        rw [← Option.some.inj taken]
        exact inv_invoke inv found granted
      · contradiction
    · contradiction
  | complete number failed =>
    rw [State.step] at taken
    split at taken
    · next held =>
      rw [← Option.some.inj taken]
      exact inv_complete inv held.1 held.2
    · contradiction
  | release number =>
    rw [State.step] at taken
    split at taken
    · next call found =>
      split at taken
      · next closed =>
        rw [← Option.some.inj taken]
        exact inv_release inv found closed (release_releases (exists_queue inv found))
      · contradiction
    · contradiction
  | settle number =>
    rw [State.step] at taken
    split at taken
    · next call found =>
      split at taken
      · next released =>
        rw [← Option.some.inj taken]
        exact inv_settle inv found released (settle_settles state number call)
      · contradiction
    · contradiction

end Stepping

theorem inv_reachable {limits : Nat → Nat} {state : State}
    (reached : (system limits).Reachable state) : Inv limits state :=
  reached.invariant (inv_start limits) (inv_step limits)

end WebTsToolkit.AccessRouter.HookGate
