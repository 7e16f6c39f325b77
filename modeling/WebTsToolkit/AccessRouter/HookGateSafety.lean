import WebTsToolkit.AccessRouter.HookGateInvariant

set_option autoImplicit false

namespace WebTsToolkit.AccessRouter.HookGate

open Library

/-- The closest frame of a gate, at an origin or above it. -/
inductive Nearest (state : State) (gate : Nat) : Nat → Nat → Prop where
  | here {origin : Nat} {frame : HookFrame} (found : state.frame origin = some frame)
      (same : frame.gate = gate) : Nearest state gate origin origin
  | above {origin parent owner : Nat} {frame : HookFrame}
      (found : state.frame origin = some frame) (other : frame.gate ≠ gate)
      (up : frame.parent = some parent) (nearest : Nearest state gate parent owner) :
      Nearest state gate origin owner

def Open (state : State) (number : Nat) : Prop :=
  ∃ frame, state.frame number = some frame ∧ frame.isOpen = true

def Closed (state : State) (number : Nat) : Prop :=
  ∃ frame, state.frame number = some frame ∧ frame.isOpen = false

/-- A call is in a branch when the call of the branch admitted it, itself or through others. -/
inductive InBranch (state : State) : Nat → Nat → Prop where
  | self (number : Nat) : InBranch state number number
  | child {number owner branch : Nat}
      (owned : (state.calls[number]?).bind Call.owner = some owner)
      (inside : InBranch state owner branch) : InBranch state number branch

/-- A branch runs while some call in it holds a permit. -/
def Runs (state : State) (branch : Nat) : Prop :=
  ∃ number, InBranch state number branch ∧ (state.phase number).holds = true

/-- The branches that go through a queue. -/
def Branch (state : State) (queue : Queue) (number : Nat) : Prop :=
  (state.calls[number]?).map Call.queue = some queue

section Owners

variable {limits : Nat → Nat} {state : State}

theorem frame_parent (inv : Inv limits state) {number parent : Nat} {frame : HookFrame}
    (found : state.frame number = some frame) (up : frame.parent = some parent) :
    parent < number := by
  have outer : state.outer number = some { frame with children := .new 1 } := by
    rw [State.outer, found]
    rfl
  exact ((inv.frames number _ outer).parent parent up).1

theorem nearestFrame_none (state : State) (gate fuel : Nat) :
    state.nearestFrame gate fuel none = none := by
  cases fuel <;> rfl

/-- The walk through the parents ends at the closest frame; parents are older than their
children, which bounds the walk. -/
theorem nearestFrame_eq_some (inv : Inv limits state) (gate fuel : Nat) :
    ∀ origin owner, origin < fuel →
      (state.nearestFrame gate fuel (some origin) = some owner ↔
        Nearest state gate origin owner) := by
  induction fuel with
  | zero =>
    intro origin owner inside
    omega
  | succ fuel ih =>
    intro origin owner inside
    rw [State.nearestFrame]
    cases found : state.frame origin with
    | none =>
      constructor
      · intro none
        contradiction
      · intro nearest
        cases nearest with
        | here there | above there => rw [found] at there; contradiction
    | some frame =>
      by_cases same : frame.gate = gate
      · simp only [if_pos same, Option.some.injEq]
        constructor
        · intro here
          rw [← here]
          exact Nearest.here found same
        · intro nearest
          cases nearest with
          | here => rfl
          | above there other =>
            rw [found] at there
            rw [← Option.some.inj there] at other
            contradiction
      · simp only [if_neg same]
        cases up : frame.parent with
        | none =>
          rw [nearestFrame_none]
          constructor
          · intro none
            contradiction
          · intro nearest
            cases nearest with
            | here there same' =>
              rw [found] at there
              rw [← Option.some.inj there] at same'
              contradiction
            | above there other up' =>
              rw [found] at there
              rw [← Option.some.inj there, up] at up'
              contradiction
        | some parent =>
          have older := frame_parent inv found up
          rw [ih parent owner (by omega)]
          constructor
          · intro nearest
            exact Nearest.above found same up nearest
          · intro nearest
            cases nearest with
            | here there same' =>
              rw [found] at there
              rw [← Option.some.inj there] at same'
              contradiction
            | above there other up' nearest =>
              rw [found] at there
              rw [← Option.some.inj there, up] at up'
              rwa [Option.some.inj up']

/-- A call from a frame that is there goes through the closest frame of its gate, if that one
is open. -/
theorem ownerOf_eq_some (inv : Inv limits state) {gate : Nat} {context : Option Nat}
    (there : (context.all fun number => (state.frame number).isSome) = true) (owner : Nat) :
    state.ownerOf gate context = some owner ↔
      ∃ origin, context = some origin ∧ Nearest state gate origin owner ∧ Open state owner := by
  cases context with
  | none =>
    rw [State.ownerOf, nearestFrame_none]
    simp
  | some origin =>
    rw [Option.all_some, ← State.isSome_outer] at there
    have inside := ((inv.invoked origin).mp there).1
    rw [State.ownerOf, Option.filter_eq_some_iff, nearestFrame_eq_some inv gate _ _ _ inside]
    have isOpen : ((state.frame owner).map HookFrame.isOpen).getD false = true ↔
        Open state owner := by
      cases found : state.frame owner with
      | none | some frame => simp [Open, found]
    rw [isOpen]
    simp

/-- A closed frame is not skipped for an open one above it. -/
theorem ownerOf_closed (inv : Inv limits state) {gate origin owner : Nat}
    (there : ((some origin : Option Nat).all fun number => (state.frame number).isSome) = true)
    (nearest : Nearest state gate origin owner) (shut : Closed state owner) :
    state.ownerOf gate (some origin) = none := by
  cases found : state.ownerOf gate (some origin) with
  | none => rfl
  | some other =>
    obtain ⟨_, same, nearest', frame, stored, isOpen⟩ :=
      (ownerOf_eq_some inv there other).mp found
    rw [← Option.some.inj same] at nearest'
    have inside : origin < origin + 1 := by omega
    have here := (nearestFrame_eq_some inv gate _ origin owner inside).mpr nearest
    have here' := (nearestFrame_eq_some inv gate _ origin other inside).mpr nearest'
    rw [here, Option.some.injEq] at here'
    obtain ⟨frame', stored', isShut⟩ := shut
    rw [here', stored] at stored'
    rw [← Option.some.inj stored', isOpen] at isShut
    contradiction

/-- While a call is not settled, its owner runs or waits for it. -/
theorem owner_waits (inv : Inv limits state) {number owner : Nat}
    (owned : (state.calls[number]?).bind Call.owner = some owner)
    (live : state.phase number ≠ .settled) :
    state.phase owner = .running ∨ state.phase owner = .draining := by
  obtain ⟨call, found, owned'⟩ := Option.bind_eq_some_iff.mp owned
  have there := ((inv.calls number call found).owner owner owned').2
  have invoked := ((inv.invoked owner).mp there).2
  obtain ⟨frame, outer⟩ := Option.isSome_iff_exists.mp there
  have ok := inv.frames owner frame outer
  have waited : 0 < (unsettled state owner).card :=
    Finset.card_pos.mpr ⟨number, mem_unsettled.mpr ⟨owned, live⟩⟩
  have notEnded : (state.phase owner).ended ≠ true := by
    intro ended
    have none := ok.ended ended
    have counted := ok.pending
    omega
  cases phase : state.phase owner <;> simp_all [Phase.invoked, Phase.ended]

/-- A branch that runs holds a permit itself. -/
theorem Runs.holds (inv : Inv limits state) {branch : Nat} (runs : Runs state branch) :
    (state.phase branch).holds = true := by
  obtain ⟨number, inside, held⟩ := runs
  induction inside with
  | self number => exact held
  | @child number owner _ owned _ ih =>
    apply ih
    have live : state.phase number ≠ .settled := by
      intro settled
      rw [settled] at held
      contradiction
    rcases owner_waits inv owned live with running | draining
    · rw [running]
      rfl
    · rw [draining]
      rfl

end Owners

/-- What holds of the gates at any time. A call with a permit, and each branch in which there is
one, counts for its queue. -/
structure Safe (limits : Nat → Nat) (state : State) : Prop where
  /-- At most `limit` root chains of a gate are admitted at once. -/
  chains : ∀ gate (roots : Finset Nat),
    (∀ root ∈ roots, Branch state (.roots gate) root ∧ Runs state root) →
    roots.card ≤ limits gate
  /-- Within one frame at most one branch runs. -/
  branches : ∀ frame one other, Branch state (.children frame) one →
    Branch state (.children frame) other → Runs state one → Runs state other → one = other
  /-- A call without its permit has no child left. -/
  settled : ∀ number child, (state.phase number).holds = false →
    (state.calls[child]?).bind Call.owner = some number → state.phase child = .settled
  /-- The counter of an admission is the number of permits held. -/
  active : ∀ queue, (state.admission queue).activeWork = (holders state queue).card
  /-- The waiters of an admission are the waiting calls, the oldest first. -/
  waiting : ∀ queue number, number ∈ (state.admission queue).waiters ↔ WaitsAt state queue number
  oldest : ∀ queue, (state.admission queue).waiters.Pairwise (· < ·)

/-- The permit of a call goes to the oldest waiter, or back to the pool when nobody waits. -/
structure HandsOver (state next : State) (queue : Queue) (number : Nat) : Prop where
  oldest : ∀ head, WaitsAt state queue head → (∀ other, WaitsAt state queue other → head ≤ other) →
    holders next queue = insert head ((holders state queue).erase number) ∧
    (next.admission queue).activeWork = (state.admission queue).activeWork
  returned : (∀ other, ¬WaitsAt state queue other) →
    holders next queue = (holders state queue).erase number ∧
    (next.admission queue).activeWork + 1 = (state.admission queue).activeWork

/-- A frame gives its permit up after all its children. -/
def ReleasesLast (state : State) : Prop :=
  ∀ number next, state.step (.release number) = some next →
    ∃ call, state.calls[number]? = some call ∧ number ∈ holders state call.queue ∧
      (∀ child, (state.calls[child]?).bind Call.owner = some number →
        state.phase child = .settled) ∧
      HandsOver state next call.queue number

/-- A call from a closed frame becomes a root; a call becomes a child of the closest frame of its
gate only, and only while that is open. -/
def OwnedByNearest (state : State) : Prop :=
  ∀ gate context next, state.step (.run gate context) = some next →
    (∀ origin owner, context = some origin → Nearest state gate origin owner →
      Closed state owner → next.calls = state.calls ++ [{ gate, context, owner := none }]) ∧
    ∀ call, next.calls = state.calls ++ [call] → ∀ owner, call.owner = some owner →
      ∃ origin, context = some origin ∧ Nearest state gate origin owner ∧ Open state owner

section Safety

variable {limits : Nat → Nat} {state next : State}

theorem holders_of_runs (inv : Inv limits state) {queue : Queue} {number : Nat}
    (branch : Branch state queue number) (runs : Runs state number) :
    number ∈ holders state queue :=
  mem_holders.mpr ⟨branch, runs.holds inv⟩

theorem Inv.safe (inv : Inv limits state) : Safe limits state where
  chains := by
    intro gate roots running
    have held : roots ⊆ holders state (.roots gate) := by
      intro root member
      have both := running root member
      exact holders_of_runs inv both.1 both.2
    exact (Finset.card_le_card held).trans (inv.accounted (.roots gate)).fair.bounded
  branches := by
    intro frame one other here there runs runs'
    have bounded : (holders state (.children frame)).card ≤ 1 :=
      (inv.accounted (.children frame)).fair.bounded
    apply Finset.card_le_one.mp bounded
    · exact holders_of_runs inv here runs
    · exact holders_of_runs inv there runs'
  settled := by
    intro number child gone owned
    by_contra live
    rcases owner_waits inv owned live with running | draining
    · rw [running] at gone
      contradiction
    · rw [draining] at gone
      contradiction
  active := by
    intro queue
    exact (inv.accounted queue).represents.active
  waiting := by
    intro queue
    exact (inv.accounted queue).waits
  oldest := by
    intro queue
    exact (inv.accounted queue).oldest

theorem Releases.handsOver {number : Nat} {call : Call} {limit : Nat}
    (releases : Releases state next number call)
    (before : Accounted limit state call.queue) (after : Accounted limit next call.queue)
    (held : HoldsAt state call.queue number) : HandsOver state next call.queue number := by
  have pool := releases.pool before held
  have active := before.represents.active
  have active' := after.represents.active
  have member : number ∈ holders state call.queue := mem_holders.mpr held
  have holders' : holders next call.queue = ((poolOf state call.queue).release number).holders :=
    congrArg PermitPool.holders pool
  have queue : (poolOf state call.queue).queue = (state.admission call.queue).waiters := rfl
  constructor
  · intro head waits least
    have listed := (before.waits head).mpr waits
    cases waiters : (state.admission call.queue).waiters with
    | nil =>
      rw [waiters] at listed
      cases listed
    | cons first rest =>
      have first' : WaitsAt state call.queue first := by
        apply (before.waits first).mp
        rw [waiters]
        exact List.mem_cons_self
      have sorted := before.oldest
      rw [waiters, List.pairwise_cons] at sorted
      rw [waiters] at listed
      have same : first = head := by
        rcases List.mem_cons.mp listed with same | later
        · exact same.symm
        · have older := sorted.1 head later
          have notOlder := least first first'
          omega
      subst same
      have count := PermitPool.card_release member (queue.trans waiters) before.fair
      constructor
      · rw [holders', PermitPool.release, queue, waiters]
        rfl
      · rw [active', pool, count, ← active]
  · intro nobody
    have none : (state.admission call.queue).waiters = [] := by
      apply List.eq_nil_iff_forall_not_mem.mpr
      intro other listed
      exact nobody other ((before.waits other).mp listed)
    have erased : holders next call.queue = (holders state call.queue).erase number := by
      rw [holders', PermitPool.release, queue, none]
      rfl
    refine ⟨erased, ?_⟩
    have some : 0 < (holders state call.queue).card := Finset.card_pos.mpr ⟨number, member⟩
    have left : (next.admission call.queue).activeWork = (holders next call.queue).card := active'
    have stood : (state.admission call.queue).activeWork = (holders state call.queue).card := active
    rw [erased, Finset.card_erase_of_mem member] at left
    omega

theorem Inv.releasesLast (inv : Inv limits state) : ReleasesLast state := by
  intro number next taken
  have kept := inv_step limits state _ next inv taken
  rw [State.step] at taken
  split at taken
  · next call found =>
    split at taken
    · next closed =>
      have next' := Option.some.inj taken
      have releases : Releases state next number call := by
        rw [← next']
        exact release_releases (exists_queue inv found)
      have held := holdsAt_of_closed found closed
      refine ⟨call, found, mem_holders.mpr held, ?_, ?_⟩
      · intro child owned
        by_contra live
        rcases owner_waits inv owned live with running | draining
        · rw [closed] at running
          contradiction
        · rw [closed] at draining
          contradiction
      · exact releases.handsOver (inv.accounted call.queue) (kept.accounted call.queue) held
    · contradiction
  · contradiction

theorem Inv.ownedByNearest (inv : Inv limits state) : OwnedByNearest state := by
  intro gate context next taken
  rw [State.step] at taken
  split at taken
  · next there =>
    rw [← Option.some.inj taken]
    rcases run_cases state gate context with ⟨owner, owned, _, same⟩ | enters
    · rw [same]
      constructor
      · intro origin other within nearest shut
        rw [within] at there owned
        rw [ownerOf_closed inv there nearest shut] at owned
        contradiction
      · intro call grown
        have length := congrArg List.length grown
        rw [List.length_append, List.length_singleton] at length
        omega
    · have added := enters.calls
      constructor
      · intro origin owner within nearest shut
        rw [added]
        subst within
        rw [ownerOf_closed inv there nearest shut]
      · intro call grown owner owned
        rw [added] at grown
        have last := List.append_cancel_left grown
        have same := (List.cons.inj last).1
        rw [← same] at owned
        exact (ownerOf_eq_some inv there owner).mp owned
  · contradiction

end Safety

/-- Safety of the hook gates under any interleaving of root calls, nested calls, completions and
failures. -/
theorem hook_admission_safe (limits : Nat → Nat) {state : State}
    (reached : (system limits).Reachable state) :
    Safe limits state ∧ ReleasesLast state ∧ OwnedByNearest state := by
  have inv := inv_reachable reached
  exact ⟨inv.safe, inv.releasesLast, inv.ownedByNearest⟩

/-- A root with a child, at one permit for each gate. -/
def nestedCall : State :=
  (((State.start fun _ => 1).run 0 none).invoke 0 { gate := 0, context := none, owner := none }).run
    0 (some 0)

theorem hook_admission_safe_nestedCall :
    Safe (fun _ => 1) nestedCall ∧ ReleasesLast nestedCall ∧ OwnedByNearest nestedCall := by
  apply hook_admission_safe
  have root : (system fun _ => 1).Reachable ((State.start fun _ => 1).run 0 none) :=
    .step (.run 0 none) .start rfl
  have invoked := root.step (.invoke 0) rfl
  exact invoked.step (.run 0 (some 0)) rfl

end WebTsToolkit.AccessRouter.HookGate
