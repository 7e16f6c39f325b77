import Mathlib.Data.List.Count
import WebTsToolkit.PdfReader.PageResources

set_option autoImplicit false

namespace WebTsToolkit.PdfReader.PageResources

open Library

variable {PageNumber Proxy : Type} {state next : State PageNumber Proxy}

/-- The owner counts towards the lifetime at the index. -/
def Retained.owns (index : Nat) (retained : Retained Proxy) : Bool :=
  retained.lifetime = index && !retained.released

variable {α : Type} {other : Nat} {index : Nat} {lifetime : PageLifetime PageNumber Proxy}
  {retained : Retained Proxy} {pageNumber : PageNumber}
  {before after : PageLifetime PageNumber Proxy} {list : List α}

theorem modify_cases {index other : Nat} {change : α → α} {value : α}
    (found : (list.modify index change)[other]? = some value) :
    (index = other ∧ ∃ before, list[index]? = some before ∧ change before = value) ∨
      index ≠ other ∧ list[other]? = some value := by
  by_cases same : index = other
  · subst same
    rw [List.getElem?_modify_eq] at found
    obtain ⟨before, here, eq⟩ := Option.map_eq_some_iff.mp found
    exact .inl ⟨rfl, before, here, eq⟩
  · rw [List.getElem?_modify_ne _ _ same] at found
    exact .inr ⟨same, found⟩

theorem append_cases {last value : α} (found : (list ++ [last])[other]? = some value) :
    list[other]? = some value ∨ other = list.length ∧ last = value := by
  rcases Nat.lt_trichotomy other list.length with before | same | after
  · rw [List.getElem?_append_left before] at found
    exact .inl found
  · rw [same, List.getElem?_concat_length] at found
    exact .inr ⟨same, Option.some.inj found⟩
  · have beyond : (list ++ [last]).length ≤ other := by
      rw [List.length_append]
      exact after
    rw [List.getElem?_eq_none beyond] at found
    cases found

theorem set_cases {index other : Nat} {change value : α}
    (found : (list.set index change)[other]? = some value) :
    (index = other ∧ change = value) ∨ index ≠ other ∧ list[other]? = some value := by
  by_cases same : index = other
  · subst same
    rw [List.getElem?_set_self'] at found
    obtain ⟨_, _, eq⟩ := Option.map_eq_some_iff.mp found
    exact .inl ⟨rfl, eq⟩
  · rw [List.getElem?_set_ne same] at found
    exact .inr ⟨same, found⟩

theorem countP_replace {p : α → Bool} {before : α} (found : list[index]? = some before)
    (after : α) :
    (list.set index after).countP p + (p before).toNat = list.countP p + (p after).toNat := by
  obtain ⟨bound, here⟩ := List.getElem?_eq_some_iff.mp found
  have counted := List.boole_getElem_le_countP (p := p) bound
  rw [here] at counted
  rw [List.countP_set bound, here]
  cases p after <;> cases was : p before <;>
    simp only [was, if_true, Bool.false_eq_true, if_false, Bool.toNat_true, Bool.toNat_false]
      at counted ⊢
  all_goals omega

theorem countP_retain (state : State PageNumber Proxy) (index other : Nat)
    (holder : Holder Proxy) :
    (state.retain index holder).retained.countP (Retained.owns other) =
      state.retained.countP (Retained.owns other) + if index = other then 1 else 0 := by
  simp [State.retain, List.countP_append, Retained.owns, List.countP_singleton]

variable [DecidableEq PageNumber]

/-- A lifetime agrees with its owners and its slot. -/
structure Entry (state : State PageNumber Proxy) (index : Nat)
    (lifetime : PageLifetime PageNumber Proxy) : Prop where
  sound : lifetime.Sound
  owned : lifetime.owners = state.retained.countP (Retained.owns index)
  busy : lifetime.closed = false → 0 < lifetime.owners
  slot : lifetime.closed = false → state.pages.lookup lifetime.pageNumber = some index
  ended : state.destroyed = false → lifetime.closed = true → lifetime.owners = 0

/-- The owners, the slots and the lifetimes agree. -/
structure Ok (state : State PageNumber Proxy) : Prop where
  entry : ∀ (index : Nat) (lifetime : PageLifetime PageNumber Proxy),
    state.lifetimes[index]? = some lifetime → Entry state index lifetime
  known : ∀ retained ∈ state.retained, retained.lifetime < state.lifetimes.length
  filled : ∀ pageNumber index, state.pages.lookup pageNumber = some index →
    ∃ lifetime, state.lifetimes[index]? = some lifetime ∧ lifetime.closed = false ∧
      lifetime.pageNumber = pageNumber
  unsettled : ∀ retained ∈ state.retained, ∀ accepts, retained.holder = .promise accepts none →
    retained.released = false

theorem Ok.single (ok : Ok state) (first second : Nat) (one other : PageLifetime PageNumber Proxy)
    (here : state.lifetimes[first]? = some one) (there : state.lifetimes[second]? = some other)
    (opened : one.closed = false) (too : other.closed = false)
    (same : one.pageNumber = other.pageNumber) : first = second := by
  have left := (ok.entry first one here).slot opened
  have right := (ok.entry second other there).slot too
  rw [same, right] at left
  exact (Option.some.inj left).symm

/-- A lifetime has an owner while one of its functions is not called. -/
theorem Ok.owners_pos (ok : Ok state) (member : retained ∈ state.retained)
    (held : retained.released = false)
    (here : state.lifetimes[retained.lifetime]? = some lifetime) : 0 < lifetime.owners := by
  rw [(ok.entry _ _ here).owned]
  apply List.countP_pos_iff.mpr
  exact ⟨retained, member, by simp [Retained.owns, held]⟩

theorem Ok.owner (ok : Ok state) (found : state.retained[index]? = some retained) :
    ∃ lifetime, state.lifetimes[retained.lifetime]? = some lifetime :=
  ⟨_, List.getElem?_eq_getElem (ok.known retained (List.mem_of_getElem? found))⟩

theorem Ok.open_of_held (ok : Ok state) (member : retained ∈ state.retained)
    (held : retained.released = false)
    (here : state.lifetimes[retained.lifetime]? = some lifetime) :
    lifetime.closed = false ∨ state.destroyed = true := by
  have some := ok.owners_pos member held here
  by_contra neither
  simp only [not_or, Bool.not_eq_false, Bool.not_eq_true] at neither
  have none := (ok.entry _ lifetime here).ended neither.2 neither.1
  omega

theorem Ok.periods (ok : Ok state) (alive : state.destroyed = false) (pageNumber : PageNumber) :
    state.InUse pageNumber ↔
      ∃ lifetime ∈ state.lifetimes, lifetime.pageNumber = pageNumber ∧
        lifetime.closed = false := by
  constructor
  · rintro ⟨retained, member, held, lifetime, here, number⟩
    refine ⟨lifetime, List.mem_of_getElem? here, number, ?_⟩
    have alternatives := ok.open_of_held member held here
    simpa [alive] using alternatives
  · rintro ⟨lifetime, member, number, opened⟩
    obtain ⟨index, here⟩ := List.mem_iff_getElem?.mp member
    have entry := ok.entry index lifetime here
    have some := entry.busy opened
    rw [entry.owned] at some
    obtain ⟨retained, holds, owns⟩ := List.countP_pos_iff.mp some
    simp only [Retained.owns, Bool.and_eq_true, decide_eq_true_eq, Bool.not_eq_true'] at owns
    exact ⟨retained, holds, owns.2, lifetime, by rw [owns.1]; exact here, number⟩

/-- A lifetime that a step does not touch. -/
theorem Entry.frame (entry : Entry state index lifetime)
    (owners : next.retained.countP (Retained.owns index) =
      state.retained.countP (Retained.owns index)) (slots : lifetime.closed = false →
      next.pages.lookup lifetime.pageNumber = state.pages.lookup lifetime.pageNumber)
    (destroyed : next.destroyed = false → state.destroyed = false) :
    Entry next index lifetime where
  __ := entry
  owned := entry.owned.trans owners.symm
  slot := fun opened => (slots opened).trans (entry.slot opened)
  ended := fun alive => entry.ended (destroyed alive)

theorem lookup_filter (slots : List (PageNumber × Nat)) (gone pageNumber : PageNumber) :
    (slots.filter fun slot => slot.1 ≠ gone).lookup pageNumber =
      if pageNumber = gone then none else slots.lookup pageNumber := by
  induction slots with
  | nil => simp
  | cons slot slots ih =>
    by_cases kept : slot.1 = gone
    · rw [List.filter_cons_of_neg (by simpa using kept), ih, List.lookup_cons, kept]
      by_cases same : pageNumber = gone
      · simp [same]
      · simp only [same, if_false, beq_eq_false_iff_ne.mpr same]
    · rw [List.filter_cons_of_pos (by simpa using kept), List.lookup_cons, ih, List.lookup_cons]
      by_cases same : pageNumber = slot.1
      · simp only [same, beq_self_eq_true, kept, if_false]
      · simp only [beq_eq_false_iff_ne.mpr same]

theorem Ok.retain (ok : Ok state) (here : state.lifetimes[index]? = some lifetime)
    (opened : lifetime.closed = false ∨ state.destroyed = true) (holder : Holder Proxy) :
    Ok (state.retain index holder) := by
  constructor
  · intro other after found
    have counted := countP_retain state index other holder
    rcases modify_cases found with ⟨rfl, before, was, rfl⟩ | ⟨apart, was⟩
    · have entry := ok.entry _ _ was
      rw [here] at was
      have same := Option.some.inj was
      subst same
      refine ⟨entry.sound.of_owners _, ?_, fun _ => Nat.succ_pos _, entry.slot, ?_⟩
      · simp [PageLifetime.retain, entry.owned, counted]
      · intro alive closed
        have ended : lifetime.closed = true := closed
        have alive : state.destroyed = false := alive
        simp [ended, alive] at opened
    · exact (ok.entry _ _ was).frame (by simpa [apart] using counted) (fun _ => rfl) id
  · intro retained member
    simp only [State.retain, List.length_modify]
    rcases List.mem_append.mp member with member | member
    · exact ok.known retained member
    · rw [List.mem_singleton.mp member]
      exact (List.getElem?_eq_some_iff.mp here).1
  · intro pageNumber other found
    obtain ⟨before, was, open', number⟩ := ok.filled pageNumber other found
    simp only [State.retain, List.getElem?_modify, was]
    by_cases same : index = other
    · exact ⟨before.retain, by simp [same], open', number⟩
    · exact ⟨before, by simp [same], open', number⟩
  · intro retained member accepts pending
    rcases List.mem_append.mp member with member | member
    · exact ok.unsettled retained member accepts pending
    · rw [List.mem_singleton.mp member]

/-- The first lease of a page number that has no slot. -/
theorem Ok.reserve (ok : Ok state) (free : state.pages.lookup pageNumber = none) :
    Ok (State.retain
      { state with
        lifetimes := state.lifetimes ++ [PageLifetime.opened pageNumber]
        pages := state.pages ++ [(pageNumber, state.lifetimes.length)] }
      state.lifetimes.length (.lease : Holder Proxy)) := by
  have counted (other : Nat) := countP_retain
    { state with
      lifetimes := state.lifetimes ++ [PageLifetime.opened pageNumber]
      pages := state.pages ++ [(pageNumber, state.lifetimes.length)] }
    state.lifetimes.length other .lease
  have unowned : state.retained.countP (Retained.owns state.lifetimes.length) = 0 := by
    apply List.countP_eq_zero.mpr
    intro retained member
    have bound := ok.known retained member
    simp [Retained.owns]
    omega
  constructor
  · intro other after found
    rcases modify_cases found with ⟨rfl, before, was, rfl⟩ | ⟨apart, was⟩
    · simp at was
      subst was
      refine ⟨⟨by simp [PageLifetime.retain, PageLifetime.opened], ?_⟩, ?_, ?_, ?_, ?_⟩
      · intro closed
        cases closed
      · rw [counted, unowned]
        simp [PageLifetime.retain, PageLifetime.opened]
      · intro _
        exact Nat.succ_pos _
      · intro _
        simp [State.retain, PageLifetime.retain, PageLifetime.opened, List.lookup_append, free]
      · intro _ closed
        cases closed
    · rcases append_cases was with was | ⟨wrong, _⟩
      · have entry := ok.entry _ _ was
        apply entry.frame
        · simpa [apart] using counted other
        · intro opened
          simp [State.retain, List.lookup_append, entry.slot opened]
        · exact id
      · exact absurd wrong.symm apart
  · intro retained member
    simp only [State.retain, List.length_modify, List.length_append, List.length_singleton]
    rcases List.mem_append.mp member with member | member
    · have bound := ok.known retained member
      omega
    · rw [List.mem_singleton.mp member]
      exact Nat.lt_succ_self _
  · intro number other found
    simp only [State.retain, List.lookup_append] at found ⊢
    rcases slot : state.pages.lookup number with _ | index
    · rw [slot, Option.none_or, List.lookup_cons, List.lookup_nil] at found
      by_cases same : number = pageNumber
      · simp only [same, beq_self_eq_true, Option.some.injEq] at found
        subst found
        exact ⟨(PageLifetime.opened pageNumber).retain, by simp, rfl, same.symm⟩
      · simp only [beq_eq_false_iff_ne.mpr same] at found
        cases found
    · rw [slot, Option.some_or] at found
      obtain ⟨before, was, opened, named⟩ := ok.filled number index slot
      have bound := (List.getElem?_eq_some_iff.mp was).1
      rw [← Option.some.inj found, List.getElem?_modify_ne _ _ (by omega),
        List.getElem?_append_left bound]
      exact ⟨before, was, opened, named⟩
  · intro retained member accepts pending
    rcases List.mem_append.mp member with member | member
    · exact ok.unsettled retained member accepts pending
    · rw [List.mem_singleton.mp member]

theorem Ok.acquire (ok : Ok state) (pageNumber : PageNumber) : Ok (state.acquire pageNumber) := by
  unfold State.acquire
  split
  · rename_i index slot
    obtain ⟨lifetime, here, opened, -⟩ := ok.filled pageNumber index slot
    exact ok.retain here (.inl opened) .lease
  · rename_i free
    exact ok.reserve free

theorem Ok.settle (ok : Ok state) {promise lifetime : Nat} {released accepts : Bool}
    (page : Option Proxy)
    (found : state.retained[promise]? = some ⟨lifetime, released, .promise accepts none⟩) :
    Ok { state with
      retained := state.retained.set promise
        ⟨lifetime, released, .promise accepts (some page)⟩ } := by
  have counted (other : Nat) : (state.retained.set promise
      ⟨lifetime, released, .promise accepts (some page)⟩).countP (Retained.owns other) =
        state.retained.countP (Retained.owns other) :=
    Nat.add_right_cancel (countP_replace found _)
  constructor
  · intro other after was
    exact (ok.entry _ _ was).frame (counted other) (fun _ => rfl) id
  · intro retained member
    rcases List.mem_or_eq_of_mem_set member with member | rfl
    · exact ok.known retained member
    · have member := List.mem_of_getElem? found
      apply ok.known _ member
  · exact ok.filled
  · intro retained member other pending
    rcases List.mem_or_eq_of_mem_set member with member | rfl
    · exact ok.unsettled retained member other pending
    · simp at pending

theorem Ok.reacted [DecidableEq Proxy] (ok : Ok state) (index : Nat) (accepts : Bool)
    (page : Option Proxy) :
    Ok { state with lifetimes := state.lifetimes.modify index (·.reacted accepts page) } := by
  constructor
  · intro other after found
    rcases modify_cases found with ⟨rfl, before, was, rfl⟩ | ⟨-, was⟩
    · have entry := ok.entry _ _ was
      obtain ⟨number, owners, closed⟩ := before.reacted_same accepts page
      refine ⟨entry.sound.reacted accepts page, ?_, ?_, ?_, ?_⟩
      · rw [owners, entry.owned]
      · rw [closed, owners]
        exact entry.busy
      · rw [closed, number]
        exact entry.slot
      · rw [closed, owners]
        exact entry.ended
    · exact (ok.entry _ _ was).frame rfl (fun _ => rfl) id
  · intro retained member
    simpa using ok.known retained member
  · intro pageNumber other found
    obtain ⟨before, was, opened, number⟩ := ok.filled pageNumber other found
    simp only [List.getElem?_modify, was]
    by_cases same : index = other
    · obtain ⟨kept, -, closed⟩ := before.reacted_same accepts page
      exact ⟨_, by simp [same], closed.trans opened, kept.trans number⟩
    · exact ⟨before, by simp [same], opened, number⟩
  · exact ok.unsettled

/-- The state after the last owner of the lifetime, or another one, is gone. -/
theorem disown_eq [DecidableEq Proxy] (here : state.lifetimes[index]? = some lifetime) :
    (state.disown index).lifetimes = state.lifetimes.set index lifetime.disowned ∧
      (state.disown index).retained = state.retained ∧
      (state.disown index).destroyed = state.destroyed ∧
      (lifetime.Last → (state.disown index).pages =
        state.pages.filter fun slot => slot.1 ≠ lifetime.pageNumber) ∧
      (¬ lifetime.Last → (state.disown index).pages = state.pages) := by
  by_cases last : lifetime.Last
  · have ends : state.disown index =
        { state with
          lifetimes := state.lifetimes.set index
            (PageLifetime.close { lifetime with owners := lifetime.owners - 1 })
          pages := state.pages.filter fun slot => slot.1 ≠ lifetime.pageNumber } := by
      unfold State.disown
      rw [here]
      exact if_pos last
    rw [ends, PageLifetime.disowned_last last]
    exact ⟨rfl, rfl, rfl, fun _ => rfl, fun others => absurd last others⟩
  · have stays : state.disown index =
        { state with
          lifetimes := state.lifetimes.set index
            { lifetime with owners := lifetime.owners - 1 } } := by
      unfold State.disown
      rw [here]
      exact if_neg last
    rw [stays, PageLifetime.disowned_not_last last]
    exact ⟨rfl, rfl, rfl, fun now => absurd now last, fun _ => rfl⟩

/-- A function that `retain` returned is called for the first time. -/
theorem Ok.release [DecidableEq Proxy] (ok : Ok state)
    (found : state.retained[index]? = some retained) (held : retained.released = false)
    (settled : ∀ accepts, retained.holder ≠ .promise accepts none) :
    Ok (state.release index retained) := by
  have member := List.mem_of_getElem? found
  obtain ⟨lifetime, here⟩ := ok.owner found
  have was := ok.entry _ _ here
  have owned := ok.owners_pos member held here
  have eq : state.release index retained = State.disown
      { state with retained := state.retained.set index { retained with released := true } }
      retained.lifetime := by
    simp [State.release, held]
  let told : State PageNumber Proxy :=
    { state with retained := state.retained.set index { retained with released := true } }
  have same : told.lifetimes[retained.lifetime]? = some lifetime := here
  obtain ⟨lifetimes, owners, destroyed, last, others⟩ := disown_eq same
  rw [eq]
  generalize told.disown retained.lifetime = next at lifetimes owners destroyed last others
  have counted (other : Nat) : next.retained.countP (Retained.owns other) +
      (if retained.lifetime = other then 1 else 0) =
        state.retained.countP (Retained.owns other) := by
    have replaced := countP_replace (p := Retained.owns other) found
      { retained with released := true }
    have now : Retained.owns other { retained with released := true } = false := by
      simp [Retained.owns]
    rw [now] at replaced
    rw [owners]
    by_cases same : retained.lifetime = other
    · have before : Retained.owns other retained = true := by simp [Retained.owns, held, same]
      rw [before] at replaced
      rw [if_pos same]
      exact replaced
    · have before : Retained.owns other retained = false := by simp [Retained.owns, same]
      rw [before] at replaced
      rw [if_neg same]
      exact replaced
  constructor
  · intro other after at'
    rw [lifetimes] at at'
    rcases set_cases at' with ⟨rfl, rfl⟩ | ⟨apart, before⟩
    · have one := counted retained.lifetime
      rw [if_pos rfl, ← was.owned] at one
      refine ⟨was.sound.disowned, ?_, ?_, ?_, ?_⟩
      · rw [PageLifetime.disowned_owners]
        omega
      · intro opened
        by_cases ends : lifetime.Last
        · rw [PageLifetime.disowned_last ends] at opened
          simp at opened
        · rw [PageLifetime.disowned_not_last ends] at opened ⊢
          have left : ¬ lifetime.owners - 1 = 0 := fun none => ends ⟨none, opened⟩
          exact Nat.pos_of_ne_zero left
      · intro opened
        by_cases ends : lifetime.Last
        · rw [PageLifetime.disowned_last ends] at opened
          simp at opened
        · rw [PageLifetime.disowned_not_last ends] at opened ⊢
          rw [others ends]
          exact was.slot opened
      · intro alive closed
        by_cases ends : lifetime.Last
        · rw [PageLifetime.disowned_last ends]
          simpa using ends.1
        · rw [PageLifetime.disowned_not_last ends] at closed ⊢
          have none := was.ended (destroyed ▸ alive) closed
          simp [none]
    · have entry := ok.entry _ _ before
      apply entry.frame
      · simpa [apart] using counted other
      · intro opened
        by_cases ends : lifetime.Last
        · rw [last ends, lookup_filter, if_neg]
          intro same
          exact apart (ok.single _ _ _ _ here before ends.2 opened same.symm)
        · rw [others ends]
      · intro alive
        rw [← destroyed]
        exact alive
  · intro other holds
    rw [owners] at holds
    rw [lifetimes, List.length_set]
    rcases List.mem_or_eq_of_mem_set holds with holds | rfl
    · exact ok.known other holds
    · exact ok.known retained member
  · intro pageNumber other slot
    by_cases ends : lifetime.Last
    · rw [last ends, lookup_filter] at slot
      split at slot
      · cases slot
      · rename_i named
        obtain ⟨before, at', opened, number⟩ := ok.filled pageNumber other slot
        refine ⟨before, ?_, opened, number⟩
        have apart : retained.lifetime ≠ other := by
          intro same
          rw [same, at'] at here
          rw [Option.some.inj here] at number
          exact named number.symm
        rw [lifetimes, List.getElem?_set_ne apart]
        exact at'
    · rw [others ends] at slot
      obtain ⟨before, at', opened, number⟩ := ok.filled pageNumber other slot
      rw [lifetimes]
      by_cases same : retained.lifetime = other
      · subst same
        rw [here] at at'
        have alike := Option.some.inj at'
        subst alike
        refine ⟨_, List.getElem?_set_self (ok.known retained member), ?_, ?_⟩
        · rw [PageLifetime.disowned_not_last ends]
          exact opened
        · rw [PageLifetime.disowned_pageNumber]
          exact number
      · rw [List.getElem?_set_ne same]
        exact ⟨before, at', opened, number⟩
  · intro other holds accepts pending
    rw [owners] at holds
    rcases List.mem_or_eq_of_mem_set holds with holds | rfl
    · exact ok.unsettled other holds accepts pending
    · exact absurd pending (settled accepts)

theorem mem_of_lookup {slots : List (PageNumber × Nat)}
    (found : slots.lookup pageNumber = some index) : (pageNumber, index) ∈ slots := by
  obtain ⟨before, after, rfl, -⟩ := List.lookup_eq_some_iff.mp found
  simp

/-- After `destroy` every lifetime is closed. -/
theorem Ok.swept [DecidableEq Proxy] (ok : Ok state)
    (here : state.lifetimes[index]? = some before)
    (found : state.destroy.lifetimes[index]? = some after) :
    Swept before after ∧ after.closed = true := by
  have entry := ok.entry index before here
  obtain ⟨other, there, swept, closed⟩ := sweep_cases state.pages here entry.sound
  have same : some other = some after := there.symm.trans found
  cases same
  refine ⟨swept, ?_⟩
  rcases was : before.closed with _ | _
  · exact closed ⟨_, mem_of_lookup (entry.slot was), rfl⟩
  · rw [swept.closed was]
    exact was

theorem Ok.destroy [DecidableEq Proxy] (ok : Ok state) : Ok state.destroy := by
  have long := length_sweep state.pages state.lifetimes
  constructor
  · intro index after found
    have bound : index < state.lifetimes.length := by
      rw [← long]
      exact (List.getElem?_eq_some_iff.mp found).1
    have here := List.getElem?_eq_getElem bound
    obtain ⟨swept, closed⟩ := ok.swept here found
    have entry := ok.entry _ _ here
    refine ⟨swept.sound, swept.owners.trans entry.owned, ?_, ?_, ?_⟩
    · intro opened
      rw [closed] at opened
      cases opened
    · intro opened
      rw [closed] at opened
      cases opened
    · intro alive
      cases alive
  · intro retained member
    have bound := ok.known retained member
    rw [← long] at bound
    exact bound
  · intro pageNumber index found
    cases found
  · exact ok.unsettled

variable [DecidableEq Proxy]

theorem Ok.step (ok : Ok state) {event : Event PageNumber Proxy}
    (taken : PageResources.step state event = some next) : Ok next := by
  cases event with
  | acquire pageNumber =>
    rw [← Option.some.inj taken]
    exact ok.acquire pageNumber
  | release lease =>
    simp only [PageResources.step] at taken
    split at taken
    · rename_i lifetime released found
      rw [← Option.some.inj taken]
      cases released
      · exact ok.release found rfl (by simp)
      · exact ok
    · cases taken
  | track lease accepts =>
    simp only [PageResources.step] at taken
    split at taken
    · rename_i lifetime found
      have member := List.mem_of_getElem? found
      obtain ⟨lifetime, here⟩ := ok.owner found
      rw [← Option.some.inj taken]
      exact ok.retain here (ok.open_of_held member rfl here) _
    · cases taken
  | settle promise page =>
    simp only [PageResources.step] at taken
    split at taken
    · rename_i found
      rw [← Option.some.inj taken]
      exact ok.settle page found
    · cases taken
  | react promise =>
    simp only [PageResources.step] at taken
    split at taken
    · rename_i lifetime accepts page found
      rw [← Option.some.inj taken]
      exact (ok.reacted lifetime accepts page).release found rfl (by simp)
    · cases taken
  | destroy =>
    rw [← Option.some.inj taken]
    exact ok.destroy

theorem Ok.of_reachable
    (reached :
      (system : TransitionSystem (State PageNumber Proxy) (Event PageNumber Proxy)).Reachable
        state) : Ok state := by
  apply reached.invariant
  · constructor <;> simp [system]
  · intro state event next ok taken
    exact ok.step taken

/-- The first call of a function that `retain` returned. -/
theorem release_eq (held : retained.released = false)
    (here : state.lifetimes[retained.lifetime]? = some lifetime) :
    (state.release index retained).lifetimes =
        state.lifetimes.set retained.lifetime lifetime.disowned ∧
      (state.release index retained).destroyed = state.destroyed := by
  let told : State PageNumber Proxy :=
    { state with retained := state.retained.set index { retained with released := true } }
  have same : told.lifetimes[retained.lifetime]? = some lifetime := here
  obtain ⟨lifetimes, -, destroyed, -⟩ := disown_eq same
  simp only [State.release, held, Bool.false_eq_true, if_false]
  exact ⟨lifetimes, destroyed⟩

/-- The number of a lifetime that ends with its last owner is not in use any more. -/
theorem Ok.unused (ok : Ok state) (after : Ok next)
    (here : state.lifetimes[index]? = some lifetime) (last : lifetime.Last)
    (lifetimes : next.lifetimes = state.lifetimes.set index lifetime.disowned)
    (alive : next.destroyed = false) : ¬ next.InUse lifetime.pageNumber := by
  rw [after.periods alive]
  rintro ⟨other, member, number, opened⟩
  obtain ⟨position, found⟩ := List.mem_iff_getElem?.mp member
  rw [lifetimes] at found
  rcases set_cases found with ⟨-, rfl⟩ | ⟨apart, there⟩
  · rw [PageLifetime.disowned_last last, PageLifetime.close_closed] at opened
    cases opened
  · exact apart (ok.single _ _ _ _ here there last.2 opened number.symm)

omit [DecidableEq PageNumber] [DecidableEq Proxy] in
theorem cleanups_retain {index other : Nat} {holder : Holder Proxy}
    (here : state.lifetimes[other]? = some before)
    (found : (state.retain index holder).lifetimes[other]? = some after) :
    after.cleanups = before.cleanups := by
  rcases modify_cases found with ⟨rfl, same, was, rfl⟩ | ⟨-, was⟩
  · rw [here] at was
    rw [Option.some.inj was]
    rfl
  · rw [here] at was
    rw [Option.some.inj was]

omit [DecidableEq Proxy] in
theorem cleanups_acquire (here : state.lifetimes[index]? = some before)
    (found : (state.acquire pageNumber).lifetimes[index]? = some after) :
    after.cleanups = before.cleanups := by
  unfold State.acquire at found
  split at found
  · exact cleanups_retain here found
  · have bound := (List.getElem?_eq_some_iff.mp here).1
    apply cleanups_retain _ found
    rw [List.getElem?_append_left bound]
    exact here

omit [DecidableEq PageNumber] in
theorem cleanups_disowned (others : ¬ lifetime.Last) :
    lifetime.disowned.cleanups = lifetime.cleanups := by
  rw [PageLifetime.disowned_not_last others]

/-- The end of the last ownership, perhaps after a proxy was accepted. -/
theorem Ok.idle {middle : State PageNumber Proxy} (ok : Ok middle) (after : Ok next)
    {before lifetime : PageLifetime PageNumber Proxy} (event : Event PageNumber Proxy)
    (here : middle.lifetimes[index]? = some lifetime) (same : lifetime.closed = before.closed)
    (lifetimes : next.lifetimes = middle.lifetimes.set index lifetime.disowned)
    (destroyed : next.destroyed = state.destroyed) (last : lifetime.Last) :
    Cause state next index before lifetime.disowned event := by
  apply Cause.idle
  · rw [PageLifetime.disowned_last last, ← same]
    exact ⟨last.2, PageLifetime.close_closed⟩
  · rw [PageLifetime.disowned_owners]
    exact last.1
  · intro alive
    rw [PageLifetime.disowned_pageNumber]
    exact ok.unused after here last lifetimes (destroyed.trans alive)

theorem Ok.cause_release (ok : Ok state) (found : state.retained[index]? = some retained)
    (held : retained.released = false) (kept : Ok (state.release index retained))
    (event : Event PageNumber Proxy) (here : state.lifetimes[other]? = some before)
    (there : (state.release index retained).lifetimes[other]? = some after) :
    after.cleanups = before.cleanups ∨
      Cause state (state.release index retained) other before after event := by
  obtain ⟨lifetime, owned⟩ := ok.owner found
  obtain ⟨lifetimes, destroyed⟩ := release_eq held owned
  rw [lifetimes] at there
  rcases set_cases there with ⟨rfl, rfl⟩ | ⟨-, same⟩
  · rw [owned] at here
    cases here
    by_cases last : before.Last
    · exact .inr (ok.idle kept event owned rfl lifetimes destroyed last)
    · exact .inl (cleanups_disowned last)
  · rw [here] at same
    rw [Option.some.inj same]
    exact .inl rfl

omit [DecidableEq PageNumber] in
/-- A proxy that arrives in a closed lifetime is cleaned at once, in an open one it waits. -/
theorem cleanups_reacted (lifetime : PageLifetime PageNumber Proxy) (accepts : Bool)
    (page : Option Proxy) :
    (lifetime.reacted accepts page).cleanups = lifetime.cleanups ∨
      lifetime.closed = true ∧ accepts = true ∧ ∃ arrived, page = some arrived ∧
        (lifetime.reacted accepts page).cleanups = lifetime.cleanups ++ [arrived] := by
  unfold PageLifetime.reacted
  split
  · rename_i page
    rcases closed : lifetime.closed with _ | _
    · rw [PageLifetime.accept_open closed]
      exact .inl (PageLifetime.add_rest _ page).2.1
    · rw [PageLifetime.accept_closed closed, PageLifetime.cleanup]
      split
      · exact .inl rfl
      · exact .inr ⟨rfl, rfl, page, rfl, rfl⟩
  · exact .inl rfl

theorem Ok.cause_react (ok : Ok state) {promise owner : Nat} {accepts : Bool}
    {page : Option Proxy}
    (found : state.retained[promise]? = some ⟨owner, false, .promise accepts (some page)⟩)
    (taken : PageResources.step state (.react promise) = some next)
    (here : state.lifetimes[other]? = some before) (there : next.lifetimes[other]? = some after) :
    after.cleanups = before.cleanups ∨ Cause state next other before after (.react promise) := by
  have kept := ok.step taken
  have middle := ok.reacted owner accepts page
  obtain ⟨lifetime, owned⟩ := ok.owner found
  have opened := ok.open_of_held (List.mem_of_getElem? found) rfl owned
  obtain ⟨-, -, closed⟩ := lifetime.reacted_same accepts page
  have told := cleanups_reacted lifetime accepts page
  simp only [PageResources.step, found, Option.some.injEq] at taken
  have arrived : (state.lifetimes.modify owner (·.reacted accepts page))[owner]? =
      some (lifetime.reacted accepts page) := by
    rw [List.getElem?_modify_eq, owned]
    rfl
  subst taken
  let moved : State PageNumber Proxy :=
    { state with lifetimes := state.lifetimes.modify owner (·.reacted accepts page) }
  let retained : Retained Proxy := ⟨owner, false, .promise accepts (some page)⟩
  have released : (moved.release promise retained).lifetimes =
      moved.lifetimes.set owner (lifetime.reacted accepts page).disowned ∧
        (moved.release promise retained).destroyed = state.destroyed := release_eq rfl arrived
  obtain ⟨lifetimes, destroyed⟩ := released
  rw [lifetimes] at there
  rcases set_cases there with ⟨rfl, rfl⟩ | ⟨apart, same⟩
  · rw [owned] at here
    cases here
    by_cases last : (before.reacted accepts page).Last
    · exact .inr (middle.idle kept _ arrived closed lifetimes destroyed last)
    · rw [cleanups_disowned last]
      rcases told with same | ⟨ended, rfl, proxy, rfl, cleaned⟩
      · exact .inl same
      · right
        have gone : state.destroyed = true := by simpa [ended] using opened
        apply Cause.late promise proxy gone ended found
        rw [cleanups_disowned last]
        exact cleaned
  · rw [List.getElem?_modify_ne _ _ apart, here] at same
    rw [Option.some.inj same]
    exact .inl rfl

theorem Ok.caused (ok : Ok state) (event : Event PageNumber Proxy)
    (taken : PageResources.step state event = some next) (index : Nat)
    (before after : PageLifetime PageNumber Proxy) (here : state.lifetimes[index]? = some before)
    (there : next.lifetimes[index]? = some after) :
    after.cleanups = before.cleanups ∨ Cause state next index before after event := by
  have kept := ok.step taken
  cases event with
  | acquire pageNumber =>
    rw [← Option.some.inj taken] at there
    exact .inl (cleanups_acquire here there)
  | release lease =>
    simp only [PageResources.step] at taken
    split at taken
    · rename_i lifetime released found
      have same := Option.some.inj taken
      subst same
      cases released
      · exact ok.cause_release found rfl kept _ here there
      · have same : some before = some after := here.symm.trans there
        rw [Option.some.inj same]
        exact .inl rfl
    · cases taken
  | track lease accepts =>
    simp only [PageResources.step] at taken
    split at taken
    · rw [← Option.some.inj taken] at there
      exact .inl (cleanups_retain here there)
    · cases taken
  | settle promise page =>
    simp only [PageResources.step] at taken
    split at taken
    · rw [← Option.some.inj taken, here] at there
      rw [Option.some.inj there]
      exact .inl rfl
    · cases taken
  | react promise =>
    have reacts := taken
    simp only [PageResources.step] at reacts
    split at reacts
    · rename_i found
      exact ok.cause_react found taken here there
    · cases reacts
  | destroy =>
    rw [← Option.some.inj taken] at there
    obtain ⟨swept, closed⟩ := ok.swept here there
    rcases was : before.closed with _ | _
    · exact .inr (.destroyed ⟨was, closed⟩)
    · rw [swept.closed was]
      exact .inl rfl

/-- A cancelled use leaves its acquisition pending while a retry takes a lease; the proxy that
both acquisitions give is cleaned when the last of them is gone. -/
def retriedEvents : List (Event Nat String) :=
  [.acquire 4, .track 0 true, .release 0, .acquire 4, .track 2 true, .settle 3 (some "page 4"),
    .react 3, .release 2, .release 2, .settle 1 (some "page 4"), .react 1]

def retriedState : State Nat String where
  lifetimes :=
    [{ pageNumber := 4
       owners := 0
       closed := true
       pages := []
       cleanedAfterClose := ["page 4"]
       accepted := ["page 4", "page 4"]
       cleanups := ["page 4"] }]
  pages := []
  retained :=
    [⟨0, true, .lease⟩, ⟨0, true, .promise true (some (some "page 4"))⟩, ⟨0, true, .lease⟩,
      ⟨0, true, .promise true (some (some "page 4"))⟩]
  destroyed := false

end WebTsToolkit.PdfReader.PageResources
