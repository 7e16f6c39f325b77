import Mathlib.Data.List.Basic
import Mathlib.Data.List.Induction
import Mathlib.Data.List.Nodup
import WebTsToolkit.Library.TransitionSystem

set_option autoImplicit false

namespace WebTsToolkit.PdfReader.PageResources

open Library

/-- One `PageLifetime`. Its `onIdle` deletes `pageNumber`. The last two fields record the proxies
that `accept` was called with and the calls of `page.cleanup()`. -/
structure PageLifetime (PageNumber Proxy : Type) where
  pageNumber : PageNumber
  owners : Nat
  closed : Bool
  pages : List Proxy
  cleanedAfterClose : List Proxy
  accepted : List Proxy
  cleanups : List Proxy

/-- Who calls the function that `retain` returned: a lease, or the reaction to a tracked promise.
An acquisition has an `accept`. A settled acquisition may have given a proxy. -/
inductive Holder (Proxy : Type) where
  | lease
  | promise (accepts : Bool) (settled : Option (Option Proxy))

/-- One call of `retain`, with the flag of the function it returned. -/
structure Retained (Proxy : Type) where
  lifetime : Nat
  released : Bool
  holder : Holder Proxy

/-- The `Map` of one `PageResources`, with all the lifetimes it ever had and their owners. -/
structure State (PageNumber Proxy : Type) where
  lifetimes : List (PageLifetime PageNumber Proxy)
  pages : List (PageNumber × Nat)
  retained : List (Retained Proxy)
  destroyed : Bool

/-- A lease and a promise are named by the index of their `retain` call. -/
inductive Event (PageNumber Proxy : Type) where
  | acquire (pageNumber : PageNumber)
  | release (lease : Nat)
  | track (lease : Nat) (accepts : Bool)
  | settle (promise : Nat) (page : Option Proxy)
  | react (promise : Nat)
  | destroy

namespace PageLifetime

section

variable {PageNumber Proxy : Type} [DecidableEq PageNumber] [DecidableEq Proxy]

def opened (pageNumber : PageNumber) : PageLifetime PageNumber Proxy :=
  { pageNumber
    owners := 0
    closed := false
    pages := []
    cleanedAfterClose := []
    accepted := []
    cleanups := [] }

def retain (lifetime : PageLifetime PageNumber Proxy) : PageLifetime PageNumber Proxy :=
  { lifetime with owners := lifetime.owners + 1 }

/-- `#cleanup`. What `page.cleanup()` throws is dropped. -/
def cleanup (lifetime : PageLifetime PageNumber Proxy) (page : Proxy) :
    PageLifetime PageNumber Proxy :=
  if page ∈ lifetime.cleanedAfterClose then lifetime
  else
    { lifetime with
      cleanedAfterClose := page :: lifetime.cleanedAfterClose
      cleanups := lifetime.cleanups ++ [page] }

def close (lifetime : PageLifetime PageNumber Proxy) : PageLifetime PageNumber Proxy :=
  { lifetime.pages.foldl cleanup { lifetime with closed := true } with pages := [] }

/-- `this.#pages.add(page)`. -/
def add (lifetime : PageLifetime PageNumber Proxy) (page : Proxy) :
    PageLifetime PageNumber Proxy :=
  if page ∈ lifetime.pages then lifetime
  else { lifetime with pages := lifetime.pages ++ [page] }

/-- The `accept` of an acquisition. -/
def accept (lifetime : PageLifetime PageNumber Proxy) (page : Proxy) :
    PageLifetime PageNumber Proxy :=
  let told := { lifetime with accepted := lifetime.accepted ++ [page] }
  if lifetime.closed then told.cleanup page else told.add page

/-- The proxy, if any, on which the reaction to a promise calls `accept`. -/
def reacted (lifetime : PageLifetime PageNumber Proxy) (accepts : Bool) (page : Option Proxy) :
    PageLifetime PageNumber Proxy :=
  match accepts, page with
  | true, some page => lifetime.accept page
  | _, _ => lifetime

end

variable {PageNumber Proxy : Type}

/-- The proxies of an open lifetime wait in `pages`; those of a closed one have been cleaned. -/
structure Sound (lifetime : PageLifetime PageNumber Proxy) : Prop where
  waiting : lifetime.closed = false → lifetime.cleanups = [] ∧ lifetime.cleanedAfterClose = [] ∧
    ∀ page, page ∈ lifetime.pages ↔ page ∈ lifetime.accepted
  swept : lifetime.closed = true → lifetime.cleanups.Nodup ∧ lifetime.pages = [] ∧
    (∀ page, page ∈ lifetime.cleanedAfterClose ↔ page ∈ lifetime.cleanups) ∧
    ∀ page, page ∈ lifetime.cleanups ↔ page ∈ lifetime.accepted

/-- What `#cleanup` and `add` leave as it is. -/
structure SameOwner (before after : PageLifetime PageNumber Proxy) : Prop where
  pageNumber : after.pageNumber = before.pageNumber
  owners : after.owners = before.owners
  closed : after.closed = before.closed
  accepted : after.accepted = before.accepted

variable {lifetime : PageLifetime PageNumber Proxy}

/-- A lifetime that changes its number of owners only. -/
theorem Sound.of_owners (sound : lifetime.Sound) (owners : Nat) :
    Sound { lifetime with owners } :=
  ⟨sound.waiting, sound.swept⟩

variable [DecidableEq Proxy]

theorem cleanup_same (lifetime : PageLifetime PageNumber Proxy) (page : Proxy) :
    SameOwner lifetime (lifetime.cleanup page) := by
  unfold cleanup
  split <;> constructor <;> rfl

theorem cleanup_once (lifetime : PageLifetime PageNumber Proxy) (page : Proxy)
    (nodup : lifetime.cleanups.Nodup)
    (agree : ∀ page, page ∈ lifetime.cleanedAfterClose ↔ page ∈ lifetime.cleanups) :
    (lifetime.cleanup page).cleanups.Nodup ∧
      (∀ other, other ∈ (lifetime.cleanup page).cleanedAfterClose ↔
        other ∈ (lifetime.cleanup page).cleanups) ∧
      ∀ other, other ∈ (lifetime.cleanup page).cleanups ↔
        other ∈ lifetime.cleanups ∨ other = page := by
  by_cases seen : page ∈ lifetime.cleanedAfterClose
  · have called := (agree page).mp seen
    simp only [cleanup, seen, if_true]
    exact ⟨nodup, agree, by grind⟩
  · have uncalled : page ∉ lifetime.cleanups := by
      intro called
      exact seen ((agree page).mpr called)
    simp only [cleanup, seen, if_false]
    refine ⟨?_, ?_, ?_⟩
    · apply List.Nodup.append nodup (List.nodup_singleton page)
      simpa using uncalled
    · intro other
      simp [agree, or_comm]
    · simp

theorem sweep_same (pages : List Proxy) (lifetime : PageLifetime PageNumber Proxy) :
    SameOwner lifetime (pages.foldl cleanup lifetime) := by
  induction pages generalizing lifetime with
  | nil => constructor <;> rfl
  | cons page pages ih =>
    have first := cleanup_same lifetime page
    have rest := ih (lifetime.cleanup page)
    simp only [List.foldl_cons]
    constructor
    · rw [rest.pageNumber, first.pageNumber]
    · rw [rest.owners, first.owners]
    · rw [rest.closed, first.closed]
    · rw [rest.accepted, first.accepted]

theorem sweep_once (lifetime : PageLifetime PageNumber Proxy) (pages : List Proxy)
    (nodup : lifetime.cleanups.Nodup)
    (agree : ∀ page, page ∈ lifetime.cleanedAfterClose ↔ page ∈ lifetime.cleanups) :
    (pages.foldl cleanup lifetime).cleanups.Nodup ∧
      (∀ other, other ∈ (pages.foldl cleanup lifetime).cleanedAfterClose ↔
        other ∈ (pages.foldl cleanup lifetime).cleanups) ∧
      ∀ other, other ∈ (pages.foldl cleanup lifetime).cleanups ↔
        other ∈ lifetime.cleanups ∨ other ∈ pages := by
  induction pages generalizing lifetime with
  | nil => simpa using ⟨nodup, agree⟩
  | cons page pages ih =>
    obtain ⟨once, same, called⟩ := cleanup_once lifetime page nodup agree
    obtain ⟨all, told, every⟩ := ih (lifetime.cleanup page) once same
    refine ⟨all, told, ?_⟩
    intro other
    rw [List.foldl_cons, every, called, List.mem_cons, or_assoc]

@[simp] theorem close_closed : lifetime.close.closed = true :=
  (sweep_same lifetime.pages { lifetime with closed := true }).closed

@[simp] theorem close_owners : lifetime.close.owners = lifetime.owners :=
  (sweep_same lifetime.pages { lifetime with closed := true }).owners

@[simp] theorem close_pageNumber : lifetime.close.pageNumber = lifetime.pageNumber :=
  (sweep_same lifetime.pages { lifetime with closed := true }).pageNumber

theorem Sound.close (sound : lifetime.Sound) (opened : lifetime.closed = false) :
    lifetime.close.Sound := by
  obtain ⟨uncleaned, unmarked, same⟩ := sound.waiting opened
  have kept := (sweep_same lifetime.pages { lifetime with closed := true }).accepted
  have swept := sweep_once { lifetime with closed := true } lifetime.pages
    (by simp [uncleaned]) (by simp [uncleaned, unmarked])
  obtain ⟨once, marked, called⟩ := swept
  constructor
  · intro wrong
    simp at wrong
  · intro _
    refine ⟨once, rfl, marked, ?_⟩
    intro page
    have accepted : lifetime.close.accepted = lifetime.accepted := kept
    have gone : page ∈ lifetime.close.cleanups ↔
        page ∈ lifetime.cleanups ∨ page ∈ lifetime.pages := called page
    rw [gone, accepted, ← same page, uncleaned]
    simp

theorem Sound.close_eq (sound : lifetime.Sound) (closed : lifetime.closed = true) :
    lifetime.close = lifetime := by
  obtain ⟨-, empty, -⟩ := sound.swept closed
  unfold PageLifetime.close
  rw [empty, List.foldl_nil, ← closed, ← empty]

theorem add_pages (lifetime : PageLifetime PageNumber Proxy) (page other : Proxy) :
    other ∈ (lifetime.add page).pages ↔ other ∈ lifetime.pages ∨ other = page := by
  by_cases has : page ∈ lifetime.pages
  · simp only [add, has, if_true]
    grind
  · simp [add, has]

theorem add_rest (lifetime : PageLifetime PageNumber Proxy) (page : Proxy) :
    SameOwner lifetime (lifetime.add page) ∧ (lifetime.add page).cleanups = lifetime.cleanups ∧
      (lifetime.add page).cleanedAfterClose = lifetime.cleanedAfterClose := by
  unfold add
  split <;> exact ⟨⟨rfl, rfl, rfl, rfl⟩, rfl, rfl⟩

/-- The number, the owners and the end of a lifetime do not depend on what is accepted. -/
theorem reacted_same (lifetime : PageLifetime PageNumber Proxy) (accepts : Bool)
    (page : Option Proxy) :
    (lifetime.reacted accepts page).pageNumber = lifetime.pageNumber ∧
      (lifetime.reacted accepts page).owners = lifetime.owners ∧
      (lifetime.reacted accepts page).closed = lifetime.closed := by
  unfold reacted
  split
  · rename_i page
    rw [accept]
    split
    · have same := cleanup_same { lifetime with accepted := lifetime.accepted ++ [page] } page
      exact ⟨same.pageNumber, same.owners, same.closed⟩
    · have same := (add_rest { lifetime with accepted := lifetime.accepted ++ [page] } page).1
      exact ⟨same.pageNumber, same.owners, same.closed⟩
  · exact ⟨rfl, rfl, rfl⟩

theorem accept_open (opened : lifetime.closed = false) (page : Proxy) : lifetime.accept page =
    add { lifetime with accepted := lifetime.accepted ++ [page] } page :=
  if_neg (by simp [opened])

theorem accept_closed (closed : lifetime.closed = true) (page : Proxy) : lifetime.accept page =
    cleanup { lifetime with accepted := lifetime.accepted ++ [page] } page :=
  if_pos closed

theorem Sound.accept (sound : lifetime.Sound) (page : Proxy) : (lifetime.accept page).Sound := by
  rcases closed : lifetime.closed with _ | _
  · obtain ⟨uncleaned, unmarked, same⟩ := sound.waiting closed
    rw [accept_open closed]
    have rest := add_rest { lifetime with accepted := lifetime.accepted ++ [page] } page
    have pages := add_pages { lifetime with accepted := lifetime.accepted ++ [page] } page
    constructor
    · intro _
      refine ⟨rest.2.1.trans uncleaned, rest.2.2.trans unmarked, ?_⟩
      intro other
      rw [pages, rest.1.accepted]
      simp [same]
    · intro wrong
      rw [rest.1.closed] at wrong
      simp [closed] at wrong
  · obtain ⟨nodup, empty, marked, called⟩ := sound.swept closed
    rw [accept_closed closed]
    have same := cleanup_same { lifetime with accepted := lifetime.accepted ++ [page] } page
    have once := cleanup_once { lifetime with accepted := lifetime.accepted ++ [page] } page nodup
      marked
    constructor
    · intro wrong
      rw [same.closed] at wrong
      simp [closed] at wrong
    · intro _
      refine ⟨once.1, ?_, once.2.1, ?_⟩
      · simp only [cleanup]
        split <;> exact empty
      · intro other
        rw [once.2.2, same.accepted]
        simp [called]

theorem Sound.reacted (sound : lifetime.Sound) (accepts : Bool) (page : Option Proxy) :
    (lifetime.reacted accepts page).Sound := by
  unfold PageLifetime.reacted
  split
  · exact sound.accept _
  · exact sound

theorem Sound.count (sound : lifetime.Sound) (page : Proxy) : lifetime.cleanups.count page =
    if lifetime.closed ∧ page ∈ lifetime.accepted then 1 else 0 := by
  rcases closed : lifetime.closed with _ | _
  · simp [(sound.waiting closed).1]
  · obtain ⟨nodup, -, -, called⟩ := sound.swept closed
    simp only [true_and, nodup.count, called]

/-- The lifetime once one of its owners is gone. -/
def disowned (lifetime : PageLifetime PageNumber Proxy) : PageLifetime PageNumber Proxy :=
  let left := { lifetime with owners := lifetime.owners - 1 }
  if left.owners = 0 ∧ left.closed = false then left.close else left

/-- The lifetime ends with this owner. -/
def Last (lifetime : PageLifetime PageNumber Proxy) : Prop :=
  lifetime.owners - 1 = 0 ∧ lifetime.closed = false

theorem disowned_last (last : lifetime.Last) :
    lifetime.disowned = close { lifetime with owners := lifetime.owners - 1 } :=
  if_pos last

theorem disowned_not_last (others : ¬ lifetime.Last) :
    lifetime.disowned = { lifetime with owners := lifetime.owners - 1 } :=
  if_neg others

@[simp] theorem disowned_owners : lifetime.disowned.owners = lifetime.owners - 1 := by
  by_cases last : lifetime.Last
  · simp [disowned_last last]
  · simp [disowned_not_last last]

@[simp] theorem disowned_pageNumber : lifetime.disowned.pageNumber = lifetime.pageNumber := by
  by_cases last : lifetime.Last
  · simp [disowned_last last]
  · simp [disowned_not_last last]

theorem Sound.disowned (sound : lifetime.Sound) : lifetime.disowned.Sound := by
  by_cases last : lifetime.Last
  · rw [disowned_last last]
    exact (sound.of_owners _).close last.2
  · rw [disowned_not_last last]
    exact sound.of_owners _

end PageLifetime

section

variable {PageNumber Proxy : Type} [DecidableEq PageNumber] [DecidableEq Proxy]

namespace State

/-- `lifetime.retain()` for a new owner. -/
def retain (state : State PageNumber Proxy) (lifetime : Nat) (holder : Holder Proxy) :
    State PageNumber Proxy :=
  { state with
    lifetimes := state.lifetimes.modify lifetime PageLifetime.retain
    retained := state.retained ++ [{ lifetime, released := false, holder }] }

/-- `PageResources.acquire`: the lifetime in the slot of the number, or a new one. -/
def acquire (state : State PageNumber Proxy) (pageNumber : PageNumber) :
    State PageNumber Proxy :=
  match state.pages.lookup pageNumber with
  | some lifetime => state.retain lifetime .lease
  | none =>
    let lifetime := state.lifetimes.length
    State.retain
      { state with
        lifetimes := state.lifetimes ++ [PageLifetime.opened pageNumber]
        pages := state.pages ++ [(pageNumber, lifetime)] } lifetime .lease

/-- `this.#owners -= 1` and what follows when that was the last owner. -/
def disown (state : State PageNumber Proxy) (lifetime : Nat) : State PageNumber Proxy :=
  match state.lifetimes[lifetime]? with
  | none => state
  | some current =>
    let left := { current with owners := current.owners - 1 }
    if left.owners = 0 ∧ left.closed = false then
      { state with
        lifetimes := state.lifetimes.set lifetime left.close
        pages := state.pages.filter fun slot => slot.1 ≠ left.pageNumber }
    else { state with lifetimes := state.lifetimes.set lifetime left }

/-- The function that a `retain` call returned. -/
def release (state : State PageNumber Proxy) (index : Nat) (retained : Retained Proxy) :
    State PageNumber Proxy :=
  if retained.released then state
  else
    State.disown
      { state with retained := state.retained.set index { retained with released := true } }
      retained.lifetime

def destroy (state : State PageNumber Proxy) : State PageNumber Proxy :=
  { state with
    lifetimes := state.pages.foldl
      (fun lifetimes slot => lifetimes.modify slot.2 PageLifetime.close) state.lifetimes
    pages := []
    destroyed := true }

end State

/-- Promises are tracked through leases that are not released. The reaction to a promise comes
some time after the promise is settled. -/
def step (state : State PageNumber Proxy) :
    Event PageNumber Proxy → Option (State PageNumber Proxy)
  | .acquire pageNumber => some (state.acquire pageNumber)
  | .release lease =>
    match state.retained[lease]? with
    | some { lifetime, released, holder := .lease } =>
      some (state.release lease { lifetime, released, holder := .lease })
    | _ => none
  | .track lease accepts =>
    match state.retained[lease]? with
    | some { lifetime, released := false, holder := .lease } =>
      some (state.retain lifetime (.promise accepts none))
    | _ => none
  | .settle promise page =>
    match state.retained[promise]? with
    | some { lifetime, released, holder := .promise accepts none } =>
      some
        { state with
          retained := state.retained.set promise
            { lifetime, released, holder := .promise accepts (some page) } }
    | _ => none
  | .react promise =>
    match state.retained[promise]? with
    | some { lifetime, released := false, holder := .promise accepts (some page) } =>
      some (State.release
        { state with
          lifetimes := state.lifetimes.modify lifetime (·.reacted accepts page) } promise
        { lifetime, released := false, holder := .promise accepts (some page) })
    | _ => none
  | .destroy => some state.destroy

def system : TransitionSystem (State PageNumber Proxy) (Event PageNumber Proxy) where
  start := { lifetimes := [], pages := [], retained := [], destroyed := false }
  step := step

/-- A lease of the page number is unreleased, or a promise that was tracked for it has no
reaction yet. -/
def State.InUse (state : State PageNumber Proxy) (pageNumber : PageNumber) : Prop :=
  ∃ retained ∈ state.retained, retained.released = false ∧
    ∃ lifetime, state.lifetimes[retained.lifetime]? = some lifetime ∧
      lifetime.pageNumber = pageNumber

/-- How a step came to call `cleanup` for the lifetime at an index, which was `before` and is
`after`. -/
inductive Cause (state next : State PageNumber Proxy) (index : Nat)
    (before after : PageLifetime PageNumber Proxy) : Event PageNumber Proxy → Prop where
  | idle (event : Event PageNumber Proxy) (ended : before.closed = false ∧ after.closed = true)
      (ownerless : after.owners = 0)
      (unused : state.destroyed = false → ¬ next.InUse after.pageNumber) :
      Cause state next index before after event
  | destroyed (ended : before.closed = false ∧ after.closed = true) :
      Cause state next index before after .destroy
  | late (promise : Nat) (page : Proxy) (gone : state.destroyed = true)
      (ended : before.closed = true)
      (arrived : state.retained[promise]? =
        some ⟨index, false, .promise true (some (some page))⟩)
      (only : after.cleanups = before.cleanups ++ [page]) :
      Cause state next index before after (.react promise)

/-- What holds at any moment of one `PageResources`. A lifetime is one period of use. -/
structure Contract (state : State PageNumber Proxy) : Prop where
  unsettled : ∀ retained ∈ state.retained, ∀ accepts, retained.holder = .promise accepts none →
    retained.released = false
  single : ∀ (first second : Nat) (one other : PageLifetime PageNumber Proxy),
    state.lifetimes[first]? = some one → state.lifetimes[second]? = some other →
      one.closed = false → other.closed = false → one.pageNumber = other.pageNumber →
        first = second
  periods : state.destroyed = false → ∀ pageNumber, state.InUse pageNumber ↔
    ∃ lifetime ∈ state.lifetimes, lifetime.pageNumber = pageNumber ∧ lifetime.closed = false
  cleaned : ∀ lifetime ∈ state.lifetimes, ∀ page, lifetime.cleanups.count page =
    if lifetime.closed ∧ page ∈ lifetime.accepted then 1 else 0
  caused : ∀ (event : Event PageNumber Proxy) (next : State PageNumber Proxy),
    step state event = some next → ∀ (index : Nat)
    (before after : PageLifetime PageNumber Proxy), state.lifetimes[index]? = some before →
      next.lifetimes[index]? = some after →
        after.cleanups = before.cleanups ∨ Cause state next index before after event

end

variable {PageNumber Proxy : Type}

/-- What `destroy` does to a lifetime: it closes it if it has a slot. -/
structure Swept (before after : PageLifetime PageNumber Proxy) : Prop where
  sound : after.Sound
  owners : after.owners = before.owners
  closed : before.closed = true → after = before

variable [DecidableEq Proxy]

theorem Swept.close {before after : PageLifetime PageNumber Proxy}
    (swept : Swept before after) : Swept before after.close := by
  rcases closed : after.closed with _ | _
  · refine ⟨swept.sound.close closed, after.close_owners.trans swept.owners, ?_⟩
    intro was
    have same := swept.closed was
    rw [same, was] at closed
    cases closed
  · rw [swept.sound.close_eq closed]
    exact swept

theorem sweep_cases (slots : List (PageNumber × Nat))
    {lifetimes : List (PageLifetime PageNumber Proxy)} {index : Nat}
    {before : PageLifetime PageNumber Proxy} (here : lifetimes[index]? = some before)
    (sound : before.Sound) :
    ∃ after, (slots.foldl (fun lifetimes slot => lifetimes.modify slot.2 PageLifetime.close)
        lifetimes)[index]? = some after ∧ Swept before after ∧
      ((∃ slot ∈ slots, slot.2 = index) → after.closed = true) := by
  induction slots using List.reverseRecOn with
  | nil => exact ⟨before, here, ⟨sound, rfl, fun _ => rfl⟩, by simp⟩
  | append_singleton slots slot ih =>
    obtain ⟨after, found, swept, closed⟩ := ih
    rw [List.foldl_concat]
    by_cases same : slot.2 = index
    · refine ⟨after.close, ?_, swept.close, fun _ => PageLifetime.close_closed⟩
      rw [same, List.getElem?_modify_eq, found]
      rfl
    · refine ⟨after, ?_, swept, ?_⟩
      · rw [List.getElem?_modify_ne _ _ same]
        exact found
      · rintro ⟨other, member, names⟩
        rcases List.mem_append.mp member with member | member
        · exact closed ⟨other, member, names⟩
        · rw [List.mem_singleton.mp member] at names
          exact absurd names same

theorem length_sweep (slots : List (PageNumber × Nat))
    (lifetimes : List (PageLifetime PageNumber Proxy)) :
    (slots.foldl (fun lifetimes slot => lifetimes.modify slot.2 PageLifetime.close)
      lifetimes).length = lifetimes.length := by
  induction slots generalizing lifetimes with
  | nil => rfl
  | cons slot slots ih => simp [ih]

end WebTsToolkit.PdfReader.PageResources
