import WebTsToolkit.RequestAttestation.SignerClientSteps

set_option autoImplicit false

namespace WebTsToolkit.RequestAttestation

open Library

namespace SignerClient

variable {state next : SignerClient}

/-- A load that was started, and neither ended nor was superseded. -/
def Loading (state : SignerClient) (number : Nat) : Prop :=
  ∃ load, state.loads[number]? = some load ∧ load.settled = none ∧
    superseded number state.facts = false

/-- What the end of a superseded load leaves alone. -/
structure Untouched (state next : SignerClient) (number : Nat) : Prop where
  active : next.active = state.active
  current : ∀ other, next.Current other ↔ state.Current other
  generation : next.generation = state.generation
  awaiting : next.awaitingReplacement = state.awaitingReplacement
  aborter : ∀ other, state.Current other → next.currentAborter = state.currentAborter
  others : ∀ other, other ≠ number → next.loads[other]? = state.loads[other]?

/-- A signer is given to a caller. -/
def isSigner : SignerFact → Bool
  | .served _ => true
  | .installed _ _ => true
  | _ => false

variable {number : Nat}

/-- Every caller joins the load that goes on. -/
theorem Inv.joins (inv : Inv state) (out : state.starting = []) (loading : Loading state number) :
    state.getSigner = state.note (.joined number) := by
  obtain ⟨load, found, unsettled, still⟩ := loading
  have current := (inv.loads number load found).free unsettled still
  have ok := inv.current number current
  have live : state.disposed = false := by
    cases closed : state.disposed with
    | false => rfl
    | true => exact absurd current ((inv.empty closed).2 number)
  unfold SignerClient.getSigner
  rw [live, ok.active, (opened_iff out number).mp current.1]
  dsimp only
  rw [if_neg Bool.false_ne_true, if_pos current.2]

theorem Inv.current_unique (inv : Inv state) {first second : Nat} (one : state.Current first)
    (other : state.Current second) : first = second := by
  rcases inv.alone with out | ⟨number, alone, idle⟩
  · have pending := (opened_iff out first).mp one.1
    rw [(opened_iff out second).mp other.1] at pending
    exact (Option.some.inj pending).symm
  · have starts {load : Nat} (opened : state.Opened load) : number = load := by
      rcases opened with pending | starting
      · rw [idle] at pending
        contradiction
      · rw [alone] at starting
        exact List.singleton_inj.mp starting
    exact (starts one.1).symm.trans (starts other.1)

theorem Inv.loading_unique (inv : Inv state) {first second : Nat} (one : Loading state first)
    (other : Loading state second) : first = second := by
  obtain ⟨load, found, unsettled, still⟩ := one
  obtain ⟨otherLoad, otherFound, otherUnsettled, otherStill⟩ := other
  exact inv.current_unique ((inv.loads first load found).free unsettled still)
    ((inv.loads second otherLoad otherFound).free otherUnsettled otherStill)

/-- A challenge for another key than the active signer's. -/
theorem invalidate_other {signer : RequestSigner} (active : state.active = some signer)
    {observedKeyId : String} (other : signer.keyId ≠ some observedKeyId) :
    state.invalidate observedKeyId = state := by
  unfold SignerClient.invalidate
  split
  · rfl
  · split
    · rfl
    · rw [active]
      exact if_neg other

/-- A superseded load is not joined. -/
theorem Inv.not_current (inv : Inv state) (late : superseded number state.facts = true) :
    ¬state.Current number := by
  intro current
  rw [(inv.current number current).current] at late
  contradiction

theorem set_others (loads : List SignerLoad) {number other : Nat} (differs : other ≠ number)
    (load : SignerLoad) : (loads.set number load)[other]? = loads[other]? :=
  List.getElem?_set_ne (Ne.symm differs)

theorem untouched_release (inv : Inv state) (out : state.starting = [])
    (late : superseded number state.facts = true) (load : SignerLoad) :
    Untouched state (state.releaseLoad number load) number where
  active := rfl
  current other := by
    rw [Current, opened_release out, and_assoc]
    constructor
    · exact fun held => ⟨held.1, held.2.2⟩
    · intro current
      refine ⟨current.1, ?_, current.2⟩
      rintro rfl
      exact inv.not_current late current
  generation := rfl
  awaiting := rfl
  aborter := by
    intro other current
    apply if_neg
    intro own
    have aborter := (inv.current other current).aborter
    rw [own] at aborter
    rw [← Option.some.inj aborter] at current
    exact inv.not_current late current
  others := fun _ differs => set_others state.loads differs _

/-- A superseded load owns no generation. -/
theorem Inv.not_owned (inv : Inv state) (late : superseded number state.facts = true)
    {load : SignerLoad} (found : state.loads[number]? = some load) :
    (state.pending == some number && load.generation == state.generation) = false := by
  rw [Bool.eq_false_iff, ne_eq, Bool.and_eq_true, beq_iff_eq, beq_iff_eq]
  rintro ⟨pending, generation⟩
  obtain ⟨same, known, _, owned⟩ := inv.opened number (Or.inl pending)
  rw [found] at known
  rw [← Option.some.inj known] at owned
  exact inv.not_current late ⟨Or.inl pending, owned.symm.trans generation⟩

/-- What a superseded load comes to. -/
theorem Inv.untouched (inv : Inv state) (late : superseded number state.facts = true)
    {event : SignerEvent} (own : event = .reacted number ∨ event = .timedOut number ∨
      (∃ result, event = .fetched number result) ∨ ∃ result, event = .imported number result)
    (taken : state.step event = some next) : Untouched state next number := by
  have set_ (load : SignerLoad) : Untouched state (state.setLoad number load) number :=
    ⟨rfl, fun _ => Iff.rfl, rfl, rfl, fun _ _ => rfl,
      fun _ differs => set_others state.loads differs load⟩
  rcases own with reacted | timedOut | fetched | imported
  · rw [reacted] at taken
    obtain ⟨load, idle, rest⟩ := Option.bind_eq_some_iff.mp taken
    obtain ⟨out, found⟩ := idleLoad_eq_some idle
    split at rest
    · next outcome raced _ =>
      rw [← Option.some.inj rest]
      unfold SignerClient.react
      dsimp only
      rw [inv.not_owned late found]
      split
      · rw [Bool.not_false, Bool.or_true, if_pos rfl]
        exact untouched_release inv out late _
      · rw [Bool.false_and, if_neg Bool.false_ne_true]
        exact untouched_release inv out late _
    · contradiction
  · rw [timedOut] at taken
    obtain ⟨load, _, rest⟩ := Option.bind_eq_some_iff.mp taken
    split at rest
    · rw [← Option.some.inj rest]
      exact ⟨rfl, fun _ => Iff.rfl, rfl, rfl, fun _ _ => rfl,
        fun _ differs => set_others state.loads differs _⟩
    · contradiction
  · obtain ⟨result, isFetched⟩ := fetched
    rw [isFetched] at taken
    obtain ⟨load, _, rest⟩ := Option.bind_eq_some_iff.mp taken
    obtain ⟨stage, _, same⟩ := Option.map_eq_some_iff.mp rest
    rw [← same]
    exact set_ _
  · obtain ⟨result, isImported⟩ := imported
    rw [isImported] at taken
    obtain ⟨load, _, rest⟩ := Option.bind_eq_some_iff.mp taken
    obtain ⟨stage, _, same⟩ := Option.map_eq_some_iff.mp rest
    rw [← same]
    exact set_ _

/-- Between two invalidations a signer was installed. -/
theorem Inv.replaced (inv : Inv state) {before middle after : List SignerFact}
    (split : state.facts = before ++ .invalidated :: (middle ++ .invalidated :: after)) :
    ∃ number signer, .installed number signer ∈ middle := by
  have settled : awaits (before ++ .invalidated :: middle) = false := by
    apply inv.alternate _ after
    rw [split, List.append_assoc, List.cons_append]
  clear split
  induction middle using List.reverseRecOn with
  | nil =>
    rw [awaits_append] at settled
    contradiction
  | append_singleton middle fact ih =>
    rw [← List.cons_append, ← List.append_assoc, awaits_append] at settled
    cases fact with
    | installed number signer =>
      exact ⟨number, signer, List.mem_append_right _ List.mem_cons_self⟩
    | invalidated => contradiction
    | _ =>
      obtain ⟨number, signer, member⟩ := ih settled
      exact ⟨number, signer, List.mem_append_left _ member⟩

theorem react_of_disposed (closed : state.disposed = true) (number : Nat) (load : SignerLoad)
    (outcome : LoadOutcome) : (state.react number load outcome).facts = state.facts ∧
      (state.react number load outcome).disposed = true := by
  unfold SignerClient.react
  dsimp only
  split
  · rw [closed, Bool.true_or, if_pos rfl]
    exact ⟨rfl, closed⟩
  · split
    · exact ⟨rfl, closed⟩
    · exact ⟨rfl, closed⟩

/-- No signer comes from a step of a client that was disposed. -/
theorem disposed_step (closed : state.disposed = true) {event : SignerEvent}
    (taken : state.step event = some next) : next.disposed = true ∧
      ∃ new, next.facts = state.facts ++ new ∧ ∀ fact ∈ new, isSigner fact = false := by
  have same (facts : next.facts = state.facts) :
      ∃ new, next.facts = state.facts ++ new ∧ ∀ fact ∈ new, isSigner fact = false :=
    ⟨[], by rw [facts, List.append_nil], fun fact member => absurd member List.not_mem_nil⟩
  have unchanged {result : SignerClient} (idle : result = state)
      (taken : some result = some next := by exact taken) : next.disposed = true ∧
        ∃ new, next.facts = state.facts ++ new ∧ ∀ fact ∈ new, isSigner fact = false := by
    obtain rfl := (Option.some.inj taken).symm.trans idle
    exact ⟨closed, same rfl⟩
  cases event with
  | getSigner =>
    exact unchanged (if_pos closed)
  | launched =>
    have taken_ : state.launched = some next := taken
    rw [SignerClient.launched] at taken_
    split at taken_
    · contradiction
    · rw [← Option.some.inj taken_] at same ⊢
      exact ⟨closed, same rfl⟩
  | invalidate observedKeyId | dispose =>
    exact unchanged (if_pos closed)
  | fetched number result | imported number result =>
    obtain ⟨load, _, rest⟩ := Option.bind_eq_some_iff.mp taken
    obtain ⟨stage, _, advanced⟩ := Option.map_eq_some_iff.mp rest
    rw [← advanced] at same ⊢
    exact ⟨closed, same rfl⟩
  | timedOut number =>
    obtain ⟨load, _, rest⟩ := Option.bind_eq_some_iff.mp taken
    split at rest
    · rw [← Option.some.inj rest]
      refine ⟨closed, [.timedOut number], rfl, ?_⟩
      exact List.forall_mem_singleton.mpr rfl
    · contradiction
  | reacted number =>
    obtain ⟨load, _, rest⟩ := Option.bind_eq_some_iff.mp taken
    split at rest
    · rw [← Option.some.inj rest] at same ⊢
      obtain ⟨facts, disposed⟩ := react_of_disposed closed number load _
      exact ⟨disposed, same facts⟩
    · contradiction

theorem disposed_run (closed : state.disposed = true) {events : List SignerEvent}
    {later : SignerClient} (ran : events.foldlM signerClient.step state = some later) :
    ∃ new, later.facts = state.facts ++ new ∧ ∀ fact ∈ new, isSigner fact = false := by
  induction events generalizing state with
  | nil =>
    rw [← Option.some.inj ran]
    exact ⟨[], (List.append_nil _).symm, fun fact member => absurd member List.not_mem_nil⟩
  | cons event events ih =>
    rw [List.foldlM_cons] at ran
    obtain ⟨middle, taken, rest⟩ := Option.bind_eq_some_iff.mp ran
    obtain ⟨still, first, same, quiet⟩ := disposed_step closed taken
    obtain ⟨new, sameLater, quietLater⟩ := ih still rest
    refine ⟨first ++ new, ?_, ?_⟩
    · rw [sameLater, same, List.append_assoc]
    · intro fact member
      rcases List.mem_append.mp member with now | after
      · exact quiet fact now
      · exact quietLater fact after

end SignerClient

/-- For one client under any order of calls, completions and timeouts in which `fetch` asks for no
signer: one load at most is joined, by every caller; what is installed, and what callers get, comes
from a load that nothing superseded and that was in time; an invalidation without effect changes
nothing, and two with one have a new signer between them; the end of a superseded load leaves the
client alone; and a disposed client gives no signer. -/
theorem signer_never_superseded (state : SignerClient)
    (reached : signerClient.ReachableWhen SignerClient.FetchStaysOut state) :
    (∀ first second, state.Loading first → state.Loading second → first = second) ∧
      (∀ number next, state.Loading number → state.FetchStaysOut .getSigner →
        signerClient.step state .getSigner = some next → next = state.note (.joined number)) ∧
      (∀ before number signer after,
        state.facts = before ++ .installed number signer :: after →
          SignerClient.InstalledOk before number) ∧
      (∀ number load signer, state.loads[number]? = some load →
        load.settled = some (.ok signer) → .installed number signer ∈ state.facts) ∧
      (∀ observedKeyId signer, state.active = some signer → signer.keyId ≠ some observedKeyId →
        signerClient.step state (.invalidate observedKeyId) = some state) ∧
      (∀ before middle after,
        state.facts = before ++ .invalidated :: (middle ++ .invalidated :: after) →
          ∃ number signer, .installed number signer ∈ middle) ∧
      (∀ number event next, SignerClient.superseded number state.facts = true →
        (event = .reacted number ∨ event = .timedOut number ∨
          (∃ result, event = .fetched number result) ∨
            ∃ result, event = .imported number result) →
          signerClient.step state event = some next →
            SignerClient.Untouched state next number) ∧
      (state.disposed = true → state.active = none ∧
        ∀ (events : List SignerEvent) (later : SignerClient),
          events.foldlM signerClient.step state = some later →
            ∃ new, later.facts = state.facts ++ new ∧
              ∀ fact ∈ new, SignerClient.isSigner fact = false) := by
  have inv := SignerClient.inv_of_reachable reached
  refine ⟨fun first second => inv.loading_unique, ?_, inv.installed, ?_, ?_, ?_, ?_, ?_⟩
  · intro number next loading stays taken
    have current : state.Current number := by
      obtain ⟨load, found, unsettled, still⟩ := loading
      exact (inv.loads number load found).free unsettled still
    have out : state.starting = [] :=
      stays.resolve_right fun closed => (inv.empty closed).2 number current
    rw [← Option.some.inj taken, inv.joins out loading]
  · exact fun number load signer found settled =>
      (inv.loads number load found).resolved signer settled
  · intro observedKeyId signer active other
    exact congrArg some (SignerClient.invalidate_other active other)
  · exact fun before middle after split => inv.replaced split
  · exact fun number event next late own taken => inv.untouched late own taken
  · exact fun closed => ⟨(inv.empty closed).1, fun events later ran =>
      SignerClient.disposed_run closed ran⟩

def firstSigner : RequestSigner where
  identity := 1
  keyId := some "key-1"

def secondSigner : RequestSigner where
  identity := 2
  keyId := some "key-2"

/-- The first load is superseded and ends late; the second one is shared, retried and installed. -/
def rotatedEvents : List SignerEvent :=
  [.getSigner, .launched, .fetched 0 (.ok ⟨"key-1", "https://api.test/key-1.js"⟩),
    .invalidate "key-0", .getSigner, .launched, .getSigner, .imported 0 (.ok firstSigner),
    .reacted 0, .fetched 1 (.ok ⟨"key-1", "https://api.test/key-1.js"⟩),
    .imported 1 (.error (.client "SIGNER_LOAD_FAILED" "Signer module import failed.")),
    .fetched 1 (.ok ⟨"key-2", "https://api.test/key-2.js"⟩), .imported 1 (.ok secondSigner),
    .reacted 1, .invalidate "key-1", .getSigner, .dispose]

theorem signer_never_superseded_rotatedEvents : ∃ state,
    signerClient.runWhen SignerClient.FetchStaysOut rotatedEvents = some state ∧
      state.facts = [.started 0, .invalidated, .started 1, .joined 1, .installed 1 secondSigner,
        .served secondSigner, .disposed] ∧
      state.active = none ∧
      SignerClient.InstalledOk [.started 0, .invalidated, .started 1, .joined 1] 1 := by
  have ran : (signerClient.runWhen SignerClient.FetchStaysOut rotatedEvents).map
      (fun state => (state.facts, state.disposed)) = some ([.started 0, .invalidated, .started 1,
        .joined 1, .installed 1 secondSigner, .served secondSigner, .disposed], true) := by
    decide +kernel
  obtain ⟨state, same, seen⟩ := Option.map_eq_some_iff.mp ran
  obtain ⟨facts, closed⟩ := Prod.mk.inj seen
  have contract := signer_never_superseded state (TransitionSystem.ReachableWhen.of_runWhen same)
  refine ⟨state, same, facts, (contract.2.2.2.2.2.2.2 closed).1, ?_⟩
  exact contract.2.2.1 _ 1 secondSigner [.served secondSigner, .disposed] facts

/-- A fetch that asks for a signer starts a second load, whose caller is refused the signer although
nothing superseded it. -/
def nestedEvents : List SignerEvent :=
  [.getSigner, .getSigner, .launched, .launched,
    .fetched 1 (.ok ⟨"key-1", "https://api.test/key-1.js"⟩), .imported 1 (.ok firstSigner),
    .reacted 1]

theorem nested_load_superseded : ∃ state, signerClient.run nestedEvents = some state ∧
    state.facts = [.started 0, .started 1] ∧ SignerClient.superseded 1 state.facts = false ∧
    (state.loads[1]?).bind SignerLoad.settled = some (.error .superseded) := by
  have ran : (signerClient.run nestedEvents).map
      (fun state => (state.facts, (state.loads[1]?).bind SignerLoad.settled)) =
        some ([.started 0, .started 1], some (.error .superseded)) := by
    rfl
  obtain ⟨state, same, seen⟩ := Option.map_eq_some_iff.mp ran
  obtain ⟨facts, settled⟩ := Prod.mk.inj seen
  exact ⟨state, same, facts, facts ▸ rfl, settled⟩

end WebTsToolkit.RequestAttestation
