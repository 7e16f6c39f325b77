import WebTsToolkit.RequestAttestation.SignerClient

set_option autoImplicit false

namespace WebTsToolkit.RequestAttestation

open Library

namespace SignerClient

variable {state next : SignerClient} {number : Nat} {load : SignerLoad}

/-- A fact that supersedes no load. -/
theorem Inv.note {fact : SignerFact} (inv : Inv state) (log : LogOk (state.note fact))
    (quiet : supersedes fact = false)
    (timed : ∀ number, fact = .timedOut number → ∀ load, state.loads[number]? = some load →
      load.raced = some (.error .timeout)) : Inv (state.note fact) := by
  refine { inv with toLogOk := log, loads := ?_, current := ?_ }
  · intro number load found
    exact (inv.loads number load found).change rfl (fun current _ => current)
      fun same => timed number same load found
  · intro number current
    have ok := inv.current number current
    obtain ⟨load, found, _⟩ := inv.opened number current.1
    refine { ok with current := ?_ }
    show superseded number (state.facts ++ [fact]) = false
    rw [superseded_append (inv.loads number load found).started, ok.current, quiet]
    rfl

theorem Inv.fresh (inv : Inv state) :
    .started state.loads.length ∉ state.facts ∧ .timedOut state.loads.length ∉ state.facts :=
  ⟨fun happened => absurd (inv.known _ (Or.inl happened)) (Nat.lt_irrefl _),
    fun happened => absurd (inv.known _ (Or.inr happened)) (Nat.lt_irrefl _)⟩

/-- A load that all callers join starts. -/
theorem Inv.startLoad (inv : Inv state) (live : state.disposed = false)
    (absent : state.active = none) (idle : state.pending = none) (out : state.starting = []) :
    Inv state.startLoad := by
  obtain ⟨fresh, freshTimer⟩ := inv.fresh
  have grown : state.startLoad.facts = state.facts ++ [.started state.loads.length] := rfl
  have size : state.startLoad.loads.length = state.loads.length + 1 := List.length_append
  have alone : state.startLoad.starting = [state.loads.length] :=
    congrArg (state.loads.length :: ·) out
  have opened (number : Nat) : state.startLoad.Opened number ↔ state.loads.length = number := by
    have pending : state.startLoad.pending = none := idle
    simp [Opened, pending, alone]
  have free (number : Nat) : ¬state.Opened number := by
    simp [Opened, idle, out]
  have log : LogOk state.startLoad := by
    refine inv.toLogOk.add (.started state.loads.length) (fun _ => rfl) ?_ rfl (by omega)
    show state.loads.length < state.startLoad.loads.length
    omega
  let load : SignerLoad := {
    generation := state.generation
    aborted := false
    timer := true
    stage := .fetchFirst
    raced := none
    settled := none }
  have isLast : state.startLoad.loads[state.loads.length]? = some load :=
    List.getElem?_concat_length
  refine { inv with
    toLogOk := log, loads := ?_, opened := ?_, alone := ?_, behind := ?_, current := ?_
    empty := ?_ }
  · intro number other found
    rcases Nat.lt_or_ge number state.loads.length with before | now
    · have known : state.loads[number]? = some other := by
        rw [← found]
        exact (List.getElem?_append_left before).symm
      exact (inv.loads number other known).change grown
        fun current => absurd current.1 (free number)
    · have last : number = state.loads.length := by
        obtain ⟨within, _⟩ := List.getElem?_eq_some_iff.mp found
        omega
      rw [last] at found ⊢
      rw [isLast] at found
      rw [← Option.some.inj found]
      refine ⟨?_, fun _ _ => ⟨(opened _).mpr rfl, rfl⟩, nofun, nofun, ?_, nofun⟩
      · rw [grown]
        exact List.mem_append_right _ List.mem_cons_self
      · intro happened
        rw [grown, List.mem_append, List.mem_singleton] at happened
        exact absurd (happened.resolve_right SignerFact.noConfusion) freshTimer
  · intro number here
    rw [← (opened number).mp here]
    exact ⟨load, isLast, rfl, rfl⟩
  · exact Or.inr ⟨_, alone, idle⟩
  · exact Nat.le_refl _
  · intro number current
    rw [← (opened number).mp current.1]
    refine ⟨absent, rfl, ?_⟩
    rw [grown]
    exact superseded_started fresh
  · intro closed
    have closed_ : state.disposed = true := closed
    rw [live] at closed_
    contradiction

/-- A load becomes pending, or a pending one that no caller may join is forgotten. -/
theorem Inv.reopen (inv : Inv state) {pending : Option Nat} {starting : List Nat}
    (opened : ∀ number, (pending = some number ∨ starting = [number]) → state.Opened number)
    (current : ∀ number, state.Current number → pending = some number ∨ starting = [number])
    (alone : starting = []) : Inv { state with pending, starting } where
  __ := inv
  loads number load found :=
    have ok := inv.loads number load found
    { ok with
      free := fun unsettled still =>
        have now := ok.free unsettled still
        ⟨current number now, now.2⟩ }
  opened number here := inv.opened number (opened number here)
  alone := Or.inl alone
  current number here := { inv.current number ⟨opened number here.1, here.2⟩ with }
  empty closed :=
    have ⟨active, idle⟩ := inv.empty closed
    ⟨active, fun number here => idle number ⟨opened number here.1, here.2⟩⟩

theorem Inv.launched (inv : Inv state) (taken : state.launched = some next) : Inv next := by
  rw [SignerClient.launched] at taken
  rcases inv.alone with out | ⟨number, alone, idle⟩
  · rw [out] at taken
    contradiction
  · rw [alone] at taken
    obtain rfl := Option.some.inj taken
    apply inv.reopen
    · rintro other (same | impossible)
      · exact Or.inr (by rw [alone, Option.some.inj same])
      · contradiction
    · rintro other ⟨pending | starting, _⟩
      · rw [idle] at pending
        contradiction
      · rw [alone] at starting
        exact Or.inl (congrArg some (List.singleton_inj.mp starting))
    · rfl

theorem Inv.getSigner (inv : Inv state) (out : state.starting = [] ∨ state.disposed = true) :
    Inv state.getSigner := by
  unfold SignerClient.getSigner
  split
  · exact inv
  · next live =>
    have live_ : state.disposed = false := by simpa using live
    have out_ : state.starting = [] := out.resolve_right live
    split
    · exact inv.note (inv.toLogOk.add (.served _) (fun _ => rfl) trivial) rfl nofun
    · next absent =>
      split
      · next number pending =>
        split
        · exact inv.note (inv.toLogOk.add (.joined _) (fun _ => rfl) trivial) rfl nofun
        · next stale =>
          refine Inv.startLoad (inv.reopen ?_ ?_ out_) live_ absent rfl out_
          · rintro other (none_ | starting)
            · contradiction
            · exact Or.inr starting
          · exact fun other current => absurd current.2 stale
      · next idle => exact inv.startLoad live_ absent idle out_

/-- The generation is over, and no load is pending. -/
theorem Inv.overtake {fact : SignerFact} (inv : Inv state) (log : LogOk next)
    (grown : next.facts = state.facts ++ [fact]) (superseding : supersedes fact = true)
    (loads : next.loads = state.loads) (starting : next.starting = state.starting)
    (pending : next.pending = none) (active : next.active = none)
    (pendingGeneration : next.pendingGeneration = state.pendingGeneration)
    (generation : next.generation = state.generation + 1) : Inv next := by
  have behind := inv.behind
  have stale (number : Nat) : ¬next.Current number := by
    rintro ⟨_, current⟩
    omega
  refine ⟨log, ?_, ?_, ?_, ?_, ?_, ?_, ?_⟩
  · intro number load found
    rw [loads] at found
    refine (inv.loads number load found).change grown ?_ ?_
    · intro _ quiet
      rw [superseding] at quiet
      contradiction
    · rintro rfl
      contradiction
  · intro number here
    rw [Opened, pending, starting] at here
    rw [loads, pendingGeneration]
    exact inv.opened number (Or.inr (here.resolve_left nofun))
  · rw [starting, pending]
    exact inv.alone.imp_right fun ⟨number, alone, _⟩ => ⟨number, alone, rfl⟩
  · omega
  · exact fun number current => absurd current (stale number)
  · exact fun _ => ⟨active, stale⟩
  · exact fun _ => active

/-- An invalidation that has an effect. -/
theorem Inv.supersede (inv : Inv state) (settled : awaits state.facts = false) :
    Inv state.supersede := by
  have log : LogOk state.supersede :=
    inv.toLogOk.add .invalidated (fun _ => rfl) settled
  exact inv.overtake log rfl rfl rfl rfl rfl rfl rfl rfl

theorem Inv.invalidate (inv : Inv state) (observedKeyId : String) :
    Inv (state.invalidate observedKeyId) := by
  unfold SignerClient.invalidate
  split
  · exact inv
  · next live =>
    have live_ : state.disposed = false := by simpa using live
    split
    · exact inv
    · split
      · next signer held =>
        split
        · apply inv.supersede
          rw [← inv.awaiting live_]
          cases awaiting : state.awaitingReplacement with
          | false => rfl
          | true =>
            rw [inv.absent awaiting] at held
            contradiction
        · exact inv
      · split
        · exact inv
        · next settled =>
          apply inv.supersede
          rw [← inv.awaiting live_]
          simpa using settled

/-- A load of a list that one load was replaced in. -/
theorem eq_of_set {loads : List SignerLoad} {target number : Nat} {new load : SignerLoad}
    (found : (loads.set target new)[number]? = some load) :
    (number = target ∧ load = new) ∨ (number ≠ target ∧ loads[number]? = some load) := by
  rw [List.getElem?_set] at found
  split at found
  · next same =>
    split at found
    · exact Or.inl ⟨same.symm, (Option.some.inj found).symm⟩
    · contradiction
  · next other => exact Or.inr ⟨fun same => other same.symm, found⟩

theorem LogOk.set (ok : LogOk state) (number : Nat) (load : SignerLoad) :
    LogOk (state.setLoad number load) where
  __ := ok
  known other happened := by
    show other < (state.loads.set number load).length
    rw [List.length_set]
    exact ok.known other happened

/-- A load changes, but neither its generation nor what its callers got. -/
theorem Inv.setLoad (inv : Inv state) {load later : SignerLoad}
    (found : state.loads[number]? = some load) (settled : later.settled = load.settled)
    (generation : later.generation = load.generation)
    (raced : ∀ outcome, load.raced = some outcome → later.raced = some outcome)
    (timer : load.timer = false → later.timer = false) : Inv (state.setLoad number later) := by
  have ok := inv.loads number load found
  have within : number < state.loads.length := (List.getElem?_eq_some_iff.mp found).1
  refine { inv with
    toLogOk := inv.toLogOk.set number later, loads := ?_, opened := ?_
    current := fun other current => { inv.current other current with } }
  · intro other now foundNow
    rcases eq_of_set foundNow with ⟨rfl, rfl⟩ | ⟨_, there⟩
    · refine ⟨ok.started, ?_, ?_, ?_, fun happened => raced _ (ok.timedOut happened), ?_⟩
      · rw [settled]
        exact ok.free
      · rw [settled]
        intro isSettled
        obtain ⟨outcome, same⟩ := Option.isSome_iff_exists.mp (ok.raced isSettled)
        rw [raced outcome same]
        rfl
      · rw [settled]
        exact fun isSettled => timer (ok.timer isSettled)
      · rw [settled]
        exact ok.resolved
    · exact { inv.loads other now there with }
  · intro other here
    obtain ⟨old, known, unsettled, sameGeneration⟩ := inv.opened other here
    by_cases same : number = other
    · rw [same] at found
      rw [found] at known
      refine ⟨later, ?_, ?_, ?_⟩
      · show (state.loads.set number later)[other]? = _
        rw [← same, List.getElem?_set_self within]
      · rw [settled, Option.some.inj known]
        exact unsettled
      · rw [generation, Option.some.inj known]
        exact sameGeneration
    · refine ⟨old, ?_, unsettled, sameGeneration⟩
      show (state.loads.set number later)[other]? = _
      rw [List.getElem?_set_ne same]
      exact known

theorem Inv.abort (inv : Inv state) (number : Nat) : Inv (state.abort number) := by
  rw [SignerClient.abort, List.modify_eq_set_getElem?]
  cases found : state.loads[number]? with
  | none => exact inv
  | some load => exact inv.setLoad found rfl rfl (fun _ => id) id

/-- The disposal, whatever it has aborted. -/
theorem Inv.close (inv : Inv state) : Inv { state with
    disposed := true, active := none, awaitingReplacement := false
    generation := state.generation + 1, currentAborter := none, pending := none
    facts := state.facts ++ [.disposed] } :=
  inv.overtake (inv.toLogOk.add .disposed nofun trivial) rfl rfl rfl rfl rfl rfl rfl rfl

theorem Inv.dispose (inv : Inv state) : Inv state.dispose := by
  unfold SignerClient.dispose
  split
  · exact inv
  · cases state.currentAborter with
    | none => exact inv.close
    | some number => exact (inv.abort number).close

/-- A load goes on. -/
theorem Inv.advance (inv : Inv state) (found : state.loads[number]? = some load)
    (stage : LoadStage) : Inv (state.advance number load stage) := by
  apply inv.setLoad found
  · rfl
  · rfl
  · intro outcome raced
    show load.raced.or stage.outcome = some outcome
    rw [raced]
    rfl
  · exact id

/-- Where no reaction is queued, a load whose timer runs has no outcome. -/
theorem Inv.unraced (inv : Inv state) (found : state.loads[number]? = some load)
    (timer : load.timer = true) (quiescent : state.isQuiescent = true) : load.raced = none := by
  have each := List.all_eq_true.mp quiescent load (List.mem_of_getElem? found)
  rw [Bool.or_eq_true] at each
  rcases each with none_ | settled
  · exact Option.isNone_iff_eq_none.mp none_
  · rw [(inv.loads number load found).timer settled] at timer
    contradiction

/-- The timer of a load. -/
theorem Inv.expire (inv : Inv state) (found : state.loads[number]? = some load)
    (timer : load.timer = true) (quiescent : state.isQuiescent = true) :
    Inv (state.expire number load) := by
  have unraced := inv.unraced found timer quiescent
  have within : number < state.loads.length := (List.getElem?_eq_some_iff.mp found).1
  have expired : Inv (state.setLoad number { load with
      aborted := true, timer := false
      raced := load.raced.or (some (.error .timeout)) }) := by
    refine inv.setLoad found ?_ ?_ ?_ fun _ => rfl
    · rfl
    · rfl
    · intro outcome raced
      rw [unraced] at raced
      contradiction
  refine expired.note (expired.toLogOk.add (.timedOut number) (fun _ => rfl) ?_) rfl ?_
  · show number < (state.loads.set number _).length
    rw [List.length_set]
    exact within
  · rintro other ⟨⟩ later here
    rcases eq_of_set here with ⟨_, rfl⟩ | ⟨differs, _⟩
    · show load.raced.or (some (.error .timeout)) = some (.error .timeout)
      rw [unraced]
      rfl
    · contradiction

theorem opened_iff (out : state.starting = []) (number : Nat) :
    state.Opened number ↔ state.pending = some number := by
  simp [Opened, out]

/-- The end of a load forgets it, and no other one. -/
theorem opened_release (out : state.starting = []) (number : Nat) (load : SignerLoad)
    (other : Nat) : (state.releaseLoad number load).Opened other ↔
      state.Opened other ∧ other ≠ number := by
  have out_ : (state.releaseLoad number load).starting = [] := out
  have pending : (state.releaseLoad number load).pending =
      if state.pending = some number then none else state.pending := rfl
  rw [opened_iff out, opened_iff out_, pending]
  split
  · next own =>
    rw [own]
    simp [eq_comm]
  · next differs =>
    refine ⟨fun held => ⟨held, ?_⟩, And.left⟩
    rintro rfl
    exact differs held

/-- A load ends with an error. -/
theorem Inv.release (inv : Inv state) (out : state.starting = [])
    (found : state.loads[number]? = some load) (raced : load.raced.isSome = true)
    (fault : SignerFault) :
    Inv (state.releaseLoad number { load with settled := some (.error fault) }) := by
  have ok := inv.loads number load found
  have opened := opened_release out number { load with settled := some (.error fault) }
  refine { inv with
    toLogOk := { inv.toLogOk.set number _ with }, loads := ?_, opened := ?_, alone := Or.inl out
    current := ?_, empty := ?_ }
  · intro other now foundNow
    rcases eq_of_set foundNow with ⟨rfl, rfl⟩ | ⟨differs, there⟩
    · exact ⟨ok.started, nofun, fun _ => raced, fun _ => rfl, ok.timedOut, nofun⟩
    · have old := inv.loads other now there
      refine { old with free := fun unsettled still => ?_ }
      have current := old.free unsettled still
      exact ⟨(opened other).mpr ⟨current.1, differs⟩, current.2⟩
  · intro other here
    obtain ⟨was, differs⟩ := (opened other).mp here
    obtain ⟨old, known, rest⟩ := inv.opened other was
    refine ⟨old, ?_, rest⟩
    show (state.loads.set number _)[other]? = some old
    rw [List.getElem?_set_ne (Ne.symm differs)]
    exact known
  · intro other current
    obtain ⟨was, differs⟩ := (opened other).mp current.1
    have currentOk := inv.current other ⟨was, current.2⟩
    refine { currentOk with aborter := ?_ }
    show (if state.currentAborter = some number then none else state.currentAborter) = some other
    rw [currentOk.aborter, if_neg]
    intro same
    exact differs (Option.some.inj same)
  · intro closed
    obtain ⟨active, idle⟩ := inv.empty closed
    exact ⟨active, fun other current =>
      idle other ⟨((opened other).mp current.1).1, current.2⟩⟩

/-- The end of the current load leaves none. -/
theorem Inv.generation (inv : Inv state) (idle : ∀ number, ¬state.Opened number) :
    Inv { state with generation := state.generation + 1 } where
  __ := inv
  loads number load found :=
    have ok := inv.loads number load found
    { ok with free := fun unsettled still => absurd (ok.free unsettled still).1 (idle number) }
  behind := Nat.le_succ_of_le inv.behind
  current number current := absurd current.1 (idle number)
  empty closed := ⟨(inv.empty closed).1, fun number current => idle number current.1⟩

/-- A load that a reaction finds pending is the only one. -/
theorem none_opened (out : state.starting = []) (owned : state.pending = some number)
    (load : SignerLoad) (other : Nat) : ¬(state.releaseLoad number load).Opened other := by
  rw [opened_release out, opened_iff out, owned]
  rintro ⟨same, differs⟩
  exact differs (Option.some.inj same).symm

/-- A load ends with a signer, which its generation still owns. -/
theorem Inv.install (inv : Inv state) (out : state.starting = [])
    (found : state.loads[number]? = some load) {signer : RequestSigner}
    (raced : load.raced = some (.ok signer)) (live : state.disposed = false)
    (owned : state.pending = some number) (generation : load.generation = state.generation) :
    Inv { state.releaseLoad number { load with settled := some (.ok signer) } with
      active := some signer, awaitingReplacement := false
      facts := state.facts ++ [.installed number signer] } := by
  have ok := inv.loads number load found
  have idle := none_opened out owned { load with settled := some (.ok signer) }
  have current : state.Current number := by
    obtain ⟨old, known, _, same⟩ := inv.opened number (Or.inl owned)
    rw [found] at known
    rw [← Option.some.inj known] at same
    exact ⟨Or.inl owned, same.symm.trans generation⟩
  have inTime : .timedOut number ∉ state.facts := by
    intro late
    have timedOut := ok.timedOut late
    rw [raced] at timedOut
    cases timedOut
  refine { inv with
    toLogOk := ?_, loads := ?_, opened := fun other here => absurd here (idle other)
    alone := Or.inl out, current := fun other here => absurd here.1 (idle other), empty := ?_
    absent := nofun }
  · refine LogOk.add (inv.toLogOk.set number _) (.installed number signer) (fun _ => rfl) ?_
    exact ⟨ok.started, (inv.current number current).current, inTime⟩
  · intro other now foundNow
    rcases eq_of_set foundNow with ⟨rfl, rfl⟩ | ⟨differs, there⟩
    · refine ⟨List.mem_append_left _ ok.started, nofun, ?_, fun _ => rfl, ?_, ?_⟩
      · intro _
        show load.raced.isSome = true
        rw [raced]
        rfl
      · intro late
        exact absurd ((List.mem_append.mp late).resolve_right (by simp)) inTime
      · intro other settled
        rw [← Except.ok.inj (Option.some.inj settled)]
        exact List.mem_append_right _ List.mem_cons_self
    · apply (inv.loads other now there).change rfl
      intro held
      rw [Current, opened_iff out, owned] at held
      exact absurd (Option.some.inj held.1).symm differs
  · intro closed
    have closed_ : state.disposed = true := closed
    rw [live] at closed_
    contradiction

theorem Inv.react (inv : Inv state) (out : state.starting = [])
    (found : state.loads[number]? = some load) {outcome : LoadOutcome}
    (raced : load.raced = some outcome) : Inv (state.react number load outcome) := by
  have isSome : load.raced.isSome = true := by
    rw [raced]
    rfl
  unfold SignerClient.react
  dsimp only
  split
  · next signer =>
    split
    · exact inv.release out found isSome .superseded
    · next owns =>
      simp only [Bool.or_eq_true, Bool.not_eq_true', Bool.and_eq_false_iff, not_or,
        Bool.not_eq_true, beq_eq_false_iff_ne, ne_eq, Decidable.not_not] at owns
      exact inv.install out found raced owns.1 owns.2.1 owns.2.2
  · next fault =>
    split
    · next owns =>
      simp only [Bool.and_eq_true, beq_iff_eq] at owns
      exact (inv.release out found isSome fault).generation (none_opened out owns.1.1 _)
    · exact inv.release out found isSome fault

/-- A load goes on where no load is being started. -/
theorem idleLoad_eq_some (idle : state.idleLoad number = some load) :
    state.starting = [] ∧ state.loads[number]? = some load := by
  rw [idleLoad] at idle
  split at idle
  · next out => exact ⟨List.isEmpty_iff.mp out, idle⟩
  · contradiction

theorem inv_step (inv : Inv state) {event : SignerEvent} (stays : state.FetchStaysOut event)
    (taken : state.step event = some next) : Inv next := by
  cases event with
  | getSigner =>
    rw [← Option.some.inj taken]
    exact inv.getSigner stays
  | launched => exact inv.launched taken
  | invalidate observedKeyId =>
    rw [← Option.some.inj taken]
    exact inv.invalidate observedKeyId
  | dispose =>
    rw [← Option.some.inj taken]
    exact inv.dispose
  | fetched number result | imported number result =>
    obtain ⟨load, idle, rest⟩ := Option.bind_eq_some_iff.mp taken
    obtain ⟨stage, _, same⟩ := Option.map_eq_some_iff.mp rest
    rw [← same]
    exact inv.advance (idleLoad_eq_some idle).2 stage
  | timedOut number =>
    obtain ⟨load, idle, rest⟩ := Option.bind_eq_some_iff.mp taken
    split at rest
    · next fires =>
      rw [Bool.and_eq_true] at fires
      rw [← Option.some.inj rest]
      exact inv.expire (idleLoad_eq_some idle).2 fires.1 fires.2
    · contradiction
  | reacted number =>
    obtain ⟨load, idle, rest⟩ := Option.bind_eq_some_iff.mp taken
    obtain ⟨out, found⟩ := idleLoad_eq_some idle
    split at rest
    · next outcome raced _ =>
      rw [← Option.some.inj rest]
      exact inv.react out found raced
    · contradiction

theorem inv_start : Inv signerClient.start where
  loads number load found := absurd found (by simp [signerClient])
  opened number here := absurd here (by simp [signerClient, Opened])
  alone := Or.inl rfl
  behind := Nat.le_refl _
  current number current := absurd current.1 (by simp [signerClient, Opened])
  known number happened := by simp [signerClient] at happened
  closed := ⟨nofun, nofun⟩
  empty := nofun
  awaiting _ := rfl
  absent := nofun
  installed before number signer after same := by simp [signerClient] at same
  alternate before after same := by simp [signerClient] at same

theorem inv_of_reachable (reached : signerClient.ReachableWhen FetchStaysOut state) :
    Inv state := by
  apply reached.invariant inv_start
  intro before event after inv stays taken
  exact inv_step inv stays taken

end SignerClient

end WebTsToolkit.RequestAttestation
