import WebTsToolkit.OidcVaultMemory.Runs

set_option autoImplicit false

namespace WebTsToolkit.OidcVaultMemory.MemoryOidcVaultStore

open Js Library OidcVault

/-- Some session of the lineage is stored, expired or not. -/
def HoldsLineage (store : MemoryOidcVaultStore) (lineage : String) : Prop :=
  ∃ sessionId session, store.sessions.lookup sessionId = some session ∧
    session.fields.lineage = lineage

/-- No id is both a session and an alias, and each alias names a lineage that has a stored session
or whose aliases are still to be removed. -/
structure Linked (store : MemoryOidcVaultStore) (pending : String → Prop) : Prop where
  apart : ∀ sessionId session, store.sessions.lookup sessionId = some session →
    store.rotatedSessionAliases.lookup sessionId = none
  reaches : ∀ sessionId rotated, store.rotatedSessionAliases.lookup sessionId = some rotated →
    pending rotated.logicalSessionId ∨ store.HoldsLineage rotated.logicalSessionId

variable {store next : MemoryOidcVaultStore} {pending : String → Prop}

theorem Linked.mono {fewer more : String → Prop} (linked : Linked store fewer)
    (included : ∀ lineage, fewer lineage → more lineage) : Linked store more :=
  ⟨linked.apart, fun sessionId rotated found =>
    (linked.reaches sessionId rotated found).imp_left (included rotated.logicalSessionId)⟩

/-- Lineages whose session is stored need no removal of aliases. -/
theorem Linked.settled (linked : Linked store pending)
    (stored : ∀ lineage, pending lineage → store.HoldsLineage lineage) :
    Linked store fun _ => False :=
  ⟨linked.apart, fun sessionId rotated found =>
    Or.inr ((linked.reaches sessionId rotated found).elim (stored rotated.logicalSessionId) id)⟩

/-- Records may leave if the lineages of the sessions that do are pending. -/
theorem Linked.shrink (linked : Linked store pending)
    (sessions : ∀ sessionId session, next.sessions.lookup sessionId = some session →
      store.sessions.lookup sessionId = some session)
    (aliases : ∀ sessionId rotated, next.rotatedSessionAliases.lookup sessionId = some rotated →
      store.rotatedSessionAliases.lookup sessionId = some rotated)
    (lost : ∀ sessionId session, store.sessions.lookup sessionId = some session →
      next.sessions.lookup sessionId = some session ∨ pending session.fields.lineage) :
    Linked next pending := by
  refine ⟨fun sessionId session found => ?_, fun sessionId rotated found => ?_⟩
  · have absent := linked.apart sessionId session (sessions sessionId session found)
    by_contra present
    obtain ⟨rotated, listed⟩ := Option.ne_none_iff_exists'.mp present
    rw [aliases sessionId rotated listed] at absent
    contradiction
  · rcases linked.reaches sessionId rotated (aliases sessionId rotated found) with
      waits | ⟨other, session, stored, same⟩
    · exact Or.inl waits
    · rcases lost other session stored with remains | waits
      · exact Or.inr ⟨other, session, remains, same⟩
      · exact Or.inl (same ▸ waits)

theorem hasLiveSession_congr {first second : MemoryOidcVaultStore} {now : Number}
    (same : first.sessions = second.sessions) (lineage : String) :
    first.hasLiveSessionForLogicalSession lineage now =
      second.hasLiveSessionForLogicalSession lineage now := by
  rw [hasLiveSessionForLogicalSession, hasLiveSessionForLogicalSession, same]

section Aliases

variable (store) (lineage : String) (now : Number)

theorem hasLiveSession_iff :
    store.hasLiveSessionForLogicalSession lineage now = true ↔
      ∃ sessionId session, store.sessions.lookup sessionId = some session ∧
        session.fields.lineage = lineage ∧ isExpiredSession session now = false := by
  rw [hasLiveSessionForLogicalSession, List.any_eq_true]
  constructor
  · rintro ⟨session, member, live⟩
    obtain ⟨sessionId, found⟩ := Map.mem_values.mp member
    rw [Bool.and_eq_true, beq_iff_eq, Bool.not_eq_true'] at live
    exact ⟨sessionId, session, found, live⟩
  · rintro ⟨sessionId, session, found, same, live⟩
    refine ⟨session, Map.mem_values.mpr ⟨sessionId, found⟩, ?_⟩
    rw [same, live, beq_self_eq_true]
    rfl

theorem holdsLineage_of_live
    (live : store.hasLiveSessionForLogicalSession lineage now = true) :
    store.HoldsLineage lineage := by
  obtain ⟨sessionId, session, found, same, _⟩ := (hasLiveSession_iff store lineage now).mp live
  exact ⟨sessionId, session, found, same⟩

/-- An alias stays if its lineage is another one or has an unexpired session. -/
theorem removeAliasesForInactive_lookup (sessionId : String) :
    (store.removeAliasesForInactiveLogicalSession lineage now).rotatedSessionAliases.lookup
        sessionId =
      (store.rotatedSessionAliases.lookup sessionId).filter fun rotated =>
        rotated.logicalSessionId != lineage ||
          store.hasLiveSessionForLogicalSession lineage now := by
  unfold removeAliasesForInactiveLogicalSession
  by_cases live : store.hasLiveSessionForLogicalSession lineage now = true
  · rw [if_pos live]
    cases store.rotatedSessionAliases.lookup sessionId with
    | none => rfl
    | some rotated => rw [Option.filter_some_pos (by rw [live, Bool.or_true])]
  · rw [if_neg live, removeAliasesForLogicalSession, Rows.lookup_keep]
    simp [live]

end Aliases

/-- The removal of the aliases of a lineage settles the lineage. -/
theorem Linked.removeAliases {lineage : String}
    (linked : Linked store fun other => other = lineage ∨ pending other) :
    Linked (store.removeAliasesForLogicalSession lineage) pending := by
  refine ⟨fun sessionId session found => ?_, fun sessionId rotated found => ?_⟩
  · rw [removeAliasesForLogicalSession, Rows.lookup_keep, linked.apart sessionId session found]
    rfl
  · obtain ⟨listed, kept⟩ := Rows.lookup_keep_eq_some.mp found
    rcases linked.reaches sessionId rotated listed with (same | waits) | holds
    · rw [same, bne_self_eq_false] at kept
      contradiction
    · exact Or.inl waits
    · exact Or.inr holds

theorem Linked.removeInactive {lineage : String} {now : Number}
    (linked : Linked store fun other => other = lineage ∨ pending other) :
    Linked (store.removeAliasesForInactiveLogicalSession lineage now) pending := by
  unfold removeAliasesForInactiveLogicalSession
  split
  · next live =>
    have holds := holdsLineage_of_live store lineage now live
    refine ⟨linked.apart, fun sessionId rotated found => ?_⟩
    rcases linked.reaches sessionId rotated found with (same | waits) | stored
    · exact Or.inr (same ▸ holds)
    · exact Or.inl waits
    · exact Or.inr stored
  · exact linked.removeAliases

theorem Linked.removeInactives {lineages : List String} {now : Number}
    (linked : Linked store fun other => other ∈ lineages ∨ pending other) :
    Linked (store.removeAliasesForInactiveLogicalSessions lineages now) pending := by
  induction lineages generalizing store with
  | nil => exact linked.mono fun _ waits => waits.elim (absurd · List.not_mem_nil) id
  | cons lineage lineages ih =>
    apply ih
    apply Linked.removeInactive
    apply linked.mono
    intro other waits
    rwa [List.mem_cons, or_assoc] at waits

/-- Nothing is pending between two calls. -/
abbrev Consistent (store : MemoryOidcVaultStore) : Prop :=
  Linked store fun _ => False

theorem Consistent.pruneSessionsBatch (consistent : Consistent store) (now : Number) :
    Consistent (store.pruneSessionsBatch now) := by
  have swept := sweepBatch_sweepsExpired
    (fun session : Stored OidcVaultSession => session.fields.expiresAt) store.sessions
    store.sessionSweep now
  apply Linked.removeInactives
  refine Linked.shrink (consistent.mono fun _ waits => waits.elim) swept.kept
    (fun _ _ found => found) ?_
  intro sessionId session found
  refine (swept.dropped sessionId session found).imp_right fun removed => Or.inl ?_
  exact List.mem_map_of_mem removed.1

theorem Consistent.pruneAliasesBatch (consistent : Consistent store) (now : Number) :
    Consistent (store.pruneAliasesBatch now) := by
  have swept := sweepBatch_sweepsExpired RotatedSessionAlias.expiresAt
    store.rotatedSessionAliases store.rotatedSessionAliasSweep now
  exact consistent.shrink (fun _ _ found => found) swept.kept fun _ _ found => Or.inl found

theorem Consistent.pruneSessions (consistent : Consistent store) (now : Number) :
    Consistent (store.pruneSessions now) :=
  (consistent.pruneSessionsBatch now).pruneAliasesBatch now

/-- A session leaves and its lineage is pending. -/
theorem Consistent.forgetSession (consistent : Consistent store) {sessionId : String}
    {session : Stored OidcVaultSession}
    (found : store.sessions.lookup sessionId = some session) :
    Linked (store.forgetSession sessionId) (· = session.fields.lineage) := by
  refine Linked.shrink (consistent.mono fun _ waits => waits.elim) ?_ (fun _ _ found => found) ?_
  · intro other listed stored
    rw [MemoryOidcVaultStore.forgetSession, Rows.lookup_erase] at stored
    split at stored
    · contradiction
    · exact stored
  · intro other listed stored
    rw [MemoryOidcVaultStore.forgetSession, Rows.lookup_erase]
    by_cases same : other = sessionId
    · rw [same, found] at stored
      exact Or.inr (Option.some.inj stored ▸ rfl)
    · rw [if_neg same]
      exact Or.inl stored

/-- An alias may leave at any time. -/
theorem Linked.forgetAlias (linked : Linked store pending) (sessionId : String) :
    Linked (store.forgetAlias sessionId) pending := by
  refine Linked.shrink linked (fun _ _ found => found) ?_ fun _ _ found => Or.inl found
  intro other rotated found
  rw [MemoryOidcVaultStore.forgetAlias, Rows.lookup_erase] at found
  split at found
  · contradiction
  · exact found

theorem Consistent.dropExpiredSession (consistent : Consistent store) (sessionId : String)
    (now : Number) : Consistent (store.dropExpiredSession sessionId now) := by
  unfold MemoryOidcVaultStore.dropExpiredSession
  split
  · next session found =>
    split
    · apply Linked.removeInactive
      exact (consistent.forgetSession found).mono fun _ same => Or.inl same
    · exact consistent
  · exact consistent

/-- What the scoped deletions leave: the sessions that are neither expired nor in scope. -/
theorem deleteInScope_lookup {inScope : OidcVaultSession → Bool} {now : Number}
    {sessionId : String} {session : Stored OidcVaultSession} :
    (store.deleteInScope inScope now).1.sessions.lookup sessionId = some session ↔
      store.sessions.lookup sessionId = some session ∧ isExpiredSession session now = false ∧
        inScope session.fields = false := by
  have kept : (!isExpiredSession session now && !inScope session.fields) = true ↔
      isExpiredSession session now = false ∧ inScope session.fields = false := by
    rw [Bool.and_eq_true, Bool.not_eq_true', Bool.not_eq_true']
  rw [← kept]
  exact Rows.lookup_keep_eq_some

/-- The scoped deletions leave the lineages pending that they list. -/
theorem Consistent.deleteInScope (consistent : Consistent store)
    (inScope : OidcVaultSession → Bool) (now : Number) :
    Linked (store.deleteInScope inScope now).1 fun lineage =>
      lineage ∈ (store.deleteInScope inScope now).2.1 ∨
        lineage ∈ (store.deleteInScope inScope now).2.2 := by
  refine Linked.shrink (consistent.mono fun _ waits => waits.elim) ?_
    (fun _ _ found => found) ?_
  · intro sessionId session found
    exact (deleteInScope_lookup.mp found).1
  · intro sessionId session found
    have listed : session ∈ store.sessions.values := Map.mem_values.mpr ⟨sessionId, found⟩
    rw [deleteInScope_lookup]
    by_cases expired : isExpiredSession session now = true
    · refine Or.inr (Or.inl (List.mem_map_of_mem (List.mem_filter.mpr ⟨listed, expired⟩)))
    · rw [Bool.not_eq_true] at expired
      by_cases matched : inScope session.fields = true
      · refine Or.inr (Or.inr (List.mem_map_of_mem (List.mem_filter.mpr ⟨listed, ?_⟩)))
        rw [expired, matched]
        rfl
      · rw [Bool.not_eq_true] at matched
        exact Or.inl ⟨found, expired, matched⟩

theorem Consistent.deleteScope (consistent : Consistent store)
    (inScope : OidcVaultSession → Bool) (now : Number) :
    Consistent (store.deleteScope inScope now).1 := by
  apply Linked.removeInactives
  apply Linked.removeInactives
  apply (consistent.deleteInScope inScope now).mono
  intro lineage waits
  exact waits.imp_right Or.inl

theorem Consistent.deleteByLogicalSessionId (consistent : Consistent store)
    (lineage : String) (now : Number) :
    Consistent (store.deleteSessionsByLogicalSessionId lineage now).1 := by
  apply Linked.removeAliases
  apply Linked.removeInactives
  apply (consistent.deleteInScope (fun session => session.lineage == lineage) now).mono
  intro other waits
  refine waits.imp_right fun matched => Or.inl ?_
  obtain ⟨session, member, same⟩ := List.mem_map.mp matched
  have inScope := (Bool.and_eq_true_iff.mp (List.mem_filter.mp member).2).2
  exact same ▸ beq_iff_eq.mp inScope

theorem Consistent.deleteSession (consistent : Consistent store) (sessionId : String)
    (now later : Number) : Consistent (store.deleteSession sessionId now later).1 := by
  have swept := consistent.pruneSessions now
  unfold MemoryOidcVaultStore.deleteSession
  dsimp only
  split
  · next session found =>
    apply Linked.removeInactive
    exact ((swept.forgetSession found).forgetAlias sessionId).mono fun _ same => Or.inl same
  · split
    · split
      · exact swept.forgetAlias sessionId
      · exact swept.deleteByLogicalSessionId _ later
    · exact swept

/-- A session is written under an id that is no alias from then on. -/
theorem Linked.writeSession (linked : Linked store pending) (session : OidcVaultSession) :
    Linked (store.writeSession session) fun lineage => pending lineage ∨
      ∃ previous, store.sessions.lookup session.sessionId = some previous ∧
        previous.fields.lineage = lineage := by
  refine ⟨fun other stored found => ?_, fun other rotated found => ?_⟩
  · rw [MemoryOidcVaultStore.writeSession, Map.lookup_set] at found
    rw [MemoryOidcVaultStore.writeSession, Rows.lookup_erase]
    split
    · rfl
    · next apart =>
      rw [if_neg apart] at found
      exact linked.apart other stored found
  · rw [MemoryOidcVaultStore.writeSession, Rows.lookup_erase] at found
    split at found
    · contradiction
    · rcases linked.reaches other rotated found with waits | ⟨holder, stored, listed, same⟩
      · exact Or.inl (Or.inl waits)
      · by_cases replaced : holder = session.sessionId
        · exact Or.inl (Or.inr ⟨stored, replaced ▸ listed, same⟩)
        · refine Or.inr ⟨holder, stored, ?_, same⟩
          rw [MemoryOidcVaultStore.writeSession, Map.lookup_set, if_neg replaced]
          exact listed

theorem holdsLineage_writeSession (store : MemoryOidcVaultStore) (session : OidcVaultSession) :
    (store.writeSession session).HoldsLineage session.lineage :=
  ⟨session.sessionId, ⟨store.made, session⟩, by rw [writeSession, Map.lookup_set, if_pos rfl], rfl⟩

theorem Consistent.createSession (consistent : Consistent store)
    (input : OidcVaultSessionInput) (now : Number) :
    Consistent (store.createSession input now).1 := by
  unfold MemoryOidcVaultStore.createSession
  dsimp only
  split
  · exact consistent
  · next input _ =>
    have swept := consistent.pruneSessions now
    have written := swept.writeSession (sessionOf input input.lineage now)
    split
    · next previous found =>
      have only : ∀ lineage, (False ∨ ∃ other, (store.pruneSessions now).sessions.lookup
          input.sessionId = some other ∧ other.fields.lineage = lineage) →
          lineage = previous.fields.lineage := by
        rintro lineage (none | ⟨other, listed, same⟩)
        · exact none.elim
        rw [Option.some.inj (listed.symm.trans found)] at same
        exact same.symm
      split
      · exact (written.mono fun lineage waits => Or.inl (only lineage waits)).removeInactive
      · next kept =>
        apply written.settled
        intro lineage waits
        rw [only lineage waits, not_not.mp kept]
        exact holdsLineage_writeSession _ _
    · next absent =>
      apply written.settled
      rintro lineage (none | ⟨other, listed, _⟩)
      · exact none.elim
      · rw [absent] at listed
        contradiction

/-- An alias is written for an id that is no session and a lineage that has one. -/
theorem Linked.writeAlias (linked : Linked store pending) {sessionId : String}
    {rotated : RotatedSessionAlias} (absent : store.sessions.lookup sessionId = none)
    (holds : store.HoldsLineage rotated.logicalSessionId) :
    Linked (store.writeAlias sessionId rotated) pending := by
  refine ⟨fun other session found => ?_, fun other listed found => ?_⟩
  · rw [MemoryOidcVaultStore.writeAlias, Map.lookup_set]
    split
    · next same =>
      subst same
      have listed : store.sessions.lookup other = some session := found
      rw [absent] at listed
      contradiction
    · exact linked.apart other session found
  · rw [MemoryOidcVaultStore.writeAlias, Map.lookup_set] at found
    split at found
    · exact Or.inr (Option.some.inj found ▸ holds)
    · exact linked.reaches other listed found

theorem Consistent.moveSession (consistent : Consistent store) {sessionId : String}
    {source : Stored OidcVaultSession} {session : OidcVaultSession} {now : Number}
    (found : store.sessions.lookup sessionId = some source)
    (apart : session.sessionId ≠ sessionId)
    (vacant : ∀ target, store.sessions.lookup session.sessionId = some target →
      isExpiredSession target now = true) :
    Consistent (store.moveSession source sessionId session now) := by
  have cleared := consistent.dropExpiredSession session.sessionId now
  have still : (store.dropExpiredSession session.sessionId now).sessions.lookup sessionId =
      some source := by
    rw [dropExpiredSession_lookup, found, Option.filter_some_pos]
    rw [bne_iff_ne.mpr apart.symm, Bool.true_or]
  have empty : ((store.dropExpiredSession session.sessionId now).forgetSession
      sessionId).sessions.lookup session.sessionId = none := by
    rw [MemoryOidcVaultStore.forgetSession, Rows.lookup_erase, if_neg apart,
      dropExpiredSession_lookup]
    cases listed : store.sessions.lookup session.sessionId with
    | none => rfl
    | some target => simp [Option.filter, vacant target listed]
  have written := (cleared.forgetSession still).writeSession session
  have gone : (((store.dropExpiredSession session.sessionId now).forgetSession
      sessionId).writeSession session).sessions.lookup sessionId = none := by
    rw [MemoryOidcVaultStore.writeSession, Map.lookup_set, if_neg apart.symm]
    exact AList.lookup_erase _ _
  have only : ∀ lineage, (lineage = source.fields.lineage ∨ ∃ previous,
      ((store.dropExpiredSession session.sessionId now).forgetSession
        sessionId).sessions.lookup session.sessionId = some previous ∧
        previous.fields.lineage = lineage) → lineage = source.fields.lineage := by
    rintro lineage (same | ⟨previous, listed, _⟩)
    · exact same
    · rw [empty] at listed
      contradiction
  have holds := holdsLineage_writeSession
    ((store.dropExpiredSession session.sessionId now).forgetSession sessionId) session
  unfold MemoryOidcVaultStore.moveSession
  dsimp only
  split
  · apply Linked.removeInactive
    apply Linked.writeAlias (written.mono fun lineage waits => Or.inl (only lineage waits)) gone
    exact holds
  · next kept =>
    apply Linked.writeAlias (written.settled fun lineage waits => ?_) gone holds
    rw [only lineage waits, not_not.mp kept]
    exact holds

theorem Consistent.rotateSession (consistent : Consistent store) (input : RotateSessionInput)
    (now : Number) : Consistent (store.rotateSession input now).1 := by
  have dropped := consistent.dropExpiredSession input.sessionId now
  unfold MemoryOidcVaultStore.rotateSession
  dsimp only
  split
  · exact dropped
  · next source session passed =>
    have checks := checkRotation_eq_ok passed
    have sameId : session.sessionId = input.nextSession.sessionId := checks.sessionId_eq
    apply dropped.moveSession checks.found
    · exact sameId ▸ checks.apart
    · intro target listed
      exact checks.vacant target (sameId ▸ listed)

/-- Equal session and alias maps are as consistent. -/
theorem Consistent.congr (consistent : Consistent store) (same : SameSessions next store) :
    Consistent next := by
  apply consistent.shrink
  · intro sessionId session found
    rwa [same.sessions] at found
  · intro sessionId rotated found
    rwa [same.rotatedSessionAliases] at found
  · intro sessionId session found
    rw [same.sessions]
    exact Or.inl found

theorem Consistent.perform (consistent : Consistent store) (call : Call) (now : Number) :
    Consistent (store.perform call now).1 := by
  cases call with
  | createSession input => exact consistent.createSession input now
  | getSession sessionId =>
    unfold MemoryOidcVaultStore.perform MemoryOidcVaultStore.getSession
    dsimp only
    split <;> exact consistent.dropExpiredSession sessionId now
  | rotateSession input => exact consistent.rotateSession input now
  | deleteSession sessionId later => exact consistent.deleteSession sessionId now later
  | finishDeleteSession sessionId => exact consistent.forgetAlias sessionId
  | deleteSessionsByLogicalSessionId lineage =>
    exact consistent.deleteByLogicalSessionId lineage now
  | deleteSessionsBySubject subject scope =>
    exact consistent.deleteScope (fun session => session.subject == subject &&
      matchesProviderScope session scope) now
  | deleteSessionsByProviderSessionId id scope =>
    exact consistent.deleteScope (fun session => session.providerSessionId == some id &&
      matchesProviderScope session scope) now
  | _ => exact consistent.congr (perform_sameSessions store now rfl)

theorem consistent_new : Consistent new :=
  ⟨fun _ _ _ => rfl, fun _ _ found => absurd found (by simp [new])⟩

theorem consistent_of_reachable {run : StoreRun} (reached : storeRuns.Reachable run) :
    Consistent run.store := by
  have keeps : ∀ run event after, Consistent run.store → storeRuns.step run event = some after →
      Consistent after.store := by
    intro run event after consistent taken
    rw [(storeRuns_step taken).store]
    exact consistent.perform event.1 event.2
  refine reached.invariant ?_ keeps
  exact consistent_new

end WebTsToolkit.OidcVaultMemory.MemoryOidcVaultStore
