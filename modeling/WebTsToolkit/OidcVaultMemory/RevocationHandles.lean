import WebTsToolkit.OidcVaultMemory.SessionLinks

set_option autoImplicit false

namespace WebTsToolkit.OidcVaultMemory

open Js Library OidcVault MemoryOidcVaultStore

variable {store next : MemoryOidcVaultStore} {now : Number}

theorem pruneSessionsBatch_sessions (store : MemoryOidcVaultStore) (now : Number) :
    (store.pruneSessionsBatch now).sessions =
      (sweepBatch (fun session : Stored OidcVaultSession => session.fields.expiresAt)
        store.sessions store.sessionSweep now).map := by
  rw [pruneSessionsBatch, removeAliasesForInactives_sessions]

/-- The sweep of the sessions keeps the unexpired ones. -/
theorem pruneSessionsBatch_live {lineage : String}
    (live : store.hasLiveSessionForLogicalSession lineage now = true) :
    (store.pruneSessionsBatch now).hasLiveSessionForLogicalSession lineage now = true := by
  obtain ⟨sessionId, session, found, same, unexpired⟩ :=
    (hasLiveSession_iff store lineage now).mp live
  refine (hasLiveSession_iff _ lineage now).mpr ⟨sessionId, session, ?_, same, unexpired⟩
  rw [pruneSessionsBatch_sessions]
  have swept := sweepBatch_sweepsExpired
    (fun session : Stored OidcVaultSession => session.fields.expiresAt) store.sessions
    store.sessionSweep now
  rcases swept.dropped sessionId session found with stays | ⟨_, expired⟩
  · exact stays
  · rw [isExpiredSession, expired] at unexpired
    contradiction

variable {rotated : RotatedSessionAlias} {sessionId : String}

/-- An alias stays while its lineage has an unexpired session. -/
theorem removeAliasesForInactives_keeps (lineages : List String)
    (found : store.rotatedSessionAliases.lookup sessionId = some rotated)
    (live : store.hasLiveSessionForLogicalSession rotated.logicalSessionId now = true) :
    (store.removeAliasesForInactiveLogicalSessions lineages now).rotatedSessionAliases.lookup
      sessionId = some rotated := by
  induction lineages generalizing store with
  | nil => exact found
  | cons lineage lineages ih =>
    apply ih
    · rw [removeAliasesForInactive_lookup, found, Option.filter_some_pos]
      by_cases same : rotated.logicalSessionId = lineage
      · rw [← same, live, Bool.or_true]
      · rw [bne_iff_ne.mpr same, Bool.true_or]
    · have sessions := removeAliasesForInactive_sessions store lineage now
      rw [hasLiveSession_congr sessions]
      exact live

/-- An unexpired alias of a lineage with an unexpired session outlives both sweeps. -/
theorem pruneSessions_keeps_alias
    (found : store.rotatedSessionAliases.lookup sessionId = some rotated)
    (unexpired : isExpiredRecord rotated.expiresAt now = false)
    (live : store.hasLiveSessionForLogicalSession rotated.logicalSessionId now = true) :
    (store.pruneSessions now).rotatedSessionAliases.lookup sessionId = some rotated := by
  have batch : (store.pruneSessionsBatch now).rotatedSessionAliases.lookup sessionId =
      some rotated := by
    have still := pruneSessionsBatch_live live
    unfold pruneSessionsBatch at still ⊢
    rw [hasLiveSession_congr (removeAliasesForInactives_sessions _ _ _)] at still
    exact removeAliasesForInactives_keeps _ found still
  have swept := sweepBatch_sweepsExpired RotatedSessionAlias.expiresAt
    (store.pruneSessionsBatch now).rotatedSessionAliases
    (store.pruneSessionsBatch now).rotatedSessionAliasSweep now
  rcases swept.dropped sessionId rotated batch with stays | ⟨_, expired⟩
  · exact stays
  · rw [expired] at unexpired
    contradiction

theorem deleteByLogicalSessionId_lookup {lineage sessionId : String}
    {session : Stored OidcVaultSession} :
    (store.deleteSessionsByLogicalSessionId lineage now).1.sessions.lookup sessionId =
        some session ↔
      store.sessions.lookup sessionId = some session ∧ isExpiredSession session now = false ∧
        session.fields.lineage ≠ lineage := by
  have remaining : (store.deleteInScope (fun session => session.lineage == lineage)
      now).1.sessions.lookup sessionId = some session ↔
      store.sessions.lookup sessionId = some session ∧ isExpiredSession session now = false ∧
        (session.fields.lineage == lineage) = false :=
    deleteInScope_lookup
  rw [beq_eq_false_iff_ne] at remaining
  rw [← remaining, deleteSessionsByLogicalSessionId]
  show ((removeAliasesForInactiveLogicalSessions _ _ now).sessions.lookup sessionId = _) ↔ _
  rw [removeAliasesForInactives_sessions]
  exact Iff.rfl

/-- A deletion goes through an unexpired alias of a lineage that has an unexpired session. -/
theorem deleteSession_lineage (consistent : Consistent store) {later : Number}
    (found : store.rotatedSessionAliases.lookup sessionId = some rotated)
    (unexpired : isExpiredRecord rotated.expiresAt now = false)
    (live : store.hasLiveSessionForLogicalSession rotated.logicalSessionId now = true) :
    ¬(store.deleteSession sessionId now later).1.HoldsLineage rotated.logicalSessionId := by
  have kept := pruneSessions_keeps_alias found unexpired live
  have absent : (store.pruneSessions now).sessions.lookup sessionId = none := by
    by_contra present
    obtain ⟨session, listed⟩ := Option.ne_none_iff_exists'.mp present
    rw [consistent.apart sessionId session ((Shrinks.pruneSessions _ now).sub _ _ listed)] at found
    contradiction
  rintro ⟨other, session, stored, same⟩
  unfold deleteSession at stored
  dsimp only at stored
  rw [absent, kept] at stored
  dsimp only at stored
  rw [unexpired] at stored
  exact (deleteByLogicalSessionId_lookup.mp stored).2.2 same

/-- In every state that calls in any order can reach: no id is both a session and an alias; each
alias names a lineage with a stored session; so no alias names a lineage after the call that
removes its last session; and a deletion through an unexpired alias leaves no unexpired session of
the lineage, and no session of it at all if one was unexpired when the call began. -/
theorem session_aliases_consistent {run : StoreRun} (reached : storeRuns.Reachable run) :
    (∀ sessionId session, run.store.sessions.lookup sessionId = some session →
      run.store.rotatedSessionAliases.lookup sessionId = none) ∧
    (∀ sessionId rotated, run.store.rotatedSessionAliases.lookup sessionId = some rotated →
      run.store.HoldsLineage rotated.logicalSessionId) ∧
    (∀ event after lineage, storeRuns.step run event = some after →
      run.store.HoldsLineage lineage → ¬after.store.HoldsLineage lineage →
      ∀ sessionId rotated, after.store.rotatedSessionAliases.lookup sessionId = some rotated →
        rotated.logicalSessionId ≠ lineage) ∧
    (∀ sessionId rotated now later after,
      run.store.rotatedSessionAliases.lookup sessionId = some rotated →
      isExpiredRecord rotated.expiresAt now = false →
      storeRuns.step run (.deleteSession sessionId later, now) = some after →
      (∀ other session, after.store.sessions.lookup other = some session →
        session.fields.lineage = rotated.logicalSessionId →
        isExpiredSession session now = true ∧ isExpiredSession session later = true) ∧
      (run.store.hasLiveSessionForLogicalSession rotated.logicalSessionId now = true →
        ¬after.store.HoldsLineage rotated.logicalSessionId)) := by
  have consistent := consistent_of_reachable reached
  refine ⟨consistent.apart, fun sessionId rotated found => ?_,
    fun event after lineage taken _ gone sessionId rotated found same => ?_,
    fun sessionId rotated now later after found unexpired taken => ?_⟩
  · exact (consistent.reaches sessionId rotated found).resolve_left id
  · have linked := consistent_of_reachable (reached.step event taken)
    apply gone
    rw [← same]
    exact (linked.reaches sessionId rotated found).resolve_left id
  · have happens := storeRuns_step taken
    have stored := happens.store
    have revokes : run.store.hasLiveSessionForLogicalSession rotated.logicalSessionId now =
        true → ¬after.store.HoldsLineage rotated.logicalSessionId := by
      intro live
      rw [stored]
      exact deleteSession_lineage consistent found unexpired live
    refine ⟨fun other session listed same => ?_, revokes⟩
    have dead : isExpiredSession session now = true := by
      by_contra live
      rw [Bool.not_eq_true] at live
      refine revokes ?_ ⟨other, session, listed, same⟩
      rw [stored] at listed
      exact (hasLiveSession_iff _ _ now).mpr
        ⟨other, session, (Shrinks.deleteSession _ _ now later).sub _ _ listed, same, live⟩
    exact ⟨dead, isExpiredRecord_mono happens.reads dead⟩

theorem session_aliases_consistent_rotatedTwice :
    (∃ after, storeRuns.step rotatedTwice
        (.deleteSession "first" (.finite 50), .finite 50) = some after ∧
      ¬after.store.HoldsLineage "first") ∧
    rotatedTwice.store.HoldsLineage "first" := by
  have consistent := session_aliases_consistent rotatedTwice_reachable
  have found : (rotatedTwice.store.rotatedSessionAliases.lookup "first").any (fun rotated =>
      rotated.logicalSessionId == "first" && !isExpiredRecord rotated.expiresAt (.finite 50)) =
        true := by
    decide +kernel
  have possible : (storeRuns.step rotatedTwice
      (.deleteSession "first" (.finite 50), .finite 50)).isSome = true := by
    decide +kernel
  have live : rotatedTwice.store.hasLiveSessionForLogicalSession "first" (.finite 50) = true := by
    decide +kernel
  obtain ⟨rotated, listed, fits⟩ := (Option.any_eq_true _ _).mp found
  obtain ⟨after, taken⟩ := Option.isSome_iff_exists.mp possible
  rw [Bool.and_eq_true, beq_iff_eq, Bool.not_eq_true'] at fits
  have holds := consistent.2.1 "first" rotated listed
  have revoked := consistent.2.2.2 "first" rotated (.finite 50) (.finite 50) after listed fits.2
    taken
  rw [fits.1] at holds revoked
  exact ⟨⟨after, taken, revoked.2 live⟩, holds⟩

/-- Sixty-four sessions come between the last form of a session that was rotated twice and another
session of its lineage, so that a sweep may see one of the two and not the other. -/
def crowdedLineage : List (Call × Number) :=
  rotateTwice ++
    ((List.range 64).map fun n =>
      (.createSession (plainSession (String.singleton (Char.ofNat (33 + n))) none none),
        .finite 3)) ++
    [(.createSession (plainSession "other" (some "first") (some (.finite 100))), .finite 4)]

/-- The deletion through an alias that never expires leaves a session of its lineage stored: the
sweep of the sessions finds one expired session of the lineage and removes its aliases, and with
them the alias that the deletion would have gone through. -/
theorem deletion_through_alias_leaves_expired :
    ¬∀ run, storeRuns.Reachable run → ∀ sessionId rotated now later after,
      run.store.rotatedSessionAliases.lookup sessionId = some rotated →
      isExpiredRecord rotated.expiresAt now = false →
      storeRuns.step run (.deleteSession sessionId later, now) = some after →
      ¬after.store.HoldsLineage rotated.logicalSessionId := by
  intro claim
  have trace : (storeRuns.run crowdedLineage).any (fun run =>
      (run.store.rotatedSessionAliases.lookup "first").any (fun rotated =>
        rotated.logicalSessionId == "first" &&
          !isExpiredRecord rotated.expiresAt (.finite 200)) &&
      (storeRuns.step run (.deleteSession "first" (.finite 200), .finite 200)).any fun after =>
        (after.store.sessions.lookup "other").any fun session =>
          session.fields.lineage == "first") = true := by
    decide +kernel
  obtain ⟨run, ran, trace⟩ := (Option.any_eq_true _ _).mp trace
  rw [Bool.and_eq_true] at trace
  obtain ⟨rotated, listed, fits⟩ := (Option.any_eq_true _ _).mp trace.1
  obtain ⟨after, taken, remains⟩ := (Option.any_eq_true _ _).mp trace.2
  obtain ⟨session, stored, same⟩ := (Option.any_eq_true _ _).mp remains
  rw [Bool.and_eq_true, beq_iff_eq, Bool.not_eq_true'] at fits
  apply claim run (.of_run ran) "first" rotated (.finite 200) (.finite 200) after listed fits.2
    taken
  exact ⟨"other", session, stored, (beq_iff_eq.mp same).trans fits.1.symm⟩

end WebTsToolkit.OidcVaultMemory
