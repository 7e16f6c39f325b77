import WebTsToolkit.Library.Identities
import WebTsToolkit.OidcVaultMemory.SessionLinks

set_option autoImplicit false

namespace WebTsToolkit.OidcVaultMemory

open Js Library OidcVault MemoryOidcVaultStore

variable {store before after : MemoryOidcVaultStore} {now : Number}

namespace MemoryOidcVaultStore

/-- The session that an id gives access to. -/
def unexpiredSession (store : MemoryOidcVaultStore) (now : Number) (sessionId : String) :
    Option (Stored OidcVaultSession) :=
  (store.sessions.lookup sessionId).filter fun session => !isExpiredSession session now

/-- The alias by which an id revokes a lineage that has an unexpired session. -/
def revokingAlias (store : MemoryOidcVaultStore) (now : Number) (sessionId : String) :
    Option RotatedSessionAlias :=
  (store.rotatedSessionAliases.lookup sessionId).filter fun rotated =>
    !isExpiredRecord rotated.expiresAt now &&
      store.hasLiveSessionForLogicalSession rotated.logicalSessionId now

end MemoryOidcVaultStore

/-- Two stores give access to the same sessions, and revoke by the same aliases. -/
structure SameAuthority (now : Number) (before after : MemoryOidcVaultStore) : Prop where
  sessions : ∀ sessionId, after.unexpiredSession now sessionId =
    before.unexpiredSession now sessionId
  aliases : ∀ sessionId, after.revokingAlias now sessionId = before.revokingAlias now sessionId

theorem unexpiredSession_eq_some {sessionId : String} {session : Stored OidcVaultSession} :
    store.unexpiredSession now sessionId = some session ↔
      store.sessions.lookup sessionId = some session ∧ isExpiredSession session now = false := by
  rw [unexpiredSession, Option.filter_eq_some_iff, Bool.not_eq_true']

/-- Only unexpired sessions keep a lineage live. -/
theorem hasLiveSession_of_unexpired
    (same : ∀ sessionId, after.unexpiredSession now sessionId =
      before.unexpiredSession now sessionId) (lineage : String) :
    after.hasLiveSessionForLogicalSession lineage now =
      before.hasLiveSessionForLogicalSession lineage now := by
  rw [Bool.eq_iff_iff, hasLiveSession_iff, hasLiveSession_iff]
  have either : ∀ sessionId session,
      (after.sessions.lookup sessionId = some session ∧ isExpiredSession session now = false) ↔
        (before.sessions.lookup sessionId = some session ∧
          isExpiredSession session now = false) := by
    intro sessionId session
    rw [← unexpiredSession_eq_some, ← unexpiredSession_eq_some, same]
  constructor
  · rintro ⟨sessionId, session, found, lineage_eq, unexpired⟩
    obtain ⟨listed, _⟩ := (either sessionId session).mp ⟨found, unexpired⟩
    exact ⟨sessionId, session, listed, lineage_eq, unexpired⟩
  · rintro ⟨sessionId, session, found, lineage_eq, unexpired⟩
    obtain ⟨listed, _⟩ := (either sessionId session).mpr ⟨found, unexpired⟩
    exact ⟨sessionId, session, listed, lineage_eq, unexpired⟩

theorem revokingAlias_eq_some {sessionId : String} {rotated : RotatedSessionAlias} :
    store.revokingAlias now sessionId = some rotated ↔
      store.rotatedSessionAliases.lookup sessionId = some rotated ∧
        isExpiredRecord rotated.expiresAt now = false ∧
        store.hasLiveSessionForLogicalSession rotated.logicalSessionId now = true := by
  rw [revokingAlias, Option.filter_eq_some_iff, Bool.and_eq_true, Bool.not_eq_true']

theorem dropExpiredSession_unexpired (store : MemoryOidcVaultStore) (sessionId other : String)
    (now : Number) : (store.dropExpiredSession sessionId now).unexpiredSession now other =
      store.unexpiredSession now other := by
  apply Option.ext
  intro session
  rw [unexpiredSession_eq_some, unexpiredSession_eq_some, dropExpiredSession_lookup,
    Option.filter_eq_some_iff, and_assoc, and_congr_right_iff]
  intro _
  constructor
  · exact And.right
  · intro unexpired
    exact ⟨by rw [unexpired, Bool.not_false, Bool.or_true], unexpired⟩

/-- The cleaning up of an expired session takes no authority away. -/
theorem dropExpiredSession_sameAuthority (store : MemoryOidcVaultStore) (sessionId : String)
    (now : Number) : SameAuthority now store (store.dropExpiredSession sessionId now) := by
  have unexpired := fun other => dropExpiredSession_unexpired store sessionId other now
  refine ⟨unexpired, fun other => ?_⟩
  apply Option.ext
  intro rotated
  have live := hasLiveSession_of_unexpired unexpired
  rw [revokingAlias_eq_some, revokingAlias_eq_some, live]
  apply and_congr_left
  rintro ⟨_, authority⟩
  unfold dropExpiredSession at live ⊢
  split
  · next session found =>
    rw [found] at live
    dsimp only at live
    split
    · next expired =>
      rw [if_pos expired] at live
      have kept := live session.fields.lineage
      rw [hasLiveSession_congr (removeAliasesForInactive_sessions _ _ _)] at kept
      rw [removeAliasesForInactive_lookup, kept, Option.filter_eq_some_iff]
      refine and_iff_left ?_
      by_cases same : rotated.logicalSessionId = session.fields.lineage
      · rw [← same, authority, Bool.or_true]
      · rw [bne_iff_ne.mpr same, Bool.true_or]
    · exact Iff.rfl
  · exact Iff.rfl

section Move

variable {source : Stored OidcVaultSession} {sessionId : String} {session : OidcVaultSession}

/-- A session moves: its id leaves, the target gets the next session, and all else stays. -/
theorem moveSession_lookup (other : String) :
    (store.moveSession source sessionId session now).sessions.lookup other =
      if other = session.sessionId then some ⟨store.made, session⟩
      else if other = sessionId then none
      else store.sessions.lookup other := by
  have made := (Shrinks.dropExpiredSession store session.sessionId now).made
  have written : (store.moveSession source sessionId session now).sessions =
      Map.set ((store.dropExpiredSession session.sessionId now).sessions.erase sessionId)
        session.sessionId ⟨(store.dropExpiredSession session.sessionId now).made, session⟩ := by
    unfold moveSession
    dsimp only
    split
    · rw [removeAliasesForInactive_sessions]
      rfl
    · rfl
  rw [written, Map.lookup_set, Rows.lookup_erase, made]
  by_cases target : other = session.sessionId
  · rw [if_pos target, if_pos target]
  · rw [if_neg target, if_neg target]
    by_cases gone : other = sessionId
    · rw [if_pos gone, if_pos gone]
    · rw [if_neg gone, if_neg gone, dropExpiredSession_lookup]
      cases store.sessions.lookup other with
      | none => rfl
      | some stays => rw [Option.filter_some_pos (by rw [bne_iff_ne.mpr target, Bool.true_or])]

theorem moveSession_made :
    (store.moveSession source sessionId session now).made = store.made + 1 := by
  have made := (Shrinks.dropExpiredSession store session.sessionId now).made
  unfold moveSession
  dsimp only
  split
  · rw [(Shrinks.removeInactive _ _ now).made]
    exact congrArg (· + 1) made
  · exact congrArg (· + 1) made

/-- The id that a session moves from becomes an alias of the lineage of the next session. -/
theorem moveSession_alias :
    (store.moveSession source sessionId session now).rotatedSessionAliases.lookup sessionId =
      some { logicalSessionId := session.lineage, expiresAt := session.expiresAt } := by
  unfold moveSession
  dsimp only
  split
  · next changed =>
    rw [removeAliasesForInactive_lookup, writeAlias, Map.lookup_set, if_pos rfl,
      Option.filter_some_pos]
    rw [bne_iff_ne.mpr (Ne.symm changed), Bool.true_or]
  · rw [writeAlias, Map.lookup_set, if_pos rfl]

end Move

/-- What a rotation that succeeds does: the source id is no session any more and an alias to the
lineage of the next session, which has the binding of its source, and every other session is the
one that it was. -/
structure Rotates (before after : MemoryOidcVaultStore) (now : Number)
    (input : RotateSessionInput) (source : Stored OidcVaultSession) (session : OidcVaultSession) :
    Prop where
  found : before.unexpiredSession now input.sessionId = some source
  target : session.sessionId = input.nextSession.sessionId
  apart : session.sessionId ≠ input.sessionId
  retired : after.sessions.lookup input.sessionId = none
  handle : after.rotatedSessionAliases.lookup input.sessionId =
    some { logicalSessionId := session.lineage, expiresAt := session.expiresAt }
  stored : after.sessions.lookup session.sessionId = some ⟨before.made, session⟩
  binding : SameBinding source.fields.deviceBinding session.deviceBinding
  others : ∀ other, other ≠ input.sessionId → other ≠ session.sessionId →
    after.sessions.lookup other = before.sessions.lookup other
  vacant : before.unexpiredSession now session.sessionId = none
  made : after.made = before.made + 1

/-- The cleaning up of a session leaves the other ones. -/
theorem dropExpiredSession_other {sessionId other : String} (apart : other ≠ sessionId) :
    (store.dropExpiredSession sessionId now).sessions.lookup other =
      store.sessions.lookup other := by
  rw [dropExpiredSession_lookup]
  cases store.sessions.lookup other with
  | none => rfl
  | some stays => rw [Option.filter_some_pos (by rw [bne_iff_ne.mpr apart, Bool.true_or])]

theorem dropExpiredSession_self {sessionId : String} :
    (store.dropExpiredSession sessionId now).sessions.lookup sessionId =
      store.unexpiredSession now sessionId := by
  rw [dropExpiredSession_lookup, unexpiredSession, bne_self_eq_false]
  simp only [Bool.false_or]

/-- A rotation fails after the cleaning up of an expired source, or succeeds as a whole. -/
theorem rotateSession_cases (store : MemoryOidcVaultStore) (input : RotateSessionInput)
    (now : Number) :
    (∃ error, (store.rotateSession input now).2 = .error error ∧
      (store.rotateSession input now).1 = store.dropExpiredSession input.sessionId now) ∨
    (∃ source session, (store.rotateSession input now).2 = .ok session ∧
      Rotates store (store.rotateSession input now).1 now input source session) := by
  have made := (Shrinks.dropExpiredSession store input.sessionId now).made
  unfold rotateSession
  dsimp only
  split
  · next error _ => exact Or.inl ⟨error, rfl, rfl⟩
  · next source next passed =>
    have checks := checkRotation_eq_ok passed
    have target := checks.sessionId_eq
    have apart : next.sessionId ≠ input.sessionId := target ▸ checks.apart
    obtain ⟨cloned, _, inherited⟩ := checks.inherited
    refine Or.inr ⟨source, _, rfl, ?_⟩
    constructor
    case found => exact dropExpiredSession_self.symm.trans checks.found
    case target => exact target
    case apart => exact apart
    case retired =>
      have elsewhere : input.sessionId ≠
          (sessionOf next (next.logicalSessionId.getD source.fields.lineage) now).sessionId :=
        apart.symm
      rw [moveSession_lookup, if_neg elsewhere, if_pos rfl]
    case handle => exact moveSession_alias
    case stored => rw [moveSession_lookup, if_pos rfl, made]
    case binding => exact (inheritSessionBinding_eq_ok inherited).1
    case others =>
      intro other notSource notTarget
      rw [moveSession_lookup, if_neg notTarget, if_neg notSource]
      exact dropExpiredSession_other notSource
    case vacant =>
      by_contra present
      obtain ⟨session, listed⟩ := Option.ne_none_iff_exists'.mp present
      obtain ⟨stored, unexpired⟩ := unexpiredSession_eq_some.mp listed
      have still : (store.dropExpiredSession input.sessionId now).sessions.lookup
          input.nextSession.sessionId = some session := by
        rw [dropExpiredSession_other checks.apart, ← target]
        exact stored
      rw [checks.vacant session still] at unexpired
      contradiction
    case made => rw [moveSession_made, made]

/-- A rotation that succeeded, with the session that it read and the one that it stored. -/
structure Rotation where
  source : Stored OidcVaultSession
  next : Stored OidcVaultSession

def Occurrence.rotation (occurrence : Occurrence) : Option Rotation :=
  match occurrence.call with
  | .rotateSession input =>
    match (occurrence.before.rotateSession input occurrence.now).2 with
    | .ok session => do
      let source ← occurrence.before.sessions.lookup input.sessionId
      let next ← occurrence.after.sessions.lookup session.sessionId
      return { source, next }
    | .error _ => none
  | _ => none

/-- The rotations of a run that succeeded, the latest first. -/
def StoreRun.rotations (run : StoreRun) : List Rotation :=
  run.past.filterMap Occurrence.rotation

theorem Rotates.lookup {input : RotateSessionInput} {source : Stored OidcVaultSession}
    {session : OidcVaultSession} (rotates : Rotates before after now input source session)
    {other : String} {listed : Stored OidcVaultSession}
    (found : after.sessions.lookup other = some listed) :
    before.sessions.lookup other = some listed ∨
      (other = session.sessionId ∧ listed = ⟨before.made, session⟩) := by
  by_cases target : other = session.sessionId
  · rw [target, rotates.stored] at found
    exact Or.inr ⟨target, (Option.some.inj found).symm⟩
  · by_cases source : other = input.sessionId
    · rw [source, rotates.retired] at found
      contradiction
    · rw [rotates.others other source target] at found
      exact Or.inl found

/-- A session is created with the identity that is next, or not at all. -/
theorem createSession_cases (store : MemoryOidcVaultStore) (input : OidcVaultSessionInput)
    (now : Number) :
    (store.createSession input now).1 = store ∨
      ∃ session, (store.createSession input now).1.made = store.made + 1 ∧
        (store.createSession input now).1.sessions =
          Map.set (store.pruneSessions now).sessions session.sessionId ⟨store.made, session⟩ := by
  have made := (Shrinks.pruneSessions store now).made
  unfold createSession
  dsimp only
  split
  · exact Or.inl rfl
  · next input _ =>
    refine Or.inr ⟨sessionOf input input.lineage now, ?_⟩
    rw [← made]
    split
    · split
      · rw [(Shrinks.removeInactive _ _ now).made, removeAliasesForInactive_sessions]
        exact ⟨rfl, rfl⟩
      · exact ⟨rfl, rfl⟩
    · exact ⟨rfl, rfl⟩

/-- What a call does to the sessions is to drop some, and to store at most one new one. -/
theorem perform_renews {known : Stored OidcVaultSession → Prop} {retired : List Nat}
    (tracked : Tracked Stored.identity (store.sessions.lookup ·) store.made known retired)
    (call : Call) (now : Number) :
    Renews Stored.identity (store.sessions.lookup ·)
      ((store.perform call now).1.sessions.lookup ·) store.made
      (store.perform call now).1.made := by
  have shrinks : ∀ {after : MemoryOidcVaultStore}, Shrinks store after →
      Renews Stored.identity (store.sessions.lookup ·) (after.sessions.lookup ·) store.made
        after.made := by
    intro after less
    exact tracked.shrinks (Nat.le_of_eq less.made.symm) less.sub
  by_cases records : call.onSessions = false
  · have same := perform_sameSessions store now records
    rw [same.sessions]
    exact tracked.shrinks same.made fun _ _ found => found
  · cases call with
    | createSession input =>
      show Renews _ _ ((store.createSession input now).1.sessions.lookup ·) _
        (store.createSession input now).1.made
      rcases createSession_cases store input now with failed | ⟨session, made, written⟩
      · rw [failed]
        exact shrinks (.refl store)
      · rw [made, written]
        apply tracked.writes (Nat.lt_succ_self _) session.sessionId ⟨store.made, session⟩ rfl
        intro other listed found
        rw [Map.lookup_set] at found
        split at found
        · next same => exact Or.inr ⟨same, (Option.some.inj found).symm⟩
        · exact Or.inl ((Shrinks.pruneSessions store now).sub other listed found)
    | getSession sessionId =>
      apply shrinks
      show Shrinks store (store.getSession sessionId now).1
      unfold getSession
      dsimp only
      split <;> exact Shrinks.dropExpiredSession store sessionId now
    | rotateSession input =>
      show Renews _ _ ((store.rotateSession input now).1.sessions.lookup ·) _
        (store.rotateSession input now).1.made
      rcases rotateSession_cases store input now with ⟨_, _, failed⟩ |
        ⟨source, session, _, rotates⟩
      · rw [failed]
        exact shrinks (.dropExpiredSession store input.sessionId now)
      · rw [rotates.made]
        apply tracked.writes (Nat.lt_succ_self _) session.sessionId ⟨store.made, session⟩ rfl
        exact fun other listed found => rotates.lookup found
    | deleteSession sessionId later => exact shrinks (.deleteSession store sessionId now later)
    | finishDeleteSession sessionId => exact shrinks (.forgetAlias store sessionId)
    | deleteSessionsByLogicalSessionId lineage =>
      exact shrinks (.deleteByLogicalSessionId store lineage now)
    | deleteSessionsBySubject subject scope =>
      exact shrinks (.deleteScope store (fun session => session.subject == subject &&
        matchesProviderScope session scope) now)
    | deleteSessionsByProviderSessionId id scope =>
      exact shrinks (.deleteScope store (fun session => session.providerSessionId == some id &&
        matchesProviderScope session scope) now)
    | _ => exact absurd rfl records

theorem Occurrence.rotation_eq_some {occurrence : Occurrence} {rotation : Rotation}
    (rotated : occurrence.rotation = some rotation) :
    ∃ input session, Rotates occurrence.before occurrence.after occurrence.now input
      rotation.source session ∧ rotation.next = ⟨occurrence.before.made, session⟩ := by
  unfold Occurrence.rotation at rotated
  split at rotated
  · next input call =>
    split at rotated
    · next session answer =>
      obtain ⟨source, found, rotated⟩ := Option.bind_eq_some_iff.mp rotated
      obtain ⟨next, stored, rotated⟩ := Option.bind_eq_some_iff.mp rotated
      have same : { source, next } = rotation := Option.some.inj rotated
      rcases rotateSession_cases occurrence.before input occurrence.now with
        ⟨error, failed, _⟩ | ⟨origin, moved, succeeded, rotates⟩
      · rw [failed] at answer
        contradiction
      · rw [succeeded] at answer
        have after : occurrence.after =
            (occurrence.before.rotateSession input occurrence.now).1 := by
          rw [Occurrence.after, call]
          rfl
        have here : moved = session := Except.ok.inj answer
        have listed := (unexpiredSession_eq_some.mp rotates.found).1
        have atSource : origin = source := Option.some.inj (listed.symm.trans found)
        rw [after, ← here, rotates.stored] at stored
        rw [← same, after]
        exact ⟨input, moved, atSource ▸ rotates, (Option.some.inj stored).symm⟩
    · contradiction
  · contradiction

/-- Each rotation that succeeds is one of its run. -/
theorem Occurrence.rotation_of_success {occurrence : Occurrence} {input : RotateSessionInput}
    {session : OidcVaultSession} (call : occurrence.call = .rotateSession input)
    (answer : (occurrence.before.rotateSession input occurrence.now).2 = .ok session) :
    ∃ source, occurrence.before.sessions.lookup input.sessionId = some source ∧
      occurrence.rotation = some ⟨source, ⟨occurrence.before.made, session⟩⟩ := by
  rcases rotateSession_cases occurrence.before input occurrence.now with
    ⟨error, failed, _⟩ | ⟨source, moved, succeeded, rotates⟩
  · rw [failed] at answer
    contradiction
  · rw [succeeded] at answer
    have here : moved = session := Except.ok.inj answer
    have found := (unexpiredSession_eq_some.mp rotates.found).1
    have after : occurrence.after =
        (occurrence.before.rotateSession input occurrence.now).1 := by
      rw [Occurrence.after, call]
      rfl
    have stored := rotates.stored
    rw [← after, here] at stored
    rw [here] at succeeded
    refine ⟨source, found, ?_⟩
    rw [Occurrence.rotation, call]
    simp only [succeeded, found, stored, Option.bind_eq_bind, Option.bind_some, Option.pure_def]

/-- The objects of a run keep their identities, and the source of a rotation is gone for good. -/
def Followed (run : StoreRun) : Prop :=
  ∃ known, Tracked Stored.identity (run.store.sessions.lookup ·) run.store.made known
      (run.rotations.map fun rotation => rotation.source.identity) ∧
    ∀ rotation ∈ run.rotations, known rotation.source ∧ known rotation.next ∧
      SameBinding rotation.source.fields.deviceBinding rotation.next.fields.deviceBinding

theorem followed_start : Followed storeRuns.start :=
  ⟨fun _ => False, tracked_empty Stored.identity,
    fun _ member => absurd member List.not_mem_nil⟩

theorem Followed.step {run after : StoreRun} {call : Call} (followed : Followed run)
    (taken : storeRuns.step run (call, now) = some after) : Followed after := by
  obtain ⟨known, tracked, each⟩ := followed
  have happens := storeRuns_step taken
  have renews := perform_renews tracked call now
  let occurrence : Occurrence := { before := run.store, call, now }
  have stored : after.store = occurrence.after := happens.store
  have past : after.rotations = (occurrence :: run.past).filterMap Occurrence.rotation := by
    rw [StoreRun.rotations, happens.past]
  rw [Followed, stored, past]
  refine ⟨fun item => known item ∨ ∃ sessionId,
    occurrence.after.sessions.lookup sessionId = some item, ?_⟩
  cases rotated : occurrence.rotation with
  | none =>
    rw [List.filterMap_cons_none rotated]
    refine ⟨tracked.renew renews, fun rotation member => ?_⟩
    obtain ⟨source, next, binding⟩ := each rotation member
    exact ⟨Or.inl source, Or.inl next, binding⟩
  | some rotation =>
    obtain ⟨input, session, rotates, next⟩ := Occurrence.rotation_eq_some rotated
    have found := (unexpiredSession_eq_some.mp rotates.found).1
    have listed := tracked.held input.sessionId rotation.source found
    rw [List.filterMap_cons_some rotated]
    refine ⟨tracked.retire renews found fun other there => ?_, fun moved member => ?_⟩
    · rcases rotates.lookup there with before | ⟨_, fresh⟩
      · rw [tracked.apart other input.sessionId rotation.source before found] at there
        have gone : occurrence.after.sessions.lookup input.sessionId =
          some rotation.source := there
        rw [rotates.retired] at gone
        contradiction
      · have below := tracked.below rotation.source listed
        rw [fresh] at below
        exact absurd below (lt_irrefl _)
    · rcases List.mem_cons.mp member with same | earlier
      · rw [same, next]
        exact ⟨Or.inl listed, Or.inr ⟨session.sessionId, rotates.stored⟩, rotates.binding⟩
      · obtain ⟨source, moved, binding⟩ := each moved earlier
        exact ⟨Or.inl source, Or.inl moved, binding⟩

theorem followed_of_reachable {run : StoreRun} (reached : storeRuns.Reachable run) :
    Followed run :=
  reached.invariant followed_start fun _ _ _ followed taken => followed.step taken

theorem SameBinding.trans {first second third : Value} (left : SameBinding first second)
    (right : SameBinding second third) : SameBinding first third := by
  rcases left with ⟨none, empty⟩ | ⟨jkt, bound, _, named, same⟩
  · rcases right with ⟨_, last⟩ | ⟨_, there, _, _, _⟩
    · exact Or.inl ⟨none, last⟩
    · rw [empty] at there
      contradiction
  · rcases right with ⟨empty, _⟩ | ⟨other, _, last, here, there⟩
    · rw [empty] at same
      contradiction
    · have key : other = jkt := Option.some.inj (here.symm.trans same)
      exact Or.inr ⟨jkt, bound, last, named, key ▸ there⟩

/-- The next session of one rotation is the source of the next. -/
abbrev Follows (first second : Rotation) : Prop :=
  first.next.identity = second.source.identity

/-- Along a chain of rotations the binding stays the same. -/
theorem Followed.chain {run : StoreRun} (followed : Followed run) {first : Rotation}
    {rest : List Rotation} (each : ∀ rotation ∈ first :: rest, rotation ∈ run.rotations)
    (chained : (first :: rest).IsChain Follows) {last : Rotation} (member : last ∈ first :: rest) :
    SameBinding first.source.fields.deviceBinding last.next.fields.deviceBinding := by
  obtain ⟨known, tracked, facts⟩ := followed
  induction rest generalizing first with
  | nil =>
    rw [List.mem_singleton.mp member]
    exact (facts first (each first List.mem_cons_self)).2.2
  | cons second rest ih =>
    have here := facts first (each first List.mem_cons_self)
    rcases List.mem_cons.mp member with same | later
    · rw [same]
      exact here.2.2
    · have there := facts second (each second (List.mem_cons_of_mem _ List.mem_cons_self))
      obtain ⟨follows, chained⟩ := List.isChain_cons_cons.mp chained
      have object := tracked.unique first.next second.source here.2.1 there.1 follows
      have tail := ih (fun rotation listed => each rotation (List.mem_cons_of_mem _ listed))
        chained later
      rw [← object] at tail
      exact here.2.2.trans tail

/-- In every state that calls in any order can reach, a rotation fails and leaves the unexpired
sessions and the aliases that revoke them as they were, or succeeds as a whole. No session is the
source of two rotations that succeed, and along a chain of them the binding stays the same. -/
theorem rotation_atomic {run : StoreRun} (reached : storeRuns.Reachable run) :
    (∀ input now,
      (∃ error, (run.store.rotateSession input now).2 = .error error ∧
        SameAuthority now run.store (run.store.rotateSession input now).1) ∨
      (∃ source session, (run.store.rotateSession input now).2 = .ok session ∧
        Rotates run.store (run.store.rotateSession input now).1 now input source session)) ∧
    (∀ occurrence ∈ run.past, ∀ input session, occurrence.call = .rotateSession input →
      (occurrence.before.rotateSession input occurrence.now).2 = .ok session →
      ∃ source, occurrence.before.sessions.lookup input.sessionId = some source ∧
        ⟨source, ⟨occurrence.before.made, session⟩⟩ ∈ run.rotations) ∧
    (run.rotations.map fun rotation => rotation.source.identity).Nodup ∧
    (∀ first rest, (∀ rotation ∈ first :: rest, rotation ∈ run.rotations) →
      (first :: rest).IsChain Follows → ∀ last ∈ first :: rest,
        SameBinding first.source.fields.deviceBinding last.next.fields.deviceBinding) := by
  have followed := followed_of_reachable reached
  obtain ⟨_, tracked, _⟩ := followed_of_reachable reached
  refine ⟨fun input now => ?_, fun occurrence member input session call answer => ?_,
    tracked.distinct, fun first rest each chained last member => followed.chain each chained member⟩
  · rcases rotateSession_cases run.store input now with ⟨error, failed, same⟩ | succeeded
    · rw [same]
      exact Or.inl
        ⟨error, failed, dropExpiredSession_sameAuthority run.store input.sessionId now⟩
    · exact Or.inr succeeded
  · obtain ⟨source, found, rotated⟩ := Occurrence.rotation_of_success call answer
    exact ⟨source, found, List.mem_filterMap.mpr ⟨occurrence, member, rotated⟩⟩

theorem rotation_atomic_rotatedTwice :
    (rotatedTwice.rotations.map fun rotation => rotation.source.identity) = [1, 0] ∧
      (rotatedTwice.rotations.map fun rotation => rotation.source.identity).Nodup :=
  ⟨by decide +kernel, (rotation_atomic rotatedTwice_reachable).2.2.1⟩

end WebTsToolkit.OidcVaultMemory
