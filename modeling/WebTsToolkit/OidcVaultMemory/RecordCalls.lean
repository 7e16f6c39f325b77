import WebTsToolkit.Library.Identities
import WebTsToolkit.OidcVaultMemory.Runs

set_option autoImplicit false

namespace WebTsToolkit.OidcVaultMemory

open Js Library OidcVault

/-- What a call is to one map of one-time records. A consuming call names a key and accepts some
of the records. -/
inductive RecordCall (α : Type) where
  | other
  | create (key : String) (record : α)
  | read (key : String)
  | consume (key : String) (accepts : α → Bool)

section

variable {α : Type} {fields : α → OneTimeFields} {now : Number}

/-- The map after a call, and the record that the call took from it. -/
def RecordCall.perform (fields : α → OneTimeFields) (call : RecordCall α)
    (map : Map (Stored α)) (sweep : MapSweepState) (made : Nat) (now : Number) :
    Map (Stored α) × Option (Stored α) :=
  match call with
  | .other => (map, none)
  | .create key record => ((pruneRecordsBatch fields map sweep now).map.set key ⟨made, record⟩, none)
  | .read key => ((readOneTimeRecord fields map key now).1, none)
  | .consume key accepts =>
    consumeRecord fields accepts (pruneRecordsBatch fields map sweep now).map key now

/-- Records leave, and only ones that nobody can read any more. -/
structure Keeps (fields : α → OneTimeFields) (now : Number) (before after : Map (Stored α)) :
    Prop where
  sub : ∀ key record, after.lookup key = some record → before.lookup key = some record
  stays : ∀ key record, before.lookup key = some record → readable fields record now = true →
    after.lookup key = some record

namespace Keeps

theorem refl (fields : α → OneTimeFields) (now : Number) (map : Map (Stored α)) :
    Keeps fields now map map :=
  ⟨fun _ _ found => found, fun _ _ found _ => found⟩

theorem trans {before middle after : Map (Stored α)} (first : Keeps fields now before middle)
    (second : Keeps fields now middle after) : Keeps fields now before after :=
  ⟨fun key record found => first.sub key record (second.sub key record found),
    fun key record found valid => second.stays key record (first.stays key record found valid)
      valid⟩

variable (fields) in
theorem prune (map : Map (Stored α)) (sweep : MapSweepState) (now : Number) :
    Keeps fields now map (pruneRecordsBatch fields map sweep now).map := by
  have swept := sweepBatch_sweepsExpired
    (fun record : Stored α => some (fields record.fields).expiresAt) map sweep now
  refine ⟨swept.kept, fun key record found valid => ?_⟩
  rcases swept.dropped key record found with stays | ⟨_, expired⟩
  · exact stays
  · have dead : isExpiredOneTime fields record now = true := expired
    rw [readable, dead] at valid
    simp at valid

end Keeps

variable (fields) in
/-- A read finds the record of its key if that is readable, and may delete it if not. -/
theorem readOneTimeRecord_cases (map : Map (Stored α)) (key : String) (now : Number) :
    (∃ record, readOneTimeRecord fields map key now = (map, some record) ∧
      map.lookup key = some record ∧ readable fields record now = true) ∨
    (∃ less, readOneTimeRecord fields map key now = (less, none) ∧
      Keeps fields now map less ∧
      ∀ record, map.lookup key = some record → readable fields record now = false) := by
  unfold readOneTimeRecord
  cases found : map.lookup key with
  | none =>
    refine Or.inr ⟨map, rfl, Keeps.refl fields now map, fun _ listed => ?_⟩
    contradiction
  | some record =>
    by_cases valid : readable fields record now = true
    · exact Or.inl ⟨record, if_pos valid, rfl, valid⟩
    · refine Or.inr ⟨map.erase key, if_neg valid, ⟨fun other listed there => ?_,
        fun other listed there good => ?_⟩, fun listed same => ?_⟩
      · rw [Rows.lookup_erase] at there
        split at there
        · contradiction
        · exact there
      · rw [Rows.lookup_erase, if_neg]
        · exact there
        · intro same
          rw [same, found] at there
          exact valid (Option.some.inj there ▸ good)
      · rw [← Option.some.inj same]
        exact Bool.eq_false_iff.mpr valid

theorem readOneTimeRecord_keeps (map : Map (Stored α)) (key : String) (now : Number) :
    Keeps fields now map (readOneTimeRecord fields map key now).1 := by
  rcases readOneTimeRecord_cases fields map key now with
    ⟨_, same, _⟩ | ⟨_, same, keeps, _⟩
  · rw [same]
    exact Keeps.refl fields now map
  · rw [same]
    exact keeps

/-- What a call does to a map: it takes no readable record away, or it stores a new record, or it
takes the one that it answers with. -/
inductive RecordEffect (fields : α → OneTimeFields) (call : RecordCall α) (now : Number)
    (made : Nat) (before : Map (Stored α)) : Map (Stored α) → Option (Stored α) → Prop where
  | kept (after : Map (Stored α)) (keeps : Keeps fields now before after)
      (refused : ∀ key accepts record, call = .consume key accepts →
        before.lookup key = some record → readable fields record now = true →
        accepts record.fields = false) :
      RecordEffect fields call now made before after none
  | created (less : Map (Stored α)) (key : String) (record : α)
      (here : call = .create key record) (keeps : Keeps fields now before less) :
      RecordEffect fields call now made before (less.set key ⟨made, record⟩) none
  | consumed (less : Map (Stored α)) (key : String) (accepts : α → Bool) (record : Stored α)
      (here : call = .consume key accepts) (keeps : Keeps fields now before less)
      (found : before.lookup key = some record) (valid : readable fields record now = true)
      (accepted : accepts record.fields = true) :
      RecordEffect fields call now made before (less.erase key) (some record)

theorem RecordCall.perform_effect (call : RecordCall α) (map : Map (Stored α))
    (sweep : MapSweepState) (made : Nat) (now : Number) :
    RecordEffect fields call now made map (call.perform fields map sweep made now).1
      (call.perform fields map sweep made now).2 := by
  have pruned := Keeps.prune fields map sweep now
  cases call with
  | other =>
    refine .kept map (Keeps.refl fields now map) fun key accepts record same => ?_
    contradiction
  | create key record => exact .created _ key record rfl pruned
  | read key =>
    refine .kept _ (readOneTimeRecord_keeps map key now) fun key accepts record same => ?_
    contradiction
  | consume key accepts =>
    show RecordEffect fields _ now made map (consumeRecord fields accepts _ key now).1
      (consumeRecord fields accepts _ key now).2
    unfold consumeRecord
    rcases readOneTimeRecord_cases fields
      (pruneRecordsBatch fields map sweep now).map key now with
      ⟨record, same, found, valid⟩ | ⟨less, same, keeps, unreadable⟩
    · rw [same]
      dsimp only
      split
      · next accepted =>
        exact .consumed _ key accepts record rfl pruned (pruned.sub key record found) valid
          accepted
      · next refused =>
        refine .kept _ pruned fun other test listed here there good => ?_
        obtain ⟨rfl, rfl⟩ := RecordCall.consume.inj here
        rw [pruned.stays key listed there good] at found
        rw [Option.some.inj found]
        exact Bool.eq_false_iff.mpr refused
    · rw [same]
      refine .kept less (pruned.trans keeps) fun other test listed here there good => ?_
      obtain ⟨rfl, rfl⟩ := RecordCall.consume.inj here
      rw [unreadable listed (pruned.stays key listed there good)] at good
      contradiction

/-- What a call does to a map, and to the counter of the records that are made. -/
structure RecordStep (fields : α → OneTimeFields) (call : RecordCall α) (now : Number)
    (made made' : Nat) (before after : Map (Stored α)) (taken : Option (Stored α)) : Prop where
  effect : RecordEffect fields call now made before after taken
  grows : made ≤ made'
  makes : ∀ key record, call = .create key record → made < made'

theorem recordStep_perform (call : RecordCall α) (map : Map (Stored α)) (sweep : MapSweepState)
    {made made' : Nat} (grows : made ≤ made')
    (makes : ∀ key record, call = .create key record → made < made') :
    RecordStep fields call now made made' map (call.perform fields map sweep made now).1
      (call.perform fields map sweep made now).2 :=
  ⟨call.perform_effect map sweep made now, grows, makes⟩

/-- A call on other records. -/
theorem recordStep_other (map : Map (Stored α)) {made made' : Nat} (grows : made ≤ made') :
    RecordStep fields .other now made made' map map none :=
  recordStep_perform .other map .new grows fun _ _ same => by contradiction

namespace RecordStep

variable {call : RecordCall α} {made made' : Nat} {before after : Map (Stored α)}
  {taken : Option (Stored α)}

theorem renews (step : RecordStep fields call now made made' before after taken)
    {known : Stored α → Prop} {retired : List Nat}
    (tracked : Tracked Stored.identity (before.lookup ·) made known retired) :
    Renews Stored.identity (before.lookup ·) (after.lookup ·) made made' := by
  cases step.effect with
  | kept _ keeps _ => exact tracked.shrinks step.grows keeps.sub
  | created less key record here keeps =>
    apply tracked.writes (step.makes key record here) key ⟨made, record⟩ rfl
    intro other listed found
    rw [Map.lookup_set] at found
    split at found
    · next same => exact Or.inr ⟨same, (Option.some.inj found).symm⟩
    · exact Or.inl (keeps.sub other listed found)
  | consumed less key accepts record here keeps found valid accepted =>
    apply tracked.shrinks step.grows
    intro other listed there
    rw [Rows.lookup_erase] at there
    split at there
    · contradiction
    · exact keeps.sub other listed there

/-- The record that a call takes is gone for good. -/
theorem tracked (step : RecordStep fields call now made made' before after taken)
    {known : Stored α → Prop} {retired : List Nat}
    (tracked : Tracked Stored.identity (before.lookup ·) made known retired) :
    ∃ known', Tracked Stored.identity (after.lookup ·) made' known'
      ((taken.map Stored.identity).toList ++ retired) := by
  have renews := step.renews tracked
  cases step.effect with
  | kept _ _ _ | created _ _ _ _ _ => exact ⟨_, tracked.renew renews⟩
  | consumed less key accepts record here keeps found valid accepted =>
    refine ⟨_, tracked.retire renews found fun other there => ?_⟩
    rw [Rows.lookup_erase] at there
    split at there
    · contradiction
    · next apart =>
      exact apart (tracked.apart other key record (keeps.sub other record there) found)

/-- A readable record stays unless a call of its key replaces or takes it. -/
theorem stays (step : RecordStep fields call now made made' before after taken) {key : String}
    {record : Stored α} (found : before.lookup key = some record)
    (valid : readable fields record now = true)
    (creates : ∀ other, call ≠ .create key other)
    (takes : ∀ accepts, call = .consume key accepts → accepts record.fields = false) :
    after.lookup key = some record := by
  cases step.effect with
  | kept _ keeps _ => exact keeps.stays key record found valid
  | created less place other here keeps =>
    have apart : key ≠ place := fun same => creates other (same ▸ here)
    rw [Map.lookup_set, if_neg apart]
    exact keeps.stays key record found valid
  | consumed less place accepts other here keeps listed good accepted =>
    have apart : key ≠ place := by
      intro same
      subst same
      rw [found] at listed
      rw [← Option.some.inj listed, takes accepts here] at accepted
      contradiction
    rw [Rows.lookup_erase, if_neg apart]
    exact keeps.stays key record found valid

/-- A readable record is taken by a call of its key that accepts it. -/
theorem takes (step : RecordStep fields call now made made' before after taken) {key : String}
    {record : Stored α} {accepts : α → Bool} (here : call = .consume key accepts)
    (found : before.lookup key = some record) (valid : readable fields record now = true)
    (accepted : accepts record.fields = true) : taken = some record := by
  cases step.effect with
  | kept _ _ refused =>
    rw [refused key accepts record here found valid] at accepted
    contradiction
  | created _ _ _ other _ =>
    rw [here] at other
    contradiction
  | consumed less place test other there keeps listed good _ =>
    rw [here] at there
    obtain ⟨rfl, rfl⟩ := RecordCall.consume.inj there
    exact listed.symm.trans found

end RecordStep

end

end WebTsToolkit.OidcVaultMemory
