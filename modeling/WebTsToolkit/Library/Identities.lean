import Mathlib.Data.List.Basic

set_option autoImplicit false

namespace WebTsToolkit.Library

variable {κ ι : Type} {identity : ι → Nat}

/-- A table of items whose identities a counter gives out. `known` are the items it has held so
far, and `retired` the identities of items that left it for good. -/
structure Tracked (identity : ι → Nat) (table : κ → Option ι) (made : Nat) (known : ι → Prop)
    (retired : List Nat) : Prop where
  held : ∀ key item, table key = some item → known item
  below : ∀ item, known item → identity item < made
  unique : ∀ item other, known item → known other → identity item = identity other → item = other
  apart : ∀ key other item, table key = some item → table other = some item → key = other
  gone : ∀ key item, table key = some item → identity item ∉ retired
  past : ∀ number ∈ retired, number < made
  distinct : retired.Nodup

/-- Each item of the later table is an earlier one at its key, or the one new item. -/
structure Renews (identity : ι → Nat) (before after : κ → Option ι) (made made' : Nat) :
    Prop where
  grows : made ≤ made'
  origin : ∀ key item, after key = some item →
    before key = some item ∨ (identity item = made ∧ made < made')
  single : ∀ key other item item', after key = some item → after other = some item' →
    identity item = made → identity item' = made → key = other ∧ item = item'

variable {table before after : κ → Option ι} {made made' : Nat} {known : ι → Prop}
  {retired : List Nat}

theorem tracked_empty {κ : Type} (identity : ι → Nat) :
    Tracked identity (fun _ : κ => none) 0 (fun _ => False) [] where
  held _ _ found := by contradiction
  below _ listed := listed.elim
  unique _ _ listed := listed.elim
  apart _ _ _ found := by contradiction
  gone _ _ found := by contradiction
  past _ listed := absurd listed List.not_mem_nil
  distinct := List.nodup_nil

namespace Tracked

/-- A known item either was there before or has the identity that was given out. -/
theorem fresh_of_new (tracked : Tracked identity before made known retired)
    (renews : Renews identity before after made made') {key : κ} {item : ι}
    (found : after key = some item) :
    (before key = some item ∧ known item ∧ identity item < made) ∨
      (identity item = made ∧ made < made') := by
  refine (renews.origin key item found).imp_left fun old => ?_
  have listed := tracked.held key item old
  exact ⟨old, listed, tracked.below item listed⟩

theorem renew (tracked : Tracked identity before made known retired)
    (renews : Renews identity before after made made') :
    Tracked identity after made' (fun item => known item ∨ ∃ key, after key = some item)
      retired where
  held key item found := Or.inr ⟨key, found⟩
  below item listed := by
    have grows := renews.grows
    rcases listed with old | ⟨key, found⟩
    · have := tracked.below item old
      omega
    · rcases tracked.fresh_of_new renews found with ⟨_, _, less⟩ | ⟨same, more⟩ <;> omega
  unique item other listed otherListed same := by
    have split : ∀ item, (known item ∨ ∃ key, after key = some item) →
        known item ∨ (∃ key, after key = some item ∧ identity item = made) := by
      rintro item (old | ⟨key, found⟩)
      · exact Or.inl old
      · rcases tracked.fresh_of_new renews found with ⟨_, old, _⟩ | ⟨number, _⟩
        · exact Or.inl old
        · exact Or.inr ⟨key, found, number⟩
    rcases split item listed with old | ⟨key, found, number⟩
    · have less := tracked.below item old
      rcases split other otherListed with otherOld | ⟨_, _, otherNumber⟩
      · exact tracked.unique item other old otherOld same
      · omega
    · rcases split other otherListed with otherOld | ⟨otherKey, otherFound, otherNumber⟩
      · have less := tracked.below other otherOld
        omega
      · exact (renews.single key otherKey item other found otherFound number otherNumber).2
  apart key other item found otherFound := by
    rcases tracked.fresh_of_new renews found with ⟨old, _, less⟩ | ⟨number, _⟩
    · rcases tracked.fresh_of_new renews otherFound with ⟨otherOld, _, _⟩ | ⟨otherNumber, _⟩
      · exact tracked.apart key other item old otherOld
      · omega
    · exact (renews.single key other item item found otherFound number number).1
  gone key item found := by
    rcases tracked.fresh_of_new renews found with ⟨old, _, _⟩ | ⟨number, _⟩
    · exact tracked.gone key item old
    · intro listed
      have less := tracked.past _ listed
      omega
  past number listed := by
    have less := tracked.past number listed
    have grows := renews.grows
    omega
  distinct := tracked.distinct

/-- An item that was there leaves for good. -/
theorem retire (tracked : Tracked identity before made known retired)
    (renews : Renews identity before after made made') {key : κ} {item : ι}
    (found : before key = some item) (left : ∀ other, after other ≠ some item) :
    Tracked identity after made' (fun item => known item ∨ ∃ key, after key = some item)
      (identity item :: retired) := by
  have renewed := tracked.renew renews
  have listed := tracked.held key item found
  refine { renewed with gone := ?_, past := ?_, distinct := ?_ }
  · intro other stays there
    rw [List.mem_cons, not_or]
    refine ⟨fun same => ?_, renewed.gone other stays there⟩
    have here := renewed.unique stays item (Or.inr ⟨other, there⟩) (Or.inl listed) same
    exact left other (here ▸ there)
  · intro number member
    rcases List.mem_cons.mp member with same | old
    · rw [same]
      exact renewed.below item (Or.inl listed)
    · exact renewed.past number old
  · exact List.nodup_cons.mpr ⟨tracked.gone key item found, tracked.distinct⟩

/-- Items may leave. -/
theorem shrinks (tracked : Tracked identity before made known retired) (grows : made ≤ made')
    (kept : ∀ key item, after key = some item → before key = some item) :
    Renews identity before after made made' where
  grows := grows
  origin key item found := Or.inl (kept key item found)
  single key _ item _ found _ number _ := by
    have less := tracked.below item (tracked.held key item (kept key item found))
    omega

/-- One key may take a new item, with the identity that was next. -/
theorem writes (tracked : Tracked identity before made known retired) (grows : made < made')
    (place : κ) (fresh : ι) (number : identity fresh = made)
    (kept : ∀ key item, after key = some item →
      before key = some item ∨ (key = place ∧ item = fresh)) :
    Renews identity before after made made' where
  grows := Nat.le_of_lt grows
  origin key item found := (kept key item found).imp_right fun here => by
    rw [here.2]
    exact ⟨number, grows⟩
  single key other item item' found otherFound first second := by
    have here : ∀ key item, after key = some item → identity item = made →
        key = place ∧ item = fresh := by
      intro key item found same
      refine (kept key item found).resolve_left fun old => ?_
      have less := tracked.below item (tracked.held key item old)
      omega
    obtain ⟨atKey, atItem⟩ := here key item found first
    obtain ⟨otherKey, otherItem⟩ := here other item' otherFound second
    exact ⟨atKey.trans otherKey.symm, atItem.trans otherItem.symm⟩

end Tracked

end WebTsToolkit.Library
