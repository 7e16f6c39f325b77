import Mathlib.Data.Fintype.Card
import Mathlib.Data.Fintype.Prod
import Mathlib.Data.List.Nodup
import Mathlib.Data.List.Perm.Subperm
import WebTsToolkit.Library.Coinduction
import WebTsToolkit.Utils.DeepEqual

set_option autoImplicit false

namespace WebTsToolkit.Utils.DeepEqual

open Js Library

variable {size : Nat} {α : Type}

/-- The stack after a comparison is the one before it. -/
def Restores (check : α → EqualPairs size → Option (Bool × EqualPairs size)) : Prop :=
  ∀ key pairs result, check key pairs = some result → result.2 = pairs

section EveryKey

variable {check : α → EqualPairs size → Option (Bool × EqualPairs size)}

theorem everyKey_restores (restores : Restores check) : Restores (everyKey check) := by
  intro items pairs result
  induction items generalizing pairs with
  | nil =>
    intro found
    rw [← Option.some.inj found]
  | cons key rest ih =>
    intro found
    rw [everyKey] at found
    split at found
    · rename_i kept first
      have same : kept = pairs := restores key pairs _ first
      subst same
      exact ih kept found
    · exact restores key pairs result found

theorem everyKey_iff (restores : Restores check) (items : List α) (pairs : EqualPairs size) :
    everyKey check items pairs = some (true, pairs) ↔
      ∀ key ∈ items, check key pairs = some (true, pairs) := by
  induction items with
  | nil => simp [everyKey]
  | cons key rest ih =>
    rw [everyKey, List.forall_mem_cons]
    split
    · rename_i kept first
      have same : kept = pairs := restores key pairs _ first
      subst same
      rw [ih]
      simp [first]
    · rename_i failed
      constructor
      · intro passed
        exact absurd passed (failed pairs)
      · intro passed
        exact absurd passed.1 (failed pairs)

theorem everyKey_total (restores : Restores check) {items : List α} {pairs : EqualPairs size}
    (total : ∀ key ∈ items, (check key pairs).isSome = true) :
    (everyKey check items pairs).isSome = true := by
  induction items with
  | nil => rfl
  | cons key rest ih =>
    obtain ⟨here, later⟩ := List.forall_mem_cons.mp total
    rw [everyKey]
    split
    · rename_i kept first
      have same : kept = pairs := restores key pairs _ first
      subst same
      exact ih later
    · exact here

end EveryKey

section Entries

variable {left right : Entries size} {key : PropertyKey}

theorem lookup_of_mem (distinct : (keys left).Nodup) {child : Value size}
    (member : (key, child) ∈ left) : left.lookup key = some child := by
  obtain ⟨before, after, rfl⟩ := List.append_of_mem member
  rw [keys, List.map_append, List.map_cons, List.nodup_append] at distinct
  apply List.lookup_eq_some_iff.mpr
  refine ⟨before, after, rfl, ?_⟩
  intro entry earlier
  have apart := distinct.2.2 entry.1 (List.mem_map_of_mem earlier) key List.mem_cons_self
  exact bne_iff_ne.mpr apart.symm

theorem mem_of_lookup {child : Value size} (found : left.lookup key = some child) :
    (key, child) ∈ left := by
  obtain ⟨before, after, rfl, -⟩ := List.lookup_eq_some_iff.mp found
  simp

theorem lookup_eq_none : left.lookup key = none ↔ key ∉ keys left := by
  rw [List.lookup_eq_none_iff]
  constructor
  · intro apart member
    obtain ⟨entry, listed, rfl⟩ := List.mem_map.mp member
    exact bne_iff_ne.mp (apart entry listed) rfl
  · intro missing entry listed
    apply bne_iff_ne.mpr
    rintro rfl
    exact missing (List.mem_map_of_mem listed)

/-- As many keys on both sides, all of the left ones among the right ones. -/
theorem mem_keys_iff (distinct : (keys left).Nodup) (same : left.length = right.length)
    (within : ∀ key ∈ keys left, key ∈ keys right) (key : PropertyKey) :
    key ∈ keys left ↔ key ∈ keys right := by
  have short : (keys right).length ≤ (keys left).length := by
    rw [List.length_map, List.length_map, same]
  have perm := (List.subperm_of_subset distinct within).perm_of_length_le short
  exact perm.mem_iff

theorem length_eq (distinct : (keys left).Nodup) (distinct' : (keys right).Nodup)
    (same : ∀ key, key ∈ keys left ↔ key ∈ keys right) : left.length = right.length := by
  have perm := (List.perm_ext_iff_of_nodup distinct distinct').mpr same
  have lengths := perm.length_eq
  rwa [List.length_map, List.length_map] at lengths

theorem SameMembers.mono {related wider : Value size → Value size → Prop}
    (within : ∀ one other, related one other → wider one other)
    (members : SameMembers related left right) : SameMembers wider left right :=
  ⟨members.keys, fun key child other here there =>
    within child other (members.children key child other here there)⟩

end Entries

section Compare

variable {compare : Value size → Value size → EqualPairs size →
  Option (Bool × EqualPairs size)} {left right : Entries size} {pairs : EqualPairs size}

theorem checkKey_restores (restores : ∀ value, Restores (compare value)) (right : Entries size) :
    Restores (checkKey compare right) := by
  intro entry pairs result found
  rw [checkKey] at found
  split at found
  · exact restores _ _ _ _ found
  · rw [← Option.some.inj found]

theorem checkIndex_restores (restores : ∀ value, Restores (compare value))
    (left right : Entries size) : Restores (checkIndex compare left right) := by
  intro index pairs result found
  rw [checkIndex] at found
  split at found
  · exact restores _ _ _ _ found
  · rw [← Option.some.inj found]
  · rw [← Option.some.inj found]

theorem checkKey_iff (entry : PropertyKey × Value size) :
    checkKey compare right entry pairs = some (true, pairs) ↔
      ∃ other, right.lookup entry.1 = some other ∧
        compare entry.2 other pairs = some (true, pairs) := by
  rw [checkKey]
  split
  · rename_i other found
    simp [found]
  · rename_i missing
    simp [missing]

theorem comparePlain_iff (restores : ∀ value, Restores (compare value))
    (distinct : (keys left).Nodup) (distinct' : (keys right).Nodup) :
    comparePlain compare left right pairs = some (true, pairs) ↔
      SameMembers (fun child other => compare child other pairs = some (true, pairs))
        left right := by
  rw [comparePlain]
  split
  · rename_i differ
    constructor
    · intro wrong
      simp at wrong
    · intro members
      exact absurd (length_eq distinct distinct' members.keys) differ
  · rename_i same
    rw [everyKey_iff (checkKey_restores restores right)]
    simp only [checkKey_iff]
    constructor
    · intro each
      refine ⟨?_, ?_⟩
      · apply mem_keys_iff distinct (not_not.mp same)
        intro key member
        obtain ⟨entry, listed, rfl⟩ := List.mem_map.mp member
        obtain ⟨other, found, -⟩ := each entry listed
        exact List.mem_map.mpr ⟨_, mem_of_lookup found, rfl⟩
      · intro key child other here there
        obtain ⟨same, found, equal⟩ := each (key, child) here
        rw [lookup_of_mem distinct' there] at found
        rw [Option.some.inj found]
        exact equal
    · intro members entry listed
      have known := (members.keys entry.1).mp (List.mem_map_of_mem listed)
      obtain ⟨⟨key, other⟩, there, same⟩ := List.mem_map.mp known
      subst same
      exact ⟨other, lookup_of_mem distinct' there, members.children _ _ _ listed there⟩

theorem comparePlain_restores (restores : ∀ value, Restores (compare value))
    {result : Bool × EqualPairs size} (found : comparePlain compare left right pairs = some result) :
    result.2 = pairs := by
  rw [comparePlain] at found
  split at found
  · rw [← Option.some.inj found]
  · exact everyKey_restores (checkKey_restores restores right) _ _ _ found

variable {length : Nat}

theorem isExtraArrayKey_eq_false {key : PropertyKey} :
    isExtraArrayKey key length = false ↔ ∃ index, index < length ∧ key = indexKey index := by
  constructor
  · intro indexed
    cases key with
    | symbol id => cases indexed
    | string text =>
      rw [isExtraArrayKey] at indexed
      split at indexed
      · rename_i index spelled
        refine ⟨index, by simpa using indexed, ?_⟩
        rw [indexKey, repr_of_arrayIndex spelled]
      · cases indexed
  · rintro ⟨index, below, rfl⟩
    simp [isExtraArrayKey, indexKey, arrayIndex_repr, below]

theorem mem_keys_extras {key : PropertyKey} (extra : isExtraArrayKey key length = true)
    (entries : Entries size) : key ∈ keys (extras length entries) ↔ key ∈ keys entries := by
  constructor
  · intro member
    obtain ⟨entry, listed, rfl⟩ := List.mem_map.mp member
    exact List.mem_map_of_mem (List.mem_of_mem_filter listed)
  · intro member
    obtain ⟨entry, listed, rfl⟩ := List.mem_map.mp member
    exact List.mem_map_of_mem (List.mem_filter.mpr ⟨listed, extra⟩)

theorem keys_extras_sublist (length : Nat) (entries : Entries size) :
    (keys (extras length entries)).Sublist (keys entries) :=
  List.filter_sublist.map _

theorem checkIndex_iff {index : Nat} :
    checkIndex compare left right index pairs = some (true, pairs) ↔
      (indexKey index ∉ keys left ∧ indexKey index ∉ keys right) ∨
        ∃ child other, left.lookup (indexKey index) = some child ∧
          right.lookup (indexKey index) = some other ∧
            compare child other pairs = some (true, pairs) := by
  rw [checkIndex, ← lookup_eq_none, ← lookup_eq_none]
  rcases left.lookup (indexKey index) with _ | child <;>
    rcases right.lookup (indexKey index) with _ | other <;> simp

/-- The loop over the indices compares the items, the loop over the extras the other members. -/
theorem compareArrays_iff (restores : ∀ value, Restores (compare value)) (length : Nat)
    (distinct : (keys left).Nodup) (distinct' : (keys right).Nodup) :
    compareArrays compare left right length pairs = some (true, pairs) ↔
      SameMembers (fun child other => compare child other pairs = some (true, pairs))
        left right := by
  have indexes := everyKey_iff (checkIndex_restores restores left right) (List.range length) pairs
  have named := everyKey_iff (checkKey_restores restores right) (extras length left) pairs
  have unextra := distinct.sublist (keys_extras_sublist length left)
  constructor
  · intro run
    rw [compareArrays] at run
    split at run
    · rename_i kept first
      have same := everyKey_restores (checkIndex_restores restores left right) _ _ _ first
      have same : kept = pairs := same
      subst same
      have items := indexes.mp first
      split at run
      · simp at run
      · rename_i count
        have members := named.mp run
        simp only [checkKey_iff] at members
        have extraKeys := mem_keys_iff unextra (not_not.mp count) (by
          intro key member
          obtain ⟨entry, listed, rfl⟩ := List.mem_map.mp member
          obtain ⟨other, found, -⟩ := members entry listed
          have extra := (List.mem_filter.mp listed).2
          rw [mem_keys_extras extra]
          exact List.mem_map.mpr ⟨_, mem_of_lookup found, rfl⟩)
        refine ⟨?_, ?_⟩
        · intro key
          rcases extra : isExtraArrayKey key length with _ | _
          · obtain ⟨index, below, rfl⟩ := isExtraArrayKey_eq_false.mp extra
            rcases checkIndex_iff.mp (items index (List.mem_range.mpr below)) with
              ⟨missing, missing'⟩ | ⟨child, other, here, there, -⟩
            · simp [missing, missing']
            · have first := List.mem_map_of_mem (f := Prod.fst) (mem_of_lookup here)
              have second := List.mem_map_of_mem (f := Prod.fst) (mem_of_lookup there)
              exact ⟨fun _ => second, fun _ => first⟩
          · rw [← mem_keys_extras extra left, ← mem_keys_extras extra right]
            exact extraKeys key
        · intro key child other here there
          have found := lookup_of_mem distinct here
          have found' := lookup_of_mem distinct' there
          rcases extra : isExtraArrayKey key length with _ | _
          · obtain ⟨index, below, rfl⟩ := isExtraArrayKey_eq_false.mp extra
            rcases checkIndex_iff.mp (items index (List.mem_range.mpr below)) with
              ⟨missing, -⟩ | ⟨same, same', here', there', equal⟩
            · exact absurd (List.mem_map_of_mem (f := Prod.fst) here) missing
            · rw [found] at here'
              rw [found'] at there'
              rw [Option.some.inj here', Option.some.inj there']
              exact equal
          · obtain ⟨same, there', equal⟩ :=
              members (key, child) (List.mem_filter.mpr ⟨here, extra⟩)
            rw [found'] at there'
            rw [Option.some.inj there']
            exact equal
    · rename_i failed
      exact absurd run (failed pairs)
  · intro members
    have first := indexes.mpr (by
      intro index below
      rw [checkIndex_iff]
      by_cases has : indexKey index ∈ keys left
      · have has' := (members.keys _).mp has
        obtain ⟨⟨key, child⟩, here, same⟩ := List.mem_map.mp has
        obtain ⟨⟨key', other⟩, there, same'⟩ := List.mem_map.mp has'
        have named : key = indexKey index := same
        have named' : key' = indexKey index := same'
        subst named
        subst named'
        exact .inr ⟨child, other, lookup_of_mem distinct here, lookup_of_mem distinct' there,
          members.children _ _ _ here there⟩
      · exact .inl ⟨has, fun other => has ((members.keys _).mpr other)⟩)
    have count : (extras length left).length = (extras length right).length := by
      apply length_eq unextra (distinct'.sublist (keys_extras_sublist length right))
      intro key
      rcases extra : isExtraArrayKey key length with _ | _
      · have gone (entries : Entries size) : key ∉ keys (extras length entries) := by
          intro member
          obtain ⟨entry, listed, rfl⟩ := List.mem_map.mp member
          have kept := (List.mem_filter.mp listed).2
          rw [extra] at kept
          cases kept
        exact iff_of_false (gone left) (gone right)
      · rw [mem_keys_extras extra, mem_keys_extras extra]
        exact members.keys key
    rw [compareArrays, first]
    simp only [count, ne_eq, not_true_eq_false, if_false]
    apply named.mpr
    intro entry listed
    have here := List.mem_of_mem_filter listed
    have known := (members.keys entry.1).mp (List.mem_map_of_mem here)
    obtain ⟨⟨key, other⟩, there, same⟩ := List.mem_map.mp known
    subst same
    rw [checkKey_iff]
    exact ⟨other, lookup_of_mem distinct' there, members.children _ _ _ here there⟩

theorem compareArrays_restores (restores : ∀ value, Restores (compare value))
    {result : Bool × EqualPairs size}
    (found : compareArrays compare left right length pairs = some result) : result.2 = pairs := by
  have indexes := everyKey_restores (checkIndex_restores restores left right) (List.range length)
  rw [compareArrays] at found
  split at found
  · rename_i kept first
    have same : kept = pairs := indexes pairs _ first
    split at found
    · rw [← Option.some.inj found]
      exact same
    · rw [← same]
      exact everyKey_restores (checkKey_restores restores right) _ _ _ found
  · exact indexes pairs _ found

theorem checkKey_total (total : ∀ child other, (compare child other pairs).isSome = true)
    (entry : PropertyKey × Value size) : (checkKey compare right entry pairs).isSome = true := by
  rw [checkKey]
  split
  · exact total _ _
  · rfl

theorem comparePlain_total (restores : ∀ value, Restores (compare value))
    (total : ∀ child other, (compare child other pairs).isSome = true) :
    (comparePlain compare left right pairs).isSome = true := by
  rw [comparePlain]
  split
  · rfl
  · exact everyKey_total (checkKey_restores restores right) fun entry _ =>
      checkKey_total total entry

theorem compareArrays_total (restores : ∀ value, Restores (compare value)) (length : Nat)
    (total : ∀ child other, (compare child other pairs).isSome = true) :
    (compareArrays compare left right length pairs).isSome = true := by
  have indexes : (everyKey (checkIndex compare left right) (List.range length) pairs).isSome =
      true := by
    apply everyKey_total (checkIndex_restores restores left right)
    intro index _
    rw [checkIndex]
    split
    · exact total _ _
    · rfl
    · rfl
  rw [compareArrays]
  split
  · rename_i kept first
    have same : kept = pairs :=
      everyKey_restores (checkIndex_restores restores left right) _ _ _ first
    subst same
    split
    · rfl
    · exact everyKey_total (checkKey_restores restores right) fun entry _ =>
        checkKey_total total entry
  · exact indexes

end Compare

section Stack

variable {pairs : EqualPairs size} {pair : Fin size × Fin size}
  {compare : EqualPairs size → Option (Bool × EqualPairs size)}

theorem whileOnStack_restores
    (restores : ∀ pairs result, compare pairs = some result → result.2 = pairs)
    {result : Bool × EqualPairs size} (found : whileOnStack pairs pair compare = some result) :
    result.2 = pairs := by
  rw [whileOnStack] at found
  split at found
  · rw [← Option.some.inj found]
  · obtain ⟨inner, ran, rfl⟩ := Option.map_eq_some_iff.mp found
    simp [restores _ _ ran]

theorem whileOnStack_iff
    (restores : ∀ pairs result, compare pairs = some result → result.2 = pairs) :
    whileOnStack pairs pair compare = some (true, pairs) ↔
      pair ∈ pairs ∨ compare (pair :: pairs) = some (true, pair :: pairs) := by
  rw [whileOnStack]
  split
  · rename_i listed
    simp [listed]
  · rename_i fresh
    simp only [fresh, false_or]
    constructor
    · intro found
      obtain ⟨⟨answer, kept⟩, ran, same⟩ := Option.map_eq_some_iff.mp found
      have stack : kept = pair :: pairs := restores _ _ ran
      have passed : answer = true := (Prod.mk.inj same).1
      rw [ran, stack, passed]
    · intro ran
      simp [ran]

end Stack

variable (graph : ObjectGraph)

theorem compareContents_restores {compare : Value graph.size → Value graph.size →
      EqualPairs graph.size → Option (Bool × EqualPairs graph.size)}
    (restores : ∀ value, Restores (compare value)) (left : Value graph.size) :
    Restores (compareContents graph compare left) := by
  intro right pairs result found
  rw [compareContents.eq_def] at found
  split at found
  · split at found
    · rw [← Option.some.inj found]
    · rw [← Option.some.inj found]
    · split at found
      · rw [← Option.some.inj found]
      · exact whileOnStack_restores (fun _ _ => compareArrays_restores restores) found
    · exact whileOnStack_restores (fun _ _ => comparePlain_restores restores) found
    · rw [← Option.some.inj found]
  · rw [← Option.some.inj found]

theorem deepEqualInner_restores (fuel : Nat) (left : Value graph.size) :
    Restores (deepEqualInner graph fuel left) := by
  induction fuel generalizing left with
  | zero =>
    intro right pairs result found
    cases found
  | succ fuel ih =>
    intro right pairs result found
    rw [deepEqualInner] at found
    split at found
    · rw [← Option.some.inj found]
    · exact compareContents_restores graph ih left right pairs result found

/-- There are no more pairs than this on the stack. -/
theorem length_le_of_nodup {pairs : EqualPairs size} (nodup : pairs.Nodup) :
    pairs.length ≤ size * size := by
  have bound := nodup.length_le_card
  rwa [Fintype.card_prod, Fintype.card_fin] at bound

theorem whileOnStack_total {pairs : EqualPairs size} {pair : Fin size × Fin size}
    {compare : EqualPairs size → Option (Bool × EqualPairs size)}
    (total : pair ∉ pairs → (compare (pair :: pairs)).isSome = true) :
    (whileOnStack pairs pair compare).isSome = true := by
  rw [whileOnStack]
  split
  · rfl
  · rename_i fresh
    simpa using total fresh

/-- Each call that goes deeper has one more pair on the stack. -/
theorem deepEqualInner_total (fuel : Nat) (left right : Value graph.size)
    (pairs : EqualPairs graph.size) (nodup : pairs.Nodup)
    (enough : graph.size * graph.size < fuel + pairs.length) :
    (deepEqualInner graph fuel left right pairs).isSome = true := by
  induction fuel generalizing left right pairs with
  | zero =>
    have bound := length_le_of_nodup nodup
    omega
  | succ fuel ih =>
    have deeper (pair : Fin graph.size × Fin graph.size) (fresh : pair ∉ pairs)
        (child other : Value graph.size) :
        (deepEqualInner graph fuel child other (pair :: pairs)).isSome = true := by
      apply ih
      · exact List.nodup_cons.mpr ⟨fresh, nodup⟩
      · rw [List.length_cons]
        omega
    have restores := deepEqualInner_restores graph fuel
    rw [deepEqualInner]
    split
    · rfl
    · rw [compareContents.eq_def]
      split
      · split
        · rfl
        · rfl
        · split
          · rfl
          · exact whileOnStack_total fun fresh =>
              compareArrays_total restores _ (deeper _ fresh)
        · exact whileOnStack_total fun fresh => comparePlain_total restores (deeper _ fresh)
        · rfl
      · rfl

/-- What a relation has to say, as a step on relations. -/
def agreeStep :
    (Value graph.size → Value graph.size → Prop) →o (Value graph.size → Value graph.size → Prop) where
  toFun := Agree graph
  monotone' := by
    intro related wider within left right agree
    cases agree with
    | primitive one other same => exact .primitive one other same
    | plain ref other left right here there members =>
      exact .plain ref other left right here there (members.mono within)
    | array ref other length left right here there members =>
      exact .array ref other length left right here there (members.mono within)
    | date ref other time here there => exact .date ref other time here there
    | regExp ref other source flags here there => exact .regExp ref other source flags here there
    | exotic ref here => exact .exotic ref here

theorem bisimilar_iff (left right : Value graph.size) :
    Bisimilar graph left right ↔ (agreeStep graph).gfp left right := by
  constructor
  · rintro ⟨related, here, agree⟩
    have closed : related ≤ agreeStep graph related := agree
    exact OrderHom.le_gfp _ closed _ _ here
  · intro bisimilar
    refine ⟨(agreeStep graph).gfp, bisimilar, ?_⟩
    intro one other here
    rw [← (agreeStep graph).map_gfp] at here
    exact here

theorem sameValueZero_self (value : Value size) : sameValueZero value value = true := by
  rcases same : value.strictEquals value with _ | _ <;> simp [sameValueZero, same]

/-- The same reference is bisimilar to itself, since it agrees with itself. -/
theorem bisimilar_self (value : Value graph.size) : (agreeStep graph).gfp value value := by
  have closed : (fun left right : Value graph.size => left = right) ≤
      agreeStep graph fun left right => left = right := by
    rintro left right rfl
    cases left with
    | primitive value => exact .primitive value value (sameValueZero_self _)
    | object ref =>
      have members (entries : Entries graph.size) (distinct : (keys entries).Nodup) :
          SameMembers (fun left right : Value graph.size => left = right) entries entries := by
        refine ⟨fun key => Iff.rfl, ?_⟩
        intro key child other here there
        have found := lookup_of_mem distinct here
        rw [lookup_of_mem distinct there] at found
        exact (Option.some.inj found).symm
      have distinct := graph.distinct ref
      rcases content : graph.content ref with entries | ⟨length, entries⟩ | time |
        ⟨source, flags⟩ | _
      · rw [content] at distinct
        exact .plain ref ref entries entries content content (members entries distinct)
      · rw [content] at distinct
        exact .array ref ref length entries entries content content (members entries distinct)
      · exact .date ref ref time content content
      · exact .regExp ref ref source flags content content
      · exact .exotic ref content
  exact OrderHom.le_gfp _ closed _ _ rfl

theorem bisimilar_of_sameValueZero {left right : Value graph.size}
    (same : sameValueZero left right = true) : (agreeStep graph).gfp left right := by
  cases left with
  | primitive value =>
    cases right with
    | primitive other =>
      rw [← (agreeStep graph).map_gfp]
      exact .primitive value other same
    | object ref => simp [sameValueZero, Value.strictEquals] at same
  | object ref =>
    cases right with
    | primitive other => simp [sameValueZero, Value.strictEquals] at same
    | object other =>
      have alike : ref = other := by simpa [sameValueZero, Value.strictEquals] using same
      rw [alike]
      exact bisimilar_self graph _

/-- The pairs on the stack, as a relation. -/
def Assumed (pairs : EqualPairs size) : Value size → Value size → Prop
  | .object ref, .object other => (ref, other) ∈ pairs
  | _, _ => False

/-- The relation of one pair. -/
def Only (pair : Fin size × Fin size) (left right : Value size) : Prop :=
  left = .object pair.1 ∧ right = .object pair.2

theorem assumed_cons (pair : Fin size × Fin size) (pairs : EqualPairs size) :
    Assumed (pair :: pairs) = Assumed pairs ⊔ Only pair := by
  funext left right
  apply propext
  change Assumed (pair :: pairs) left right ↔ Assumed pairs left right ∨ Only pair left right
  cases left <;> cases right <;> simp [Assumed, Only, Prod.ext_iff, or_comm]

/-- What is bisimilar up to the pairs on the stack. -/
def UpTo (pairs : EqualPairs graph.size) : Value graph.size → Value graph.size → Prop :=
  gfpAssuming (agreeStep graph) (Assumed pairs) ⊔ Assumed pairs

/-- Two objects are taken for equal while their own pair is on the stack. -/
theorem upTo_of_agree {pair : Fin graph.size × Fin graph.size} {pairs : EqualPairs graph.size}
    (agree : Agree graph (UpTo graph (pair :: pairs)) (.object pair.1) (.object pair.2)) :
    UpTo graph pairs (.object pair.1) (.object pair.2) := by
  have closed : Only pair ≤ agreeStep graph
      (gfpAssuming (agreeStep graph) (Assumed pairs ⊔ Only pair) ⊔ (Assumed pairs ⊔ Only pair)) := by
    rintro left right ⟨rfl, rfl⟩
    rw [← assumed_cons]
    exact agree
  have reached := gfpAssuming_accumulate closed
  exact Or.inl (reached _ _ ⟨rfl, rfl⟩)

theorem whileOnStack_sound {pair : Fin graph.size × Fin graph.size} {pairs : EqualPairs graph.size}
    {compare : EqualPairs graph.size → Option (Bool × EqualPairs graph.size)}
    (restores : ∀ pairs result, compare pairs = some result → result.2 = pairs)
    (sound : compare (pair :: pairs) = some (true, pair :: pairs) →
      Agree graph (UpTo graph (pair :: pairs)) (.object pair.1) (.object pair.2))
    (passed : whileOnStack pairs pair compare = some (true, pairs)) :
    UpTo graph pairs (.object pair.1) (.object pair.2) := by
  rcases (whileOnStack_iff restores).mp passed with listed | ran
  · exact Or.inr listed
  · exact upTo_of_agree graph (sound ran)

/-- What compares as equal is bisimilar up to the pairs on the stack. -/
theorem deepEqualInner_sound (fuel : Nat) (left right : Value graph.size)
    (pairs : EqualPairs graph.size)
    (passed : deepEqualInner graph fuel left right pairs = some (true, pairs)) :
    UpTo graph pairs left right := by
  induction fuel generalizing left right pairs with
  | zero => cases passed
  | succ fuel ih =>
    have restores := deepEqualInner_restores graph fuel
    have within := gfp_le_gfpAssuming (agreeStep graph) (Assumed pairs)
    have same (value other : Value graph.size) (agree : (agreeStep graph).gfp value other) :
        UpTo graph pairs value other := Or.inl (within _ _ agree)
    rw [deepEqualInner] at passed
    split at passed
    · rename_i equal
      exact same _ _ (bisimilar_of_sameValueZero graph equal)
    · rw [compareContents.eq_def] at passed
      split at passed
      · rename_i ref other _
        have distinct := graph.distinct ref
        have distinct' := graph.distinct other
        split at passed
        · rename_i time time' here there
          have alike : time = time' := by simpa using passed
          subst alike
          apply same
          rw [← (agreeStep graph).map_gfp]
          exact .date ref other time here there
        · rename_i source flags source' flags' here there
          have alike : source = source' ∧ flags = flags' := by simpa using passed
          rw [← alike.1, ← alike.2] at there
          apply same
          rw [← (agreeStep graph).map_gfp]
          exact .regExp ref other source flags here there
        · rename_i length entries length' entries' here there
          split at passed
          · simp at passed
          · rename_i equal
            rw [← not_not.mp equal] at there
            rw [here] at distinct
            rw [there] at distinct'
            apply whileOnStack_sound graph (fun _ _ => compareArrays_restores restores) _ passed
            intro ran
            have members := (compareArrays_iff restores length distinct distinct').mp ran
            exact .array ref other length entries entries' here there
              (members.mono fun one other => ih one other _)
        · rename_i entries entries' here there
          rw [here] at distinct
          rw [there] at distinct'
          apply whileOnStack_sound graph (fun _ _ => comparePlain_restores restores) _ passed
          intro ran
          have members := (comparePlain_iff restores distinct distinct').mp ran
          exact .plain ref other entries entries' here there
            (members.mono fun one other => ih one other _)
        · simp at passed
      · simp at passed

theorem whileOnStack_complete {pair : Fin graph.size × Fin graph.size}
    {pairs : EqualPairs graph.size}
    {compare : EqualPairs graph.size → Option (Bool × EqualPairs graph.size)}
    (restores : ∀ pairs result, compare pairs = some result → result.2 = pairs)
    (passes : pair ∉ pairs → compare (pair :: pairs) = some (true, pair :: pairs)) :
    whileOnStack pairs pair compare = some (true, pairs) := by
  rw [whileOnStack_iff restores]
  by_cases listed : pair ∈ pairs
  · exact Or.inl listed
  · exact Or.inr (passes listed)

/-- What is bisimilar compares as equal, whatever is on the stack. -/
theorem deepEqualInner_complete (fuel : Nat) (left right : Value graph.size)
    (pairs : EqualPairs graph.size) (nodup : pairs.Nodup)
    (enough : graph.size * graph.size < fuel + pairs.length)
    (bisimilar : (agreeStep graph).gfp left right) :
    deepEqualInner graph fuel left right pairs = some (true, pairs) := by
  induction fuel generalizing left right pairs with
  | zero =>
    have bound := length_le_of_nodup nodup
    omega
  | succ fuel ih =>
    have deeper (pair : Fin graph.size × Fin graph.size) (fresh : pair ∉ pairs)
        (child other : Value graph.size) (related : (agreeStep graph).gfp child other) :
        deepEqualInner graph fuel child other (pair :: pairs) = some (true, pair :: pairs) := by
      apply ih _ _ _ _ _ related
      · exact List.nodup_cons.mpr ⟨fresh, nodup⟩
      · rw [List.length_cons]
        omega
    have restores := deepEqualInner_restores graph fuel
    rw [← (agreeStep graph).map_gfp] at bisimilar
    rw [deepEqualInner]
    split
    · rfl
    · rename_i differ
      cases bisimilar with
      | primitive one other same => exact absurd same differ
      | plain ref other entries entries' here there members =>
        have distinct := graph.distinct ref
        have distinct' := graph.distinct other
        rw [here] at distinct
        rw [there] at distinct'
        simp only [compareContents, here, there]
        apply whileOnStack_complete graph (fun _ _ => comparePlain_restores restores)
        intro fresh
        exact (comparePlain_iff restores distinct distinct').mpr
          (members.mono (deeper _ fresh))
      | array ref other length entries entries' here there members =>
        have distinct := graph.distinct ref
        have distinct' := graph.distinct other
        rw [here] at distinct
        rw [there] at distinct'
        simp only [compareContents, here, there, ne_eq, not_true_eq_false, if_false]
        apply whileOnStack_complete graph (fun _ _ => compareArrays_restores restores)
        intro fresh
        exact (compareArrays_iff restores length distinct distinct').mpr
          (members.mono (deeper _ fresh))
      | date ref other time here there => simp [compareContents, here, there]
      | regExp ref other source flags here there => simp [compareContents, here, there]
      | exotic ref here => exact absurd (sameValueZero_self _) differ

/-- On every graph, cyclic or shared, the calls end at a depth that the number of pairs bounds,
and the answer is whether the two values are bisimilar. -/
theorem deepEqual_exact (left right : Value graph.size) :
    ∃ bound, ∀ fuel, bound ≤ fuel → ∃ answer, deepEqual graph fuel left right = some answer ∧
      (answer = true ↔ Bisimilar graph left right) := by
  refine ⟨graph.size * graph.size + 1, ?_⟩
  intro fuel enough
  have deep : graph.size * graph.size < fuel + ([] : EqualPairs graph.size).length := by
    rw [List.length_nil]
    omega
  have total := deepEqualInner_total graph fuel left right [] List.nodup_nil deep
  obtain ⟨⟨answer, pairs⟩, ran⟩ := Option.isSome_iff_exists.mp total
  have kept : pairs = [] := deepEqualInner_restores graph fuel left right [] _ ran
  rw [kept] at ran
  refine ⟨answer, by simp [deepEqual, ran], ?_⟩
  rw [bisimilar_iff]
  constructor
  · rintro rfl
    have bottom : Assumed ([] : EqualPairs graph.size) = ⊥ := by
      funext left right
      cases left <;> cases right <;> simp [Assumed]
    have sound := deepEqualInner_sound graph fuel left right [] ran
    rw [UpTo, bottom, gfpAssuming_bot, sup_bot_eq] at sound
    exact sound
  · intro bisimilar
    have passed := deepEqualInner_complete graph fuel left right [] List.nodup_nil deep bisimilar
    rw [ran] at passed
    exact (Prod.mk.inj (Option.some.inj passed)).1

/-- A list that is its own tail, and one that is the tail of its tail. -/
def rings : ObjectGraph where
  size := 3
  content ref := .plain [(.string "next", .object (if ref = 1 then 2 else if ref = 2 then 1 else 0))]
  distinct := by simp [Content.entries]

example : deepEqual rings 10 (.object (0 : Fin 3)) (.object (1 : Fin 3)) = some true := by decide

end WebTsToolkit.Utils.DeepEqual
