import WebTsToolkit.Utils.ObjectPath
import WebTsToolkit.Library.PathWrites

set_option autoImplicit false

namespace WebTsToolkit.Utils

open Js Library

theorem repr_ne_length (index : Nat) : index.repr ≠ "length" := by
  intro same
  have digits := isIndexText_repr index
  rw [same] at digits
  exact absurd digits (by decide)

variable {items : List Value} {index : Nat} {item : Value} {parts : List String} {current : Value}
  {path : List String} {entries : Entries}

theorem ownProperty_item (found : items[index]? = some item) (present : item ≠ .hole) :
    ownProperty (.array items) index.repr = some item := by
  rw [ownProperty, ownItem, if_neg (repr_ne_length index), arrayIndex_repr, Option.bind_some, found]
  cases item <;> first | rfl | contradiction

theorem ownProperty_set_ne {key : String} (value : Value) (apart : key ≠ index.repr) :
    ownProperty (.array (items.set index value)) key = ownProperty (.array items) key := by
  rw [ownProperty, ownProperty, ownItem, ownItem, List.length_set]
  cases spelled : arrayIndex key with
  | none => rfl
  | some other =>
    have elsewhere : index ≠ other := by
      intro same
      apply apart
      rw [same, repr_of_arrayIndex spelled]
    rw [Option.bind_some, Option.bind_some, List.getElem?_set_ne elsewhere]

/-- Past the greatest array index nothing is defined. -/
theorem defineOwnValue_item (value : Value) (inside : index < items.length) :
    defineOwnValue (.array items) index.repr value = .array items ∨
      defineOwnValue (.array items) index.repr value = .array (items.set index value) := by
  rw [defineOwnValue, arrayIndex_repr, Option.getD_some, defineItem, if_pos inside]
  by_cases small : isArrayIndexKey index.repr = true
  · exact Or.inr (if_pos small)
  · exact Or.inl (if_neg small)

/-- A path that only enters stored containers, or makes its own ones under names that are no
array index. -/
inductive Admits : Value → List String → Prop where
  | last (entries : Entries) (key : String) : Admits (.object entries) [key]
  | field {entries : Entries} {key nextKey : String} {rest : List String}
      (fresh : (∀ existing, getOwn entries key = some existing → isObject existing = false) →
        isArrayIndexKey nextKey = false)
      (below : Admits (enter (.object entries) key nextKey) (nextKey :: rest)) :
      Admits (.object entries) (key :: nextKey :: rest)
  | item {items : List Value} {index : Nat} {item : Value} {nextKey : String}
      {rest : List String} (found : items[index]? = some item)
      (below : Admits item (nextKey :: rest)) :
      Admits (.array items) (index.repr :: nextKey :: rest)

theorem Admits.container (admits : Admits current parts) :
    current.isPlainObject = true ∨ current.isArray = true := by
  cases admits with
  | last | field => exact Or.inl rfl
  | item => exact Or.inr rfl

theorem Admits.isObject (admits : Admits current parts) : isObject current = true := by
  cases admits <;> rfl

theorem Admits.ne_hole (admits : Admits current parts) : current ≠ .hole := by
  rintro rfl
  cases admits

theorem enter_item {nextKey : String} {rest : List String} (found : items[index]? = some item)
    (below : Admits item (nextKey :: rest)) : enter (.array items) index.repr nextKey = item := by
  rw [enter, ownProperty_item found below.ne_hole]
  exact if_pos below.isObject

theorem readOwn_of_not_isObject {value : Value} (plain : isObject value = false)
    (nonempty : path ≠ []) : readOwn value path = none := by
  cases path with
  | nil => contradiction
  | cons key rest => cases value <;> first | rfl | contradiction

theorem readOwn_empty (nonempty : path ≠ []) : readOwn (.object []) path = none := by
  cases path with
  | nil => contradiction
  | cons key rest => rfl

/-- Reading on from the container that the write enters. -/
theorem readOwn_enter {key nextKey : String}
    (fresh : (∀ existing, getOwn entries key = some existing → isObject existing = false) →
      isArrayIndexKey nextKey = false) (nonempty : path ≠ []) :
    readOwn (enter (.object entries) key nextKey) path =
      readOwn (.object entries) (key :: path) := by
  rw [enter, readOwn, ownProperty]
  cases found : getOwn entries key with
  | none =>
    have name : isArrayIndexKey nextKey = false := fresh (by simp [found])
    rw [Option.bind_none, newContainer, name]
    exact readOwn_empty nonempty
  | some existing =>
    rw [Option.bind_some]
    by_cases container : isObject existing = true
    · exact congrArg (readOwn · path) (if_pos container)
    · have plain : isObject existing = false := by simpa using container
      have name : isArrayIndexKey nextKey = false := by
        apply fresh
        intro other same
        rw [found] at same
        rwa [← Option.some.inj same]
      simp only [plain, newContainer, name]
      rw [readOwn_of_not_isObject plain nonempty]
      exact readOwn_empty nonempty

theorem readOwn_define_self (entries : Entries) (key : String) (value : Value)
    (path : List String) :
    readOwn (defineOwnValue (.object entries) key value) (key :: path) = readOwn value path := by
  rw [defineOwnValue, readOwn, ownProperty, getOwn_defineEntry_self, Option.bind_some]

theorem readOwn_define_ne {key other : String} (value : Value) (apart : other ≠ key)
    (path : List String) :
    readOwn (defineOwnValue (.object entries) key value) (other :: path) =
      readOwn (.object entries) (other :: path) := by
  rw [defineOwnValue, readOwn, readOwn, ownProperty, ownProperty, getOwn_defineEntry_ne value apart]

theorem readOwn_item (found : items[index]? = some item) (present : item ≠ .hole)
    (path : List String) : readOwn (.array items) (index.repr :: path) = readOwn item path := by
  rw [readOwn, ownProperty_item found present, Option.bind_some]

theorem isObject_setParts (admits : Admits current parts) (value : Value) :
    isObject (setParts current parts value) = true ∧
      setParts current parts value ≠ .hole := by
  cases admits with
  | last entries key | field => exact ⟨rfl, by rintro ⟨⟩⟩
  | item found below =>
    have inside := (List.getElem?_eq_some_iff.mp found).1
    rw [setParts]
    rcases defineOwnValue_item (setParts (enter _ _ _) _ value) inside with same | same
    · rw [same]
      exact ⟨rfl, by rintro ⟨⟩⟩
    · rw [same]
      exact ⟨rfl, by rintro ⟨⟩⟩

/-- A write at an admissible path is only seen at paths related to it. -/
theorem readOwn_setParts (admits : Admits current parts) (value : Value)
    (apart : Unrelated parts path) :
    readOwn (setParts current parts value) path = readOwn current path := by
  induction admits generalizing path with
  | last entries key =>
    cases path with
    | nil => exact absurd rfl apart.symm.ne_nil
    | cons other path =>
      have elsewhere : other ≠ key := by
        rintro rfl
        exact apart.1 (List.cons_prefix_cons.mpr ⟨rfl, List.nil_prefix⟩)
      exact readOwn_define_ne value elsewhere path
  | @field entries key nextKey rest fresh below ih =>
    cases path with
    | nil => exact absurd rfl apart.symm.ne_nil
    | cons other path =>
      rw [setParts]
      by_cases here : other = key
      · subst here
        have inner := (unrelated_cons_iff other _ _).mp apart
        rw [readOwn_define_self, ih inner]
        exact readOwn_enter fresh inner.symm.ne_nil
      · exact readOwn_define_ne _ here path
  | @item items index item nextKey rest found below ih =>
    cases path with
    | nil => exact absurd rfl apart.symm.ne_nil
    | cons other path =>
      have inside := (List.getElem?_eq_some_iff.mp found).1
      rw [setParts, enter_item found below]
      rcases defineOwnValue_item (setParts item (nextKey :: rest) value) inside with same | same
      · rw [same]
      · rw [same]
        by_cases here : other = index.repr
        · subst here
          have inner := (unrelated_cons_iff index.repr _ _).mp apart
          have stored := List.getElem?_set_self (a := setParts item (nextKey :: rest) value) inside
          rw [readOwn_item stored (isObject_setParts below value).2,
            readOwn_item found below.ne_hole, ih inner]
        · rw [readOwn, readOwn, ownProperty_set_ne _ here]

theorem enter_define_ne {key other : String} (value : Value) (apart : other ≠ key)
    (nextKey : String) :
    enter (.object (defineEntry entries key value)) other nextKey =
      enter (.object entries) other nextKey := by
  rw [enter, enter, ownProperty, ownProperty, getOwn_defineEntry_ne value apart]

theorem enter_define_self (entries : Entries) (key nextKey : String) {value : Value}
    (container : isObject value = true) :
    enter (.object (defineEntry entries key value)) key nextKey = value := by
  rw [enter, ownProperty, getOwn_defineEntry_self]
  exact if_pos container

/-- Two names of one entry that the writes enter or make alike. -/
theorem enter_same {key nextKey otherKey : String}
    (fresh : (∀ existing, getOwn entries key = some existing → isObject existing = false) →
      isArrayIndexKey nextKey = false)
    (fresh' : (∀ existing, getOwn entries key = some existing → isObject existing = false) →
      isArrayIndexKey otherKey = false) :
    enter (.object entries) key nextKey = enter (.object entries) key otherKey := by
  by_cases stored : ∃ existing, getOwn entries key = some existing ∧ isObject existing = true
  · obtain ⟨existing, found, container⟩ := stored
    rw [enter, enter, ownProperty, found]
    exact (if_pos container).trans (if_pos container).symm
  · have missing : ∀ existing, getOwn entries key = some existing →
        isObject existing = false := by
      intro existing found
      by_contra container
      exact stored ⟨existing, found, by simpa using container⟩
    have same : newContainer nextKey = newContainer otherKey := by
      rw [newContainer, newContainer, fresh missing, fresh' missing]
    rw [enter, enter, same]

/-- A write leaves unrelated paths admissible. -/
theorem Admits.setParts (admits : Admits current parts) (value : Value)
    (admits' : Admits current path) (apart : Unrelated parts path) :
    Admits (setParts current parts value) path := by
  induction admits generalizing path with
  | last entries key =>
    cases admits' with
    | last _ other => exact Admits.last _ other
    | @field _ other nextKey rest fresh below =>
      have elsewhere : other ≠ key := by
        rintro rfl
        exact apart.1 (List.cons_prefix_cons.mpr ⟨rfl, List.nil_prefix⟩)
      refine Admits.field ?_ ?_
      · rwa [getOwn_defineEntry_ne value elsewhere]
      · rwa [enter_define_ne value elsewhere]
  | @field entries key nextKey rest fresh below ih =>
    cases admits' with
    | last _ other => exact Admits.last _ other
    | @field _ other otherKey rest' fresh' below' =>
      refine Admits.field ?_ ?_
      all_goals by_cases here : other = key
      · subst here
        intro missing
        have container := (isObject_setParts below value).1
        have plain := missing _ (getOwn_defineEntry_self _ _ _)
        rw [container] at plain
        contradiction
      · rwa [getOwn_defineEntry_ne _ here]
      · subst here
        have inner := (unrelated_cons_iff other _ _).mp apart
        rw [enter_define_self entries other otherKey (isObject_setParts below value).1]
        rw [enter_same fresh' fresh] at below'
        exact ih below' inner
      · rwa [enter_define_ne _ here]
  | @item items index item nextKey rest found below ih =>
    have inside := (List.getElem?_eq_some_iff.mp found).1
    rw [Utils.setParts, enter_item found below]
    rcases defineOwnValue_item (Utils.setParts item (nextKey :: rest) value) inside with
      same | same
    · rwa [same]
    · rw [same]
      cases admits' with
      | @item _ index' item' otherKey rest' found' below' =>
        by_cases here : index' = index
        · subst here
          have inner := (unrelated_cons_iff index'.repr _ _).mp apart
          rw [found] at found'
          rw [← Option.some.inj found'] at below'
          refine Admits.item ?_ (ih below' inner)
          exact List.getElem?_set_self inside
        · refine Admits.item ?_ below'
          rwa [List.getElem?_set_ne (fun same => here same.symm)]

/-- An array of the same length in which every item that is no container is untouched. -/
structure KeepsItems (items items' : List Value) : Prop where
  length : items'.length = items.length
  leaf : ∀ (index : Nat) (item : Value), items[index]? = some item →
    item.isPlainObject = false → item.isArray = false → items'[index]? = some item

theorem KeepsItems.refl (items : List Value) : KeepsItems items items :=
  ⟨rfl, fun _ _ found _ _ => found⟩

theorem KeepsItems.trans {first second third : List Value} (keeps : KeepsItems first second)
    (keeps' : KeepsItems second third) : KeepsItems first third where
  length := by rw [keeps'.length, keeps.length]
  leaf := by
    intro index item found notObject notArray
    exact keeps'.leaf index item (keeps.leaf index item found notObject notArray) notObject notArray

theorem KeepsItems.set (found : items[index]? = some item)
    (container : item.isPlainObject = true ∨ item.isArray = true) (value : Value) :
    KeepsItems items (items.set index value) where
  length := List.length_set
  leaf := by
    intro index' item' found' notObject notArray
    have elsewhere : index ≠ index' := by
      rintro rfl
      rw [found] at found'
      rw [Option.some.inj found', notObject, notArray] at container
      simp at container
    rwa [List.getElem?_set_ne elsewhere]

/-- Arrays that a value keeps at a path. -/
def KeepsArray (path : List String) (current current' : Value) : Prop :=
  ∀ items, readOwn current path = some (.array items) →
    ∃ items', readOwn current' path = some (.array items') ∧ KeepsItems items items'

theorem KeepsArray.refl (path : List String) (current : Value) :
    KeepsArray path current current :=
  fun items stored => ⟨items, stored, KeepsItems.refl items⟩

theorem KeepsArray.trans {first second third : Value} (keeps : KeepsArray path first second)
    (keeps' : KeepsArray path second third) : KeepsArray path first third := by
  intro items stored
  obtain ⟨items', stored', kept⟩ := keeps items stored
  obtain ⟨items'', stored'', kept'⟩ := keeps' items' stored'
  exact ⟨items'', stored'', kept.trans kept'⟩

theorem KeepsArray.of_same {current current' : Value}
    (same : readOwn current' path = readOwn current path) : KeepsArray path current current' := by
  intro items stored
  rw [← same] at stored
  exact ⟨items, stored, KeepsItems.refl items⟩

/-- No array is resized, and no item other than a container changed, but at or below the
written path. -/
theorem keepsArray_setParts (admits : Admits current parts) (value : Value)
    (outside : ¬parts <+: path) : KeepsArray path current (setParts current parts value) := by
  induction admits generalizing path with
  | last entries key =>
    cases path with
    | nil =>
      intro items stored
      cases stored
    | cons other path =>
      have elsewhere : other ≠ key := by
        rintro rfl
        exact outside (List.cons_prefix_cons.mpr ⟨rfl, List.nil_prefix⟩)
      exact KeepsArray.of_same (readOwn_define_ne value elsewhere path)
  | @field entries key nextKey rest fresh below ih =>
    cases path with
    | nil =>
      intro items stored
      cases stored
    | cons other path =>
      rw [Utils.setParts]
      by_cases here : other = key
      · subst here
        have inner : ¬nextKey :: rest <+: path := by
          intro above
          exact outside (List.cons_prefix_cons.mpr ⟨rfl, above⟩)
        intro items stored
        rw [readOwn_define_self]
        apply ih inner
        by_cases empty : path = []
        · subst empty
          rw [readOwn, ownProperty] at stored
          cases found : getOwn entries other with
          | none => rw [found] at stored; contradiction
          | some existing =>
            rw [found] at stored
            have same : existing = .array items := Option.some.inj stored
            rw [readOwn, enter, ownProperty, found, same]
            rfl
        · rwa [readOwn_enter fresh empty]
      · exact KeepsArray.of_same (readOwn_define_ne _ here path)
  | @item items index item nextKey rest found below ih =>
    have inside := (List.getElem?_eq_some_iff.mp found).1
    rw [Utils.setParts, enter_item found below]
    rcases defineOwnValue_item (setParts item (nextKey :: rest) value) inside with same | same
    · rw [same]
      exact KeepsArray.refl path _
    · rw [same]
      cases path with
      | nil =>
        intro items' stored
        cases stored
        exact ⟨_, rfl, KeepsItems.set found below.container _⟩
      | cons other path =>
        by_cases here : other = index.repr
        · subst here
          have inner : ¬nextKey :: rest <+: path := by
            intro above
            exact outside (List.cons_prefix_cons.mpr ⟨rfl, above⟩)
          intro items' stored
          rw [readOwn_item found below.ne_hole] at stored
          have written := List.getElem?_set_self (a := setParts item (nextKey :: rest) value)
            inside
          rw [readOwn_item written (isObject_setParts below value).2]
          exact ih inner items' stored
        · apply KeepsArray.of_same
          rw [readOwn, readOwn, ownProperty_set_ne _ here]

end WebTsToolkit.Utils
