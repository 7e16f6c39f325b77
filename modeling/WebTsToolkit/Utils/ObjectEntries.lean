import Mathlib.Data.List.Nodup
import WebTsToolkit.Utils.ObjectPath

set_option autoImplicit false

namespace WebTsToolkit.Utils

open Js

theorem mem_itemEntries (start : Nat) (items : List Value) (key : String) (value : Value) :
    (key, value) ∈ itemEntries start items ↔
      ∃ index : Nat, items[index]? = some value ∧ value ≠ .hole ∧ key = (start + index).repr := by
  induction items generalizing start with
  | nil => simp [itemEntries]
  | cons item rest ih =>
    have shifted : (∃ index : Nat, rest[index]? = some value ∧ value ≠ .hole ∧
        key = (start + 1 + index).repr) ↔
        ∃ index : Nat, (item :: rest)[index + 1]? = some value ∧ value ≠ .hole ∧
          key = (start + (index + 1)).repr := by
      simp only [List.getElem?_cons_succ, Nat.add_assoc, Nat.add_comm 1]
    by_cases hole : item = .hole
    · subst hole
      rw [itemEntries, ih, shifted]
      constructor
      · rintro ⟨index, found⟩
        exact ⟨index + 1, found⟩
      · rintro ⟨index, found, present, same⟩
        cases index with
        | zero =>
          rw [List.getElem?_cons_zero, Option.some.injEq] at found
          exact absurd found.symm present
        | succ index => exact ⟨index, found, present, same⟩
    · rw [itemEntries]
      · rw [List.mem_cons, ih, shifted]
        constructor
        · rintro (same | ⟨index, found⟩)
          · obtain ⟨rfl, rfl⟩ := Prod.mk.inj same
            exact ⟨0, rfl, hole, rfl⟩
          · exact ⟨index + 1, found⟩
        · rintro ⟨index, found, present, same⟩
          cases index with
          | zero =>
            rw [List.getElem?_cons_zero, Option.some.injEq] at found
            exact Or.inl (by rw [same, found, Nat.add_zero])
          | succ index => exact Or.inr ⟨index, found, present, same⟩
      · exact hole

theorem itemEntries_distinct (start : Nat) (items : List Value) :
    ((itemEntries start items).map Prod.fst).Nodup := by
  induction items generalizing start with
  | nil => simp [itemEntries]
  | cons item rest ih =>
    by_cases hole : item = .hole
    · subst hole
      exact ih (start + 1)
    · rw [itemEntries]
      · rw [List.map_cons, List.nodup_cons]
        refine ⟨?_, ih (start + 1)⟩
        intro repeated
        obtain ⟨⟨key, value⟩, member, same⟩ := List.mem_map.mp repeated
        obtain ⟨index, _, _, same'⟩ := (mem_itemEntries _ _ _ _).mp member
        have indices := repr_injective (same'.symm.trans same)
        omega
      · exact hole

variable {entry : String × Value} {key : String} {entries : Entries} {value : Value}
  {container : Value}

theorem mem_insertEntry (member : entry ∈ insertEntry entries key value) :
    entry = (key, value) ∨ entry ∈ entries := by
  rw [insertEntry] at member
  split at member
  · rw [List.mem_append, List.mem_cons] at member
    rcases member with member | same | member
    · exact Or.inr (List.takeWhile_subset _ member)
    · exact Or.inl same
    · exact Or.inr (List.dropWhile_subset _ member)
  · rw [List.mem_append, List.mem_singleton] at member
    exact member.symm

theorem mem_defineEntry (member : entry ∈ defineEntry entries key value) :
    entry = (key, value) ∨ entry ∈ entries := by
  rw [defineEntry] at member
  split at member
  · obtain ⟨source, listed, replaced⟩ := List.mem_map.mp member
    split at replaced
    · exact Or.inl replaced.symm
    · exact Or.inr (replaced ▸ listed)
  · exact mem_insertEntry member

theorem defineEntry_distinct (distinct : (entries.map Prod.fst).Nodup) (key : String)
    (value : Value) : ((defineEntry entries key value).map Prod.fst).Nodup := by
  rw [defineEntry]
  split
  · have keys : (entries.map fun entry => if entry.1 = key then (key, value) else entry).map
        Prod.fst = entries.map Prod.fst := by
      rw [List.map_map]
      apply List.map_congr_left
      intro entry _
      by_cases here : entry.1 = key
      · simp [here]
      · simp [here]
    rwa [keys]
  · next absent =>
    have fresh : key ∉ entries.map Prod.fst := by
      intro present
      obtain ⟨entry, member, same⟩ := List.mem_map.mp present
      have none : getOwn entries key = none := by simpa using absent
      have skipped := List.lookup_eq_none_iff.mp none entry member
      rw [same] at skipped
      simp at skipped
    rw [insertEntry]
    split
    · have whole := List.takeWhile_append_dropWhile (p := fun entry : String × Value =>
        isArrayIndexKey entry.1 && (arrayIndex entry.1).getD 0 < (arrayIndex key).getD 0)
        (l := entries)
      rw [← whole, List.map_append] at distinct fresh
      rw [List.map_append, List.map_cons]
      exact (List.nodup_middle).mpr (List.nodup_cons.mpr ⟨fresh, distinct⟩)
    · rw [List.map_append, List.map_singleton]
      exact List.nodup_append.mpr ⟨distinct, List.nodup_singleton key, by
        intro first member second same
        rw [List.mem_singleton.mp same]
        rintro rfl
        exact fresh member⟩

theorem mem_defineItem {items : List Value} {position index : Nat} {value item : Value}
    (found : (defineItem items position value)[index]? = some item) (present : item ≠ .hole) :
    (index = position ∧ item = value) ∨ items[index]? = some item := by
  rw [defineItem] at found
  split at found
  · by_cases here : position = index
    · subst here
      rw [List.getElem?_set_self (by assumption)] at found
      exact Or.inl ⟨rfl, (Option.some.inj found).symm⟩
    · rw [List.getElem?_set_ne here] at found
      exact Or.inr found
  · next outside =>
    rw [List.append_assoc] at found
    by_cases stored : index < items.length
    · rw [List.getElem?_append_left stored] at found
      exact Or.inr found
    · rw [List.getElem?_append_right (by omega)] at found
      by_cases hole : index - items.length < position - items.length
      · rw [List.getElem?_append_left (by rwa [List.length_replicate]),
          List.getElem?_replicate, if_pos hole] at found
        exact absurd (Option.some.inj found).symm present
      · rw [List.getElem?_append_right (by rw [List.length_replicate]; omega),
          List.length_replicate] at found
        have last : index - items.length - (position - items.length) = 0 := by
          by_contra beyond
          obtain ⟨more, same⟩ := Nat.exists_eq_succ_of_ne_zero beyond
          rw [same] at found
          simp at found
        rw [last, List.getElem?_cons_zero, Option.some.injEq] at found
        exact Or.inl ⟨by omega, found.symm⟩

/-- Members of a container after one of them is defined. -/
theorem mem_entriesOf_defineOwnValue
    (kind : container.isPlainObject = true ∨ container.isArray = true)
    (member : entry ∈ entriesOf (defineOwnValue container key value)) :
    entry = (key, value) ∨ entry ∈ entriesOf container := by
  cases container with
  | object entries => exact mem_defineEntry member
  | array items =>
    rw [defineOwnValue] at member
    split at member
    · next position =>
      obtain ⟨key', item⟩ := entry
      cases spelled : arrayIndex key with
      | none => rw [isArrayIndexKey, spelled] at position; contradiction
      | some index =>
        rw [spelled, Option.getD_some] at member
        obtain ⟨index', found, present, same⟩ := (mem_itemEntries _ _ _ _).mp member
        rcases mem_defineItem found present with ⟨rfl, rfl⟩ | stored
        · rw [Nat.zero_add, repr_of_arrayIndex spelled] at same
          exact Or.inl (by rw [same])
        · exact Or.inr ((mem_itemEntries _ _ _ _).mpr ⟨index', stored, present, same⟩)
    · exact Or.inr member
  | _ => simp [Value.isPlainObject, Value.isArray] at kind

theorem defineOwnValue_distinct (key : String) (value : Value)
    (kind : container.isPlainObject = true ∨ container.isArray = true)
    (distinct : ((entriesOf container).map Prod.fst).Nodup) :
    ((entriesOf (defineOwnValue container key value)).map Prod.fst).Nodup := by
  cases container with
  | object entries => exact defineEntry_distinct distinct key value
  | array items =>
    rw [defineOwnValue]
    split
    · exact itemEntries_distinct 0 _
    · exact distinct
  | _ => simp [Value.isPlainObject, Value.isArray] at kind

theorem defineOwnValue_kind (key : String) (value : Value)
    (kind : container.isPlainObject = true ∨ container.isArray = true) :
    (defineOwnValue container key value).isPlainObject = true ∨
      (defineOwnValue container key value).isArray = true := by
  cases container with
  | object entries => exact Or.inl rfl
  | array items =>
    rw [defineOwnValue]
    split <;> exact Or.inr rfl
  | _ => simp [Value.isPlainObject, Value.isArray] at kind

/-- An own object-valued property of a container is one of its members. -/
theorem mem_entriesOf_of_own {container existing : Value}
    (kind : container.isPlainObject = true ∨ container.isArray = true)
    (found : ownProperty container key = some existing) (object : isObject existing = true) :
    (key, existing) ∈ entriesOf container := by
  cases container with
  | object entries => exact mem_of_getOwn found
  | array items =>
    rw [ownProperty, ownItem] at found
    split at found
    · rw [← Option.some.inj found] at object
      contradiction
    · cases spelled : arrayIndex key with
      | none => rw [spelled] at found; contradiction
      | some index =>
        rw [spelled, Option.bind_some] at found
        refine (mem_itemEntries _ _ _ _).mpr ⟨index, ?_, ?_, ?_⟩
        · split at found
          · contradiction
          · exact found
        · rintro rfl
          contradiction
        · rw [Nat.zero_add, repr_of_arrayIndex spelled]
  | _ => simp [Value.isPlainObject, Value.isArray] at kind

end WebTsToolkit.Utils
