import WebTsToolkit.Utils.ObjectEntries
import WebTsToolkit.Utils.PathFrame
import WebTsToolkit.Utils.PathTree

set_option autoImplicit false

/- Values and their trees are written alike. -/
namespace WebTsToolkit.Utils.PathTree

open Js

mutual

/-- A value as a tree. An object of any class is a leaf. -/
def treeOf : Value → DataTree Value
  | .undefined => .undefined
  | .null => .null
  | .object entries => .object .plain (membersOf entries)
  | .array items => .object (.array items.length) (itemsOf 0 items)
  | value => .leaf value

def membersOf : List (String × Value) → Members Value
  | [] => []
  | (key, value) :: rest => (key, treeOf value) :: membersOf rest

def itemsOf (index : Nat) : List Value → Members Value
  | [] => []
  | .hole :: rest => itemsOf (index + 1) rest
  | item :: rest => (index.repr, treeOf item) :: itemsOf (index + 1) rest

end

theorem membersOf_eq (entries : Entries) :
    membersOf entries = entries.map fun entry => (entry.1, treeOf entry.2) := by
  induction entries with
  | nil => rfl
  | cons entry rest ih => rw [membersOf, ih, List.map_cons]

theorem itemsOf_eq (index : Nat) (items : List Value) :
    itemsOf index items = membersOf (itemEntries index items) := by
  induction items generalizing index with
  | nil => rfl
  | cons item rest ih =>
    by_cases hole : item = .hole
    · rw [hole, itemsOf, itemEntries, ih]
    · rw [itemsOf, itemEntries, membersOf, ih] <;> exact hole

variable {entries : Entries} {key : String} {items : List Value} {index : Nat}

theorem lookup_membersOf (entries : Entries) (key : String) :
    (membersOf entries).lookup key = (getOwn entries key).map treeOf := by
  induction entries with
  | nil => rfl
  | cons entry rest ih =>
    rw [membersOf, lookup_cons, getOwn_cons, ih]
    split <;> rfl

/-- One entry is replaced. -/
def replaced (entries : Entries) (key : String) (value : Value) : Entries :=
  entries.map fun entry => if entry.1 = key then (key, value) else entry

theorem replaced_absent (absent : key ∉ entries.map Prod.fst) (value : Value) :
    replaced entries key value = entries := by
  refine (List.map_congr_left ?_).trans (List.map_id entries)
  intro entry member
  rw [if_neg fun same => absent (List.mem_map.mpr ⟨entry, member, same⟩), id]

theorem replaceMember_membersOf (distinct : (entries.map Prod.fst).Nodup) (value : Value) :
    replaceMember (membersOf entries) key (treeOf value) =
      membersOf (replaced entries key value) := by
  induction entries with
  | nil => rfl
  | cons entry rest ih =>
    rw [List.map_cons, List.nodup_cons] at distinct
    rw [membersOf, replaceMember]
    by_cases here : entry.1 = key
    · have others := replaced_absent (here ▸ distinct.1) value
      rw [replaced] at others
      rw [if_pos here, replaced, List.map_cons, if_pos here, others, membersOf]
    · rw [if_neg here, ih distinct.2, replaced, replaced, List.map_cons, if_neg here, membersOf]

theorem defineMember_membersOf (distinct : (entries.map Prod.fst).Nodup) (value : Value) :
    defineMember (membersOf entries) key (treeOf value) =
      membersOf (defineEntry entries key value) := by
  rw [defineMember, defineEntry, lookup_membersOf, Option.isSome_map]
  split
  · exact replaceMember_membersOf distinct value
  · rw [insertMember, insertEntry]
    simp only [membersOf_eq]
    split
    · simp [List.takeWhile_map, List.dropWhile_map, Function.comp_def]
    · simp

theorem itemEntries_cons {item : Value} (present : item ≠ .hole) (start : Nat) (rest : List Value) :
    itemEntries start (item :: rest) = (start.repr, item) :: itemEntries (start + 1) rest := by
  rw [itemEntries]
  exact present

theorem replaced_item {item value : Value} (found : items[index]? = some item)
    (present : item ≠ .hole) (stored : value ≠ .hole) (start : Nat) :
    replaced (itemEntries start items) (start + index).repr value =
      itemEntries start (items.set index value) := by
  induction items generalizing start index with
  | nil => contradiction
  | cons first rest ih =>
    cases index with
    | zero =>
      obtain rfl := Option.some.inj found
      have absent : start.repr ∉ (itemEntries (start + 1) rest).map Prod.fst := by
        intro listed
        obtain ⟨⟨key, other⟩, member, same⟩ := List.mem_map.mp listed
        obtain ⟨later, _, _, named⟩ := (mem_itemEntries _ _ _ _).mp member
        have indices := repr_injective (same.symm.trans named)
        omega
      have others := replaced_absent absent value
      rw [replaced] at others
      rw [List.set_cons_zero, itemEntries_cons present, itemEntries_cons stored, replaced,
        List.map_cons, Nat.add_zero, if_pos rfl, others]
    | succ index =>
      have below := ih found (start + 1)
      rw [Nat.add_assoc, Nat.add_comm 1] at below
      rw [List.set_cons_succ]
      by_cases hole : first = .hole
      · rw [hole, itemEntries, itemEntries, below]
      · have apart : start.repr ≠ (start + (index + 1)).repr := by
          intro same
          have indices := repr_injective same
          omega
        rw [replaced] at below
        rw [itemEntries_cons hole, itemEntries_cons hole, replaced, List.map_cons, if_neg apart,
          below]

/-- A path through stored containers and new objects. -/
inductive Leads : Value → List String → Prop where
  | last {entries : Entries} (distinct : (entries.map Prod.fst).Nodup) (key : String) :
      Leads (.object entries) [key]
  | field {entries : Entries} {key nextKey : String} {rest : List String}
      (distinct : (entries.map Prod.fst).Nodup)
      (below : Leads (enter (.object entries) key nextKey) (nextKey :: rest)) :
      Leads (.object entries) (key :: nextKey :: rest)
  | item {items : List Value} {index : Nat} {item : Value} {nextKey : String}
      {rest : List String} (small : isArrayIndexKey index.repr = true)
      (found : items[index]? = some item) (below : Leads item (nextKey :: rest)) :
      Leads (.array items) (index.repr :: nextKey :: rest)

variable {current : Value} {parts : List String}

/-- Such a path starts at a container and leaves one there. -/
theorem Leads.container (leads : Leads current parts) (value : Value) :
    isObject current = true ∧ (∃ kind members, treeOf current = .object kind members) ∧
      Utils.setParts current parts value ≠ .hole := by
  cases leads with
  | last | field => exact ⟨rfl, ⟨_, _, rfl⟩, by rintro ⟨⟩⟩
  | item small found below =>
    refine ⟨rfl, ⟨_, _, rfl⟩, ?_⟩
    rw [Utils.setParts, defineOwnValue, if_pos small]
    rintro ⟨⟩

/-- Values and trees are written alike along a path. -/
theorem setParts_treeOf (leads : Leads current parts) (value : Value) :
    (treeOf current).setParts parts (treeOf value) =
      some (treeOf (Utils.setParts current parts value)) := by
  induction leads with
  | last distinct key =>
    rw [DataTree.setParts, treeOf, DataTree.defineOwnValue, defineMember_membersOf distinct]
    rfl
  | @field entries key nextKey rest distinct below ih =>
    obtain ⟨object, ⟨kind, members, container⟩, _⟩ := below.container value
    have own : (treeOf (.object entries)).own key = (getOwn entries key).map treeOf :=
      lookup_membersOf entries key
    have written (below : Value) : defineMember (membersOf entries) key (treeOf below) =
        membersOf (defineEntry entries key below) := defineMember_membersOf distinct below
    have made (fresh : enter (.object entries) key nextKey = newContainer nextKey) :
        ((DataTree.newContainer nextKey).setParts (nextKey :: rest) (treeOf value)).bind
          ((treeOf (.object entries)).defineOwnValue key ·) =
        some (treeOf (Utils.setParts (.object entries) (key :: nextKey :: rest) value)) := by
      have same : treeOf (newContainer nextKey) = DataTree.newContainer nextKey := by
        rw [newContainer, DataTree.newContainer]
        split <;> rfl
      rw [← same, ← fresh, ih, Option.bind_some, treeOf, DataTree.defineOwnValue, written]
      rfl
    rw [DataTree.setParts, own]
    cases found : getOwn entries key with
    | none => exact made (by rw [enter, ownProperty, found])
    | some existing =>
      by_cases plain : isObject existing = true
      · have entered : enter (.object entries) key nextKey = existing := by
          rw [enter, ownProperty, found]
          exact if_pos plain
        rw [entered] at container ih
        rw [container] at ih
        have written := written
          (Utils.setParts (enter (.object entries) key nextKey) (nextKey :: rest) value)
        rw [defineMember, if_pos (by rw [lookup_membersOf, found]; rfl)] at written
        rw [Option.map_some, container]
        dsimp only
        rw [ih, Option.map_some, treeOf, DataTree.put, ← entered, written]
        rfl
      · have fresh := made (by rw [enter, ownProperty, found]; exact if_neg plain)
        cases existing <;> first | exact fresh | exact absurd rfl plain
  | @item items index item nextKey rest small found below ih =>
    obtain ⟨object, ⟨kind, members, container⟩, stored⟩ := below.container value
    have present : item ≠ .hole := by
      rintro rfl
      contradiction
    have own : (treeOf (.array items)).own index.repr = some (.object kind members) := by
      have listed := getOwn_eq_some_of_mem (itemEntries_distinct 0 items)
        ((mem_itemEntries 0 items _ item).mpr ⟨index, found, present, by rw [Nat.zero_add]⟩)
      rw [treeOf, DataTree.own, if_neg (repr_ne_length index), itemsOf_eq, lookup_membersOf, listed,
        Option.map_some, container]
    have inside := (List.getElem?_eq_some_iff.mp found).1
    have entered : enter (.array items) index.repr nextKey = item := by
      rw [enter, ownProperty_item found present]
      exact if_pos object
    have written := replaced_item found present stored 0
    rw [Nat.zero_add] at written
    rw [container] at ih
    rw [DataTree.setParts, own, Utils.setParts, entered, defineOwnValue, if_pos small,
      arrayIndex_repr, Option.getD_some, defineItem, if_pos inside]
    dsimp only
    rw [ih, Option.map_some, treeOf, DataTree.put, itemsOf_eq,
      replaceMember_membersOf (itemEntries_distinct 0 items), written, treeOf, itemsOf_eq,
      List.length_set]

end WebTsToolkit.Utils.PathTree
