import Mathlib.Data.List.Forall2
import Mathlib.Logic.Relation
import WebTsToolkit.Js.Value
import WebTsToolkit.Library.Metered

set_option autoImplicit false

namespace WebTsToolkit.Js

/-- A value that is no array and no plain object. A hole is no value. -/
def Value.isSingle : Value → Bool
  | .array _ | .object _ | .hole => false
  | _ => true

/-- One layer of a value: a container names its members by their identities. -/
inductive Shape (ι : Type) where
  | leaf (value : Value) (single : value.isSingle = true)
  | array (items : List ι)
  | object (entries : List (String × ι))

/-- Values with sharing and cycles. Two references are the same container when they are
equal. -/
structure Graph (ι : Type) where
  look : ι → Shape ι
  distinct : ∀ ref entries, look ref = .object entries → (entries.map Prod.fst).Nodup

/-- A tree directly inside another. -/
def Value.Child (tree child : Value) : Prop :=
  match tree with
  | .array items => child ∈ items
  | .object entries => ∃ key, (key, child) ∈ entries
  | _ => False

theorem Value.Child.sizeOf_lt {tree child : Value} (inside : tree.Child child) :
    sizeOf child < sizeOf tree := by
  cases tree with
  | array items =>
    have bound := List.sizeOf_lt_of_mem (show child ∈ items from inside)
    have whole : sizeOf (Value.array items) = 1 + sizeOf items :=
      Value.array.sizeOf_spec items
    omega
  | object entries =>
    obtain ⟨key, member⟩ := inside
    have bound := List.sizeOf_lt_of_mem member
    have whole : sizeOf (Value.object entries) = 1 + sizeOf entries :=
      Value.object.sizeOf_spec entries
    have pair : sizeOf (key, child) = 1 + sizeOf key + sizeOf child := rfl
    omega
  | _ => exact absurd inside id

namespace Graph

variable {ι : Type}

mutual

/-- The finite tree that a reference stands for. A value on a cycle stands for none. -/
def Unfolds (graph : Graph ι) : Value → ι → Prop
  | .array items, ref => ∃ refs, graph.look ref = .array refs ∧ graph.UnfoldsItems items refs
  | .object entries, ref =>
    ∃ members, graph.look ref = .object members ∧ graph.UnfoldsEntries entries members
  | value, ref => ∃ single, graph.look ref = .leaf value single

def UnfoldsItems (graph : Graph ι) : List Value → List ι → Prop
  | [], [] => True
  | item :: items, ref :: refs => graph.Unfolds item ref ∧ graph.UnfoldsItems items refs
  | _, _ => False

def UnfoldsEntries (graph : Graph ι) : List (String × Value) → List (String × ι) → Prop
  | [], [] => True
  | (key, value) :: entries, (name, ref) :: members =>
    key = name ∧ graph.Unfolds value ref ∧ graph.UnfoldsEntries entries members
  | _, _ => False

end

theorem unfoldsItems_iff (graph : Graph ι) (items : List Value) (refs : List ι) :
    graph.UnfoldsItems items refs ↔ List.Forall₂ graph.Unfolds items refs := by
  induction items generalizing refs with
  | nil => cases refs <;> simp [UnfoldsItems]
  | cons item items ih => cases refs <;> simp [UnfoldsItems, ih]

/-- An entry stands for the member of the same key. -/
def UnfoldsEntry (graph : Graph ι) (entry : String × Value) (member : String × ι) : Prop :=
  entry.1 = member.1 ∧ graph.Unfolds entry.2 member.2

theorem unfoldsEntries_iff (graph : Graph ι) (entries : Entries) (members : List (String × ι)) :
    graph.UnfoldsEntries entries members ↔
      List.Forall₂ graph.UnfoldsEntry entries members := by
  induction entries generalizing members with
  | nil => cases members <;> simp [UnfoldsEntries]
  | cons entry entries ih =>
    cases members <;> simp [UnfoldsEntries, UnfoldsEntry, ih, and_assoc]

variable {graph : Graph ι} {ref : ι}

theorem unfolds_leaf {value : Value} {single : value.isSingle = true}
    (shape : graph.look ref = .leaf value single) (tree : Value) :
    graph.Unfolds tree ref ↔ tree = value := by
  constructor
  · intro unfolds
    cases tree with
    | array items | object entries =>
      obtain ⟨_, other, _⟩ := unfolds
      rw [shape] at other
      contradiction
    | _ =>
      obtain ⟨_, other⟩ := unfolds
      rw [shape] at other
      injection other with same
      exact same.symm
  · intro same
    subst same
    cases tree with
    | array items | object entries => contradiction
    | _ => exact ⟨single, shape⟩

theorem unfolds_array {refs : List ι} (shape : graph.look ref = .array refs) (tree : Value) :
    graph.Unfolds tree ref ↔
      ∃ items, tree = .array items ∧ List.Forall₂ graph.Unfolds items refs := by
  constructor
  · intro unfolds
    cases tree with
    | array items =>
      obtain ⟨_, other, below⟩ := unfolds
      rw [shape] at other
      injection other with same
      subst same
      exact ⟨items, rfl, (unfoldsItems_iff graph items _).mp below⟩
    | object entries =>
      obtain ⟨_, other, _⟩ := unfolds
      rw [shape] at other
      contradiction
    | _ =>
      obtain ⟨_, other⟩ := unfolds
      rw [shape] at other
      contradiction
  · rintro ⟨items, same, below⟩
    subst same
    exact ⟨refs, shape, (unfoldsItems_iff graph items refs).mpr below⟩

theorem unfolds_object {members : List (String × ι)} (shape : graph.look ref = .object members)
    (tree : Value) :
    graph.Unfolds tree ref ↔
      ∃ entries, tree = .object entries ∧
        List.Forall₂ graph.UnfoldsEntry entries members := by
  constructor
  · intro unfolds
    cases tree with
    | object entries =>
      obtain ⟨_, other, below⟩ := unfolds
      rw [shape] at other
      injection other with same
      subst same
      exact ⟨entries, rfl, (unfoldsEntries_iff graph entries _).mp below⟩
    | array items =>
      obtain ⟨_, other, _⟩ := unfolds
      rw [shape] at other
      contradiction
    | _ =>
      obtain ⟨_, other⟩ := unfolds
      rw [shape] at other
      contradiction
  · rintro ⟨entries, same, below⟩
    subst same
    exact ⟨members, shape, (unfoldsEntries_iff graph entries members).mpr below⟩

/-- A reference stands for one tree only. -/
theorem unfolds_unique (graph : Graph ι) (tree : Value) :
    ∀ other ref, graph.Unfolds tree ref → graph.Unfolds other ref → tree = other := by
  induction tree using Value.induction with
  | array items ih =>
    intro other ref unfolds again
    obtain ⟨refs, shape, below⟩ := unfolds
    obtain ⟨others, same, below'⟩ := (unfolds_array shape other).mp again
    have below := (unfoldsItems_iff graph items refs).mp below
    have items_eq := Library.forall₂_unique ih below below'
    rw [same, items_eq]
  | object entries ih =>
    intro other ref unfolds again
    obtain ⟨members, shape, below⟩ := unfolds
    obtain ⟨others, same, below'⟩ := (unfolds_object shape other).mp again
    have below := (unfoldsEntries_iff graph entries members).mp below
    have each : ∀ entry ∈ entries, ∀ entry' member, graph.UnfoldsEntry entry member →
        graph.UnfoldsEntry entry' member → entry = entry' := by
      intro entry listed entry' member here here'
      exact Prod.ext (here.1.trans here'.1.symm) (ih entry listed _ _ here.2 here'.2)
    have entries_eq := Library.forall₂_unique each below below'
    rw [same, entries_eq]
  | classed kind fields ih =>
    intro other ref unfolds again
    obtain ⟨_, shape⟩ := unfolds
    exact ((unfolds_leaf shape other).mp again).symm
  | leaf value isLeaf =>
    intro other ref unfolds again
    cases value with
    | array items | object entries => contradiction
    | _ =>
      obtain ⟨_, shape⟩ := unfolds
      exact ((unfolds_leaf shape other).mp again).symm

/-- A member of a container. -/
def Holds (graph : Graph ι) (ref member : ι) : Prop :=
  match graph.look ref with
  | .leaf _ _ => False
  | .array refs => member ∈ refs
  | .object members => ∃ key, (key, member) ∈ members

/-- The whole, or a part of it at any depth. -/
def Reaches (graph : Graph ι) : ι → ι → Prop :=
  Relation.ReflTransGen graph.Holds

variable {ι : Type} {graph : Graph ι} {tree : Value}

theorem exists_child {ref member : ι} (unfolds : graph.Unfolds tree ref)
    (inside : graph.Holds ref member) : ∃ child, tree.Child child ∧ graph.Unfolds child member := by
  rw [Holds] at inside
  split at inside
  · exact absurd inside id
  · next refs shape =>
    obtain ⟨items, same, below⟩ := (unfolds_array shape tree).mp unfolds
    subst same
    obtain ⟨index, bound, found⟩ := List.getElem_of_mem inside
    have length := below.length_eq
    have stands := below.get (i := index) (by omega) bound
    rw [List.get_eq_getElem, List.get_eq_getElem, found] at stands
    exact ⟨_, List.getElem_mem _, stands⟩
  · next members shape =>
    obtain ⟨entries, same, below⟩ := (unfolds_object shape tree).mp unfolds
    subst same
    obtain ⟨key, listed⟩ := inside
    obtain ⟨index, bound, found⟩ := List.getElem_of_mem listed
    have length := below.length_eq
    have stands := below.get (i := index) (by omega) bound
    rw [List.get_eq_getElem, List.get_eq_getElem, found] at stands
    exact ⟨_, ⟨_, List.getElem_mem _⟩, stands.2⟩

/-- What a part of a finite tree stands for is a smaller tree. -/
theorem exists_below {ref part : ι} (unfolds : graph.Unfolds tree ref)
    (inside : Relation.TransGen graph.Holds ref part) :
    ∃ below, graph.Unfolds below part ∧ sizeOf below < sizeOf tree := by
  induction inside with
  | single held =>
    obtain ⟨child, inner, stands⟩ := exists_child unfolds held
    exact ⟨child, stands, inner.sizeOf_lt⟩
  | tail _ held ih =>
    obtain ⟨below, stands, smaller⟩ := ih
    obtain ⟨child, inner, stands'⟩ := exists_child stands held
    have shrinks := inner.sizeOf_lt
    exact ⟨child, stands', by omega⟩

/-- A finite tree has no cycle. -/
theorem acyclic_of_unfolds {ref : ι} (unfolds : graph.Unfolds tree ref) :
    ¬Relation.TransGen graph.Holds ref ref := by
  intro cycle
  obtain ⟨below, stands, smaller⟩ := exists_below unfolds cycle
  have same := unfolds_unique graph tree below ref unfolds stands
  subst same
  omega

theorem exists_part {ref part : ι} (unfolds : graph.Unfolds tree ref)
    (inside : graph.Reaches ref part) :
    ∃ below, Relation.ReflTransGen Value.Child tree below ∧ graph.Unfolds below part := by
  induction inside with
  | refl => exact ⟨tree, Relation.ReflTransGen.refl, unfolds⟩
  | tail _ held ih =>
    obtain ⟨below, inner, stands⟩ := ih
    obtain ⟨child, deeper, stands'⟩ := exists_child stands held
    exact ⟨child, inner.tail deeper, stands'⟩

end Graph

end WebTsToolkit.Js
