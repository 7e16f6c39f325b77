import Mathlib.Data.List.Forall2
import Mathlib.Logic.Relation
import WebTsToolkit.Js.Graph
import WebTsToolkit.JsonFrame.Json
import WebTsToolkit.Library.TransitionSystem

set_option autoImplicit false

namespace WebTsToolkit.JsonFrame

open Js Library

/-- A value that is no object. -/
inductive Primitive where
  | undefined
  | null
  | bool (value : Bool)
  | number (text : String)
  | bigint (value : Int)
  | string (value : String)
  | symbol (id : Nat)
  | callable (id : Nat)

def Primitive.value : Primitive → Value
  | .undefined => .undefined
  | .null => .null
  | .bool value => .bool value
  | .number text => .number text
  | .bigint value => .bigint value
  | .string value => .string value
  | .symbol id => .symbol id
  | .callable id => .callable id

/-- A value where objects are known by their references. -/
inductive Item (ι : Type) where
  | primitive (value : Primitive)
  | object (ref : ι)

/-- What an object holds. An item of an array that is not there is a hole; `classed` is an
object that is neither an array nor plain. -/
inductive Cell (ι : Type) where
  | array (items : List (Option (Item ι)))
  | plain (members : List (String × Item ι))
  | classed

section Graph

variable {ι : Type} (cells : ι → Cell ι)

/-- The finite tree that a value unfolds to, if it has one. An array with a hole has none, and
neither has a value on a cycle. -/
inductive Unfolds : Value → Item ι → Prop where
  | primitive (value : Primitive) : Unfolds value.value (.primitive value)
  | array (ref : ι) (items : List (Item ι)) (parts : List Value)
      (cell : cells ref = .array (items.map some)) (below : List.Forall₂ Unfolds parts items) :
      Unfolds (.array parts) (.object ref)
  | plain (ref : ι) (members : List (String × Item ι)) (parts : List Value)
      (cell : cells ref = .plain members)
      (below : List.Forall₂ Unfolds parts (members.map Prod.snd)) :
      Unfolds (.object ((members.map Prod.fst).zip parts)) (.object ref)

/-- What an object holds, without the names. -/
def Cell.slots : Cell ι → List (Option (Item ι))
  | .array items => items
  | .plain members => members.map fun entry => some entry.2
  | .classed => []

/-- One object holds another. -/
def Holds (ref part : ι) : Prop :=
  some (.object part) ∈ (cells ref).slots

/-- The objects that a value is or has as parts, at any depth. -/
def Contains (value : Item ι) (part : ι) : Prop :=
  ∃ ref, value = .object ref ∧ Relation.ReflTransGen (Holds cells) ref part

variable {cells}

theorem exists_part_of_mem {parts : List Value} {items : List (Item ι)}
    (below : List.Forall₂ (Unfolds cells) parts items) {item : Item ι} (member : item ∈ items) :
    ∃ part ∈ parts, Unfolds cells part item := by
  obtain ⟨index, bound, rfl⟩ := List.getElem_of_mem member
  have length := below.length_eq
  have unfolds := below.get (i := index) (by omega) bound
  rw [List.get_eq_getElem, List.get_eq_getElem] at unfolds
  exact ⟨_, List.getElem_mem _, unfolds⟩

/-- A part of a finite tree unfolds to a smaller one. -/
theorem exists_smaller {tree : Value} {ref part : ι} (unfolds : Unfolds cells tree (.object ref))
    (held : Holds cells ref part) :
    ∃ below, sizeOf below < sizeOf tree ∧ Unfolds cells below (.object part) := by
  cases unfolds with
  | array _ items parts cell below =>
    rw [Holds, cell] at held
    obtain ⟨item, listed, same⟩ := List.mem_map.mp held
    obtain rfl := Option.some.inj same
    obtain ⟨part, member, stands⟩ := exists_part_of_mem below listed
    have bound := List.sizeOf_lt_of_mem member
    have whole : sizeOf (Value.array parts) = 1 + sizeOf parts := Value.array.sizeOf_spec parts
    exact ⟨part, by omega, stands⟩
  | plain _ members parts cell below =>
    rw [Holds, cell] at held
    obtain ⟨entry, listed, same⟩ := List.mem_map.mp held
    have listed' : Item.object part ∈ members.map Prod.snd := by
      rw [← Option.some.inj same]
      exact List.mem_map_of_mem listed
    obtain ⟨inner, member, stands⟩ := exists_part_of_mem below listed'
    have length : parts.length = (members.map Prod.fst).length := by
      rw [below.length_eq, List.length_map, List.length_map]
    have unzipped : ((members.map Prod.fst).zip parts).map Prod.snd = parts :=
      List.map_snd_zip (by omega)
    rw [← unzipped] at member
    obtain ⟨⟨key, value⟩, named, rfl⟩ := List.mem_map.mp member
    have bound := List.sizeOf_lt_of_mem named
    have whole : sizeOf (Value.object ((members.map Prod.fst).zip parts)) =
      1 + sizeOf ((members.map Prod.fst).zip parts) := Value.object.sizeOf_spec _
    have pair : sizeOf (key, value) = 1 + sizeOf key + sizeOf value := rfl
    refine ⟨value, ?_, stands⟩
    show sizeOf value < _
    omega

theorem exists_smaller_below {tree : Value} {ref part : ι}
    (unfolds : Unfolds cells tree (.object ref))
    (inside : Relation.TransGen (Holds cells) ref part) :
    ∃ below, sizeOf below < sizeOf tree ∧ Unfolds cells below (.object part) := by
  induction inside with
  | single held => exact exists_smaller unfolds held
  | tail _ held ih =>
    obtain ⟨middle, smaller, stands⟩ := ih
    obtain ⟨below, shrinks, stands'⟩ := exists_smaller stands held
    exact ⟨below, by omega, stands'⟩

/-- An object on a cycle unfolds to no finite tree. -/
theorem not_unfolds_of_cycle {ref : ι} (cycle : Relation.TransGen (Holds cells) ref ref)
    (tree : Value) : ¬Unfolds cells tree (.object ref) := by
  intro unfolds
  obtain ⟨below, smaller, stands⟩ := exists_smaller_below unfolds cycle
  exact not_unfolds_of_cycle cycle below stands
termination_by sizeOf tree

end Graph

section Shapes

variable {ι : Type} {graph : Js.Graph ι}

def primitive? : Value → Option Primitive
  | .undefined => some .undefined
  | .null => some .null
  | .bool value => some (.bool value)
  | .number text => some (.number text)
  | .bigint value => some (.bigint value)
  | .string value => some (.string value)
  | .symbol id => some (.symbol id)
  | .callable id => some (.callable id)
  | _ => none

theorem value_of_primitive? {value : Value} {primitive : Primitive}
    (found : primitive? value = some primitive) : primitive.value = value := by
  cases value <;> cases found <;> rfl

/-- A reference of a graph of values: a leaf that is no object, or an object. -/
def itemOf (graph : Js.Graph ι) (ref : ι) : Item ι :=
  match graph.look ref with
  | .leaf value _ => ((primitive? value).map Item.primitive).getD (.object ref)
  | _ => .object ref

/-- What objects of a graph of values hold. A leaf that is an object is neither an array nor
plain. -/
def cellsOf (graph : Js.Graph ι) (ref : ι) : Cell ι :=
  match graph.look ref with
  | .leaf _ _ => .classed
  | .array refs => .array (refs.map fun ref => some (itemOf graph ref))
  | .object members => .plain (members.map fun member => (member.1, itemOf graph member.2))

/-- Where no leaf is an object, a graph of values and its objects stand for the same trees. -/
theorem unfolds_cellsOf (leaves : ∀ ref value single, graph.look ref = .leaf value single →
    (primitive? value).isSome = true) (tree : Value) (ref : ι) :
    Unfolds (cellsOf graph) tree (itemOf graph ref) ↔ graph.Unfolds tree ref := by
  have each (parts : List Value) (refs : List ι) (inside : ∀ part ∈ parts, tree.Child part) :
      List.Forall₂ (Unfolds (cellsOf graph)) parts (refs.map (itemOf graph)) ↔
        List.Forall₂ graph.Unfolds parts refs := by
    rw [List.forall₂_map_right_iff, List.forall₂_iff_get, List.forall₂_iff_get]
    refine and_congr_right fun _ => forall₃_congr fun index within _ => ?_
    have smaller := (inside _ (List.get_mem parts ⟨index, within⟩)).sizeOf_lt
    exact unfolds_cellsOf leaves _ _
  cases shape : graph.look ref with
  | leaf value single =>
    obtain ⟨primitive, found⟩ := Option.isSome_iff_exists.mp (leaves ref value single shape)
    have item : itemOf graph ref = .primitive primitive := by
      unfold itemOf
      rw [shape]
      simp [found]
    rw [item, Graph.unfolds_leaf shape, ← value_of_primitive? found]
    constructor
    · rintro ⟨⟩
      rfl
    · rintro rfl
      exact .primitive primitive
  | array refs =>
    have item : itemOf graph ref = .object ref := by rw [itemOf, shape]
    have cell : cellsOf graph ref = .array ((refs.map (itemOf graph)).map some) := by
      rw [cellsOf, shape, List.map_map]
      rfl
    rw [item, Graph.unfolds_array shape]
    constructor
    · intro unfolds
      cases unfolds with
      | array _ items parts cell' below =>
        rw [cell, Cell.array.injEq, List.map_inj_right fun _ _ => Option.some.inj] at cell'
        subst cell'
        exact ⟨parts, rfl, (each parts refs fun _ member => member).mp below⟩
      | plain _ members parts cell' below =>
        rw [cell] at cell'
        contradiction
    · rintro ⟨items, rfl, below⟩
      exact .array ref _ items cell ((each items refs fun _ member => member).mpr below)
  | object members =>
    have item : itemOf graph ref = .object ref := by rw [itemOf, shape]
    have cell : cellsOf graph ref =
        .plain (members.map fun member => (member.1, itemOf graph member.2)) := by
      rw [cellsOf, shape]
    have entry (entries : Entries) (whole : tree = .object entries) :
        List.Forall₂ graph.UnfoldsEntry entries members ↔
          entries.map Prod.fst = members.map Prod.fst ∧
            List.Forall₂ (Unfolds (cellsOf graph)) (entries.map Prod.snd)
              ((members.map Prod.snd).map (itemOf graph)) := by
      rw [each, ← List.forall₂_eq_eq_eq]
      · simp only [List.forall₂_map_left_iff, List.forall₂_map_right_iff]
        simp only [List.forall₂_iff_get, Graph.UnfoldsEntry, forall_and]
        rw [and_and_left]
      · intro part member
        obtain ⟨⟨key, _⟩, listed, rfl⟩ := List.mem_map.mp member
        exact whole ▸ ⟨key, listed⟩
    rw [item, Graph.unfolds_object shape]
    constructor
    · intro unfolds
      cases unfolds with
      | array _ items parts cell' below =>
        rw [cell] at cell'
        contradiction
      | plain _ members' parts cell' below =>
        rw [cell, Cell.plain.injEq] at cell'
        subst cell'
        have length := below.length_eq
        simp only [List.length_map] at length
        simp only [List.map_map, Function.comp_def] at below entry ⊢
        refine ⟨_, rfl, (entry _ rfl).mpr ⟨?_, ?_⟩⟩
        · exact List.map_fst_zip (by simp [length])
        · rw [List.map_snd_zip (by simp [length])]
          exact below
    · rintro ⟨entries, rfl, below⟩
      obtain ⟨keys, parts⟩ := (entry entries rfl).mp below
      have stands := Unfolds.plain ref _ (entries.map Prod.snd) cell
        (by simpa only [List.map_map, Function.comp_def] using parts)
      rw [List.map_map] at stands
      rw [List.zip_of_prod keys rfl]
      exact stands
termination_by tree

end Shapes

mutual

/-- How many values a tree has, with itself. -/
def nodeCount : Value → Nat
  | .array items => 1 + nodeCountItems items
  | .object entries => 1 + nodeCountEntries entries
  | _ => 1

def nodeCountItems : List Value → Nat
  | [] => 0
  | item :: rest => nodeCount item + nodeCountItems rest

def nodeCountEntries : List (String × Value) → Nat
  | [] => 0
  | (_, value) :: rest => nodeCount value + nodeCountEntries rest

end

/-- All values of several trees. -/
def totalCount (parts : List Value) : Nat :=
  (parts.map nodeCount).sum

theorem totalCount_cons (part : Value) (parts : List Value) :
    totalCount (part :: parts) = nodeCount part + totalCount parts := by
  rw [totalCount, List.map_cons, List.sum_cons]
  rfl

theorem nodeCountItems_eq (items : List Value) : nodeCountItems items = totalCount items := by
  induction items with
  | nil => rfl
  | cons item rest ih => rw [nodeCountItems, ih, totalCount_cons]

theorem nodeCountEntries_eq (entries : Entries) :
    nodeCountEntries entries = totalCount (entries.map Prod.snd) := by
  induction entries with
  | nil => rfl
  | cons entry rest ih => rw [nodeCountEntries, ih, List.map_cons, totalCount_cons]

/-- A part of a container that a traversal comes to. -/
structure Child (ι : Type) where
  key : String
  path : String
  item : Option (Item ι)

def Cell.children {ι : Type} (path : String) : Cell ι → List (Child ι)
  | .array items =>
    items.mapIdx fun index item => ⟨index.repr, appendIndexPath path index, item⟩
  | .plain members =>
    members.map fun entry => ⟨entry.1, appendPropertyPath path entry.1, some entry.2⟩
  | .classed => []

/-- `cloneScalar` of a value that is no object. -/
def cloneScalar (traversal : Traversal) (path : String) : Primitive → Except JsonFrameError Unit
  | .null | .string _ | .bool _ => .ok ()
  | .number text =>
    if isFiniteText text then .ok ()
    else .error (traversal.refusal "Numbers must be finite JSON values." path)
  | .undefined | .callable _ | .symbol _ | .bigint _ =>
    .error (traversal.refusal "Input must contain only JSON-compatible values." path)

/-- A value that passes its own checks. -/
inductive Visited (ι : Type) where
  | scalar (value : Primitive)
  | container (ref : ι)

/-- A frame of a loop, with where its copy is. -/
structure Frame (ι Target : Type) where
  source : ι
  target : Target
  path : String
  depth : Nat
  index : Nat

section Loops

variable {ι : Type} [DecidableEq ι] (cells : ι → Cell ι) (traversal : Traversal)

/-- What `createFrame` and `createValidateFrame` both check, and the nodes that remain. -/
def inspect (path : String) (depth : Nat) (ancestors : List ι) (remaining : Option Nat)
    (source : Item ι) : Except JsonFrameError (Visited ι × Option Nat) := do
  let remaining ← traversal.charge path remaining
  match source with
  | .primitive value => do
    cloneScalar traversal path value
    return (.scalar value, remaining)
  | .object ref =>
    if maxDepth < depth then
      .error (traversal.refusal ("JSON input exceeds the maximum supported nesting depth of " ++
        maxDepth.repr ++ ".") path)
    else
      match cells ref with
      | .array _ =>
        if ref ∈ ancestors then
          .error (traversal.refusal "Input contains a cyclic array." path)
        else return (.container ref, remaining)
      | .plain _ =>
        if ref ∈ ancestors then
          .error (traversal.refusal "Input contains a cyclic object." path)
        else return (.container ref, remaining)
      | .classed =>
        .error (traversal.refusal "Input objects must be plain JSON objects or arrays." path)

/-- The next part of a frame's container, `none` after the last. -/
def Frame.child {Target : Type} (frame : Frame ι Target) :
    Option (Except JsonFrameError (Child ι × Item ι)) :=
  ((cells frame.source).children frame.path)[frame.index]?.map fun child =>
    match child.item with
    | none => .error (traversal.refusal "Sparse arrays are not valid JSON input." child.path)
    | some item => .ok (child, item)

/-- The variables of `assertJsonCompatible`. -/
structure ValidateState (ι : Type) where
  stack : List (Frame ι Unit)
  ancestors : List ι
  remaining : Option Nat

def createValidateFrame (source : Item ι) (path : String) (depth : Nat)
    (state : ValidateState ι) :
    Except JsonFrameError (Option (Frame ι Unit) × ValidateState ι) := do
  let (visited, remaining) ←
    inspect cells traversal path depth state.ancestors state.remaining source
  match visited with
  | .scalar _ => return (none, { state with remaining := remaining })
  | .container ref =>
    return (some ⟨ref, (), path, depth, 0⟩,
      { state with
        ancestors := ref :: state.ancestors
        remaining := remaining })

def validateTurn (state : ValidateState ι) :
    Option (Except JsonFrameError (ValidateState ι)) :=
  match state.stack with
  | [] => none
  | frame :: stack =>
    match frame.child cells traversal with
    | none =>
      some (.ok
        { state with
          stack := stack
          ancestors := state.ancestors.erase frame.source })
    | some (.error refusal) => some (.error refusal)
    | some (.ok (child, item)) =>
      some do
        let stack := { frame with index := frame.index + 1 } :: stack
        let (entered, state) ←
          createValidateFrame cells traversal item child.path (frame.depth + 1) state
        return { state with stack := entered.toList ++ stack }

/-- The `while` loop of `assertJsonCompatible`. -/
def validating : Machine (ValidateState ι) JsonFrameError where
  turn := validateTurn cells traversal

/-- The objects of the input and the containers of the copy, which are numbered. -/
abbrev Copied (ι : Type) := Cell (ι ⊕ Nat)

/-- The variables of `cloneJsonCompatible`, and the containers that it made. -/
structure CloneState (ι : Type) where
  stack : List (Frame ι Nat)
  ancestors : List ι
  remaining : Option Nat
  heap : List (Copied ι)

/-- `[]` or `Object.create(null)`. -/
def Cell.empty : Cell ι → Copied ι
  | .array _ => .array []
  | .plain _ => .plain []
  | .classed => .classed

def createFrame (source : Item ι) (path : String) (depth : Nat) (state : CloneState ι) :
    Except JsonFrameError (Item (ι ⊕ Nat) × Option (Frame ι Nat) × CloneState ι) := do
  let (visited, remaining) ←
    inspect cells traversal path depth state.ancestors state.remaining source
  match visited with
  | .scalar value => return (.primitive value, none, { state with remaining := remaining })
  | .container ref =>
    return (.object (.inr state.heap.length), some ⟨ref, state.heap.length, path, depth, 0⟩,
      { state with
        ancestors := ref :: state.ancestors
        remaining := remaining
        heap := state.heap ++ [(cells ref).empty] })

/-- `target.push(value)`, or `target[key] = value` for a key that is not there yet. -/
def Copied.put (target : Copied ι) (key : String) (value : Item (ι ⊕ Nat)) : Copied ι :=
  match target with
  | .array items => .array (items ++ [some value])
  | .plain members => .plain (members ++ [(key, value)])
  | .classed => .classed

def cloneTurn (state : CloneState ι) : Option (Except JsonFrameError (CloneState ι)) :=
  match state.stack with
  | [] => none
  | frame :: stack =>
    match frame.child cells traversal with
    | none =>
      some (.ok
        { state with
          stack := stack
          ancestors := state.ancestors.erase frame.source })
    | some (.error refusal) => some (.error refusal)
    | some (.ok (child, item)) =>
      some do
        let stack := { frame with index := frame.index + 1 } :: stack
        let (value, entered, state) ←
          createFrame cells traversal item child.path (frame.depth + 1) state
        return { state with
          stack := entered.toList ++ stack
          heap := state.heap.modify frame.target fun target => Copied.put target child.key value }

/-- The `while` loop of `cloneJsonCompatible`. -/
def cloning : Machine (CloneState ι) JsonFrameError where
  turn := cloneTurn cells traversal

/-- The result after so many turns at most. -/
def Graph.assertJsonCompatible (value : Item ι) (orient : Option ResolvedOrient) (path : String)
    (maxNodes : Option Nat) (fuel : Nat) : Option (Except JsonFrameError Unit) :=
  let traversal : Traversal := { orient, maxNodes }
  match createValidateFrame cells traversal value path 0 ⟨[], [], maxNodes⟩ with
  | .error refusal => some (.error refusal)
  | .ok (root, state) =>
    ((validating cells traversal).run fuel { state with stack := root.toList }).map fun ended =>
      ended.map fun _ => ()

/-- The copy, with the containers that it consists of, after so many turns at most. -/
def Graph.cloneJsonCompatible (value : Item ι) (orient : Option ResolvedOrient) (path : String)
    (maxNodes : Option Nat) (fuel : Nat) :
    Option (Except JsonFrameError (Item (ι ⊕ Nat) × List (Copied ι))) :=
  let traversal : Traversal := { orient, maxNodes }
  match createFrame cells traversal value path 0 ⟨[], [], maxNodes, []⟩ with
  | .error refusal => some (.error refusal)
  | .ok (copy, root, state) =>
    ((cloning cells traversal).run fuel { state with stack := root.toList }).map fun ended =>
      ended.map fun state => (copy, state.heap)

end Loops

end WebTsToolkit.JsonFrame
