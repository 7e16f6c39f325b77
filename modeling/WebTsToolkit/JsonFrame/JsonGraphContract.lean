import WebTsToolkit.JsonFrame.JsonGraphClone

set_option autoImplicit false

namespace WebTsToolkit.JsonFrame

open Js Library

section Agreement

variable {ι : Type} [DecidableEq ι] {cells : ι → Cell ι} {traversal : Traversal}

/-- A frame without its copy. -/
def Frame.validate (frame : Frame ι Nat) : Frame ι Unit :=
  { frame with target := () }

/-- The variables that `assertJsonCompatible` has as well. -/
def CloneState.validate (state : CloneState ι) : ValidateState ι :=
  { state with stack := state.stack.map Frame.validate }

theorem createValidateFrame_validate (source : Item ι) (path : String) (depth : Nat)
    (state : CloneState ι) :
    createValidateFrame cells traversal source path depth state.validate =
      (createFrame cells traversal source path depth state).map fun created =>
        (created.2.1.map Frame.validate, created.2.2.validate) := by
  simp only [createValidateFrame, createFrame, CloneState.validate]
  rcases inspect cells traversal path depth state.ancestors state.remaining source with
    refusal | ⟨value | ref, left⟩ <;> rfl

theorem validateTurn_validate (state : CloneState ι) :
    (validating cells traversal).turn state.validate =
      ((cloning cells traversal).turn state).map (Except.map CloneState.validate) := by
  obtain ⟨stack, ancestors, remaining, heap⟩ := state
  cases stack with
  | nil => rfl
  | cons frame stack =>
    have same : frame.validate.child cells traversal = frame.child cells traversal := rfl
    simp only [validating, validateTurn, cloning, cloneTurn, CloneState.validate,
      List.map_cons, same]
    rcases frame.child cells traversal with _ | refusal | ⟨child, item⟩
    · rfl
    · rfl
    · have created : createValidateFrame cells traversal _ _ _ _ = _ :=
        createValidateFrame_validate item child.path (frame.depth + 1)
          ⟨frame :: stack, ancestors, remaining, heap⟩
      simp only [CloneState.validate, List.map_cons] at created
      simp only [Frame.validate] at created ⊢
      rw [created]
      rcases createFrame cells traversal item child.path (frame.depth + 1)
        ⟨frame :: stack, ancestors, remaining, heap⟩ with refusal | ⟨value, entered, state⟩
      · rfl
      · cases entered <;> rfl

/-- The two loops take the same turns. -/
theorem assertJsonCompatible_eq (value : Item ι) (orient : Option ResolvedOrient) (path : String)
    (maxNodes : Option Nat) (fuel : Nat) :
    Graph.assertJsonCompatible cells value orient path maxNodes fuel =
      (Graph.cloneJsonCompatible cells value orient path maxNodes fuel).map
        (Except.map fun _ => ()) := by
  have created : createValidateFrame cells { orient, maxNodes } _ _ _ _ = _ :=
    createValidateFrame_validate value path 0 ⟨[], [], maxNodes, []⟩
  rw [Graph.assertJsonCompatible, Graph.cloneJsonCompatible]
  change createValidateFrame cells { orient, maxNodes } value path 0 ⟨[], [], maxNodes⟩ = _
    at created
  simp only [created]
  rcases createFrame cells { orient, maxNodes } value path 0 ⟨[], [], maxNodes, []⟩ with
    refusal | ⟨copy, root, state⟩
  · rfl
  · have alongside : (validating cells { orient, maxNodes }).run _ _ = _ :=
      Machine.run_view CloneState.validate validateTurn_validate fuel
        { state with stack := root.toList }
    have same : CloneState.validate { state with stack := root.toList } =
        { state.validate with stack := (root.map Frame.validate).toList } := by
      cases root <;> rfl
    rw [same] at alongside
    show ((validating cells { orient, maxNodes }).run fuel _).map _ =
      (((cloning cells { orient, maxNodes }).run fuel _).map _).map _
    rw [alongside]
    rcases (cloning cells { orient, maxNodes }).run fuel _ with _ | refusal | ended <;> rfl

end Agreement

section Sharing

variable {ι κ : Type}

def Item.map (change : ι → κ) : Item ι → Item κ
  | .primitive value => .primitive value
  | .object ref => .object (change ref)

def Cell.map (change : ι → κ) : Cell ι → Cell κ
  | .array items => .array (items.map (Option.map (Item.map change)))
  | .plain members => .plain (members.map fun entry => (entry.1, entry.2.map change))
  | .classed => .classed

/-- The input next to the containers of a copy. -/
def joined (cells : ι → Cell ι) (heap : List (Copied ι)) : ι ⊕ Nat → Copied ι
  | .inl ref => (cells ref).map Sum.inl
  | .inr index => heap[index]?.getD .classed

variable {cells : ι → Cell ι} {heap : List (Copied ι)} {low : Nat}

theorem Built.unfolds {tree : Value} {item : Item (ι ⊕ Nat)} (built : Built heap low tree item) :
    Unfolds (joined cells heap) tree item := by
  cases built with
  | primitive value => exact .primitive value
  | array index items parts late cell below =>
    apply Unfolds.array _ items parts
    · rw [joined, cell]
      rfl
    · apply forall₂_mono below
      intro part member item holds
      have smaller := sizeOf_lt_array member
      exact Built.unfolds holds
  | plain index members parts late cell below =>
    apply Unfolds.plain _ members parts
    · rw [joined, cell]
      rfl
    · apply forall₂_mono below
      intro part member item holds
      have length : parts.length = (members.map Prod.fst).length := by
        rw [below.length_eq, List.length_map, List.length_map]
      have smaller := sizeOf_lt_object length member
      exact Built.unfolds holds
termination_by sizeOf tree
decreasing_by all_goals exact smaller

theorem exists_left {α β : Type} {stands : α → β → Prop} {parts : List α} {items : List β}
    (below : List.Forall₂ stands parts items) {item : β} (member : item ∈ items) :
    ∃ part, stands part item := by
  induction below with
  | nil => cases member
  | cons holds _ ih =>
    cases member with
    | head => exact ⟨_, holds⟩
    | tail _ later => exact ih later

/-- What the copy holds was made for it. -/
theorem Built.holds {tree : Value} {ref part : ι ⊕ Nat} (built : Built heap low tree (.object ref))
    (held : Holds (joined cells heap) ref part) :
    ∃ below, Built heap low below (.object part) := by
  cases built with
  | array index items parts late cell below =>
    rw [Holds, joined, cell] at held
    obtain ⟨item, listed, same⟩ := List.mem_map.mp held
    obtain rfl := Option.some.inj same
    exact exists_left below listed
  | plain index members parts late cell below =>
    rw [Holds, joined, cell] at held
    obtain ⟨entry, listed, same⟩ := List.mem_map.mp held
    apply exists_left below
    rw [← Option.some.inj same]
    exact List.mem_map_of_mem listed

theorem Built.contains {tree : Value} {item : Item (ι ⊕ Nat)} {part : ι ⊕ Nat}
    (built : Built heap low tree item) (inside : Contains (joined cells heap) item part) :
    ∃ index, part = .inr index := by
  obtain ⟨ref, rfl, reached⟩ := inside
  have below : ∃ below, Built heap low below (.object part) := by
    induction reached with
    | refl => exact ⟨tree, built⟩
    | tail _ held ih =>
      obtain ⟨_, stands⟩ := ih
      exact stands.holds held
  obtain ⟨_, stands⟩ := below
  cases stands with
  | array index | plain index => exact ⟨index, rfl⟩

theorem contains_input {value : Item ι} {part : ι ⊕ Nat}
    (inside : Contains (joined cells heap) (value.map .inl) part) : ∃ ref, part = .inl ref := by
  obtain ⟨ref, same, reached⟩ := inside
  induction reached with
  | refl =>
    cases value with
    | primitive value => cases same
    | object source =>
      cases same
      exact ⟨source, rfl⟩
  | tail _ held ih =>
    obtain ⟨source, rfl⟩ := ih
    rw [Holds, joined] at held
    cases cell : cells source with
    | classed =>
      rw [cell] at held
      cases held
    | array items =>
      rw [cell] at held
      obtain ⟨item, _, same⟩ := List.mem_map.mp held
      rcases item with _ | ⟨value | source⟩ <;> cases same
      exact ⟨source, rfl⟩
    | plain members =>
      rw [cell] at held
      simp only [Cell.map, Cell.slots, List.map_map] at held
      obtain ⟨⟨name, value | source⟩, _, same⟩ := List.mem_map.mp held <;> cases same
      exact ⟨source, rfl⟩

end Sharing

section Contract

variable {ι : Type} [DecidableEq ι] {cells : ι → Cell ι}

/-- Both loops end on every graph, cyclic or not, and accept exactly what unfolds to JSON within the
bounds. The copy of what they accept unfolds to the same tree and has its containers for itself. -/
theorem Graph.cloneJsonCompatible_exact (value : Item ι) (orient : Option ResolvedOrient)
    (path : String) (maxNodes : Option Nat) :
    let clone := Graph.cloneJsonCompatible cells value orient path maxNodes
    let assert := Graph.assertJsonCompatible cells value orient path maxNodes
    (∃ outcome, Machine.Returns clone outcome) ∧
      (∃ outcome, Machine.Returns assert outcome) ∧
      ((∃ copied, Machine.Returns clone (.ok copied)) ↔ Machine.Returns assert (.ok ())) ∧
      (Machine.Returns assert (.ok ()) ↔ IsJsonGraph cells maxNodes value) ∧
      ∀ copy heap, Machine.Returns clone (.ok (copy, heap)) →
        (∃ tree, Unfolds cells tree value ∧ Unfolds (joined cells heap) tree copy) ∧
          ∀ part, Contains (joined cells heap) copy part →
            ¬Contains (joined cells heap) (value.map .inl) part := by
  intro clone assert
  have alike : assert = fun fuel => (clone fuel).map (Except.map fun _ => ()) :=
    funext (assertJsonCompatible_eq value orient path maxNodes)
  have follows : CloneFollows clone
      (walk cells { orient, maxNodes } (maxDepth + 1) [] path maxNodes value) :=
    cloneJsonCompatible_follows value orient path maxNodes
  have accepts : (∃ walked, walk cells { orient, maxNodes } (maxDepth + 1) [] path maxNodes value =
      .ok walked) ↔ IsJsonGraph cells maxNodes value := walk_ok_iff
  rw [alike]
  cases walked : walk cells { orient, maxNodes } (maxDepth + 1) [] path maxNodes value with
  | error refusal =>
    rw [walked] at follows accepts
    have returned : Machine.Returns clone (.error refusal) := follows
    have validated := Machine.returns_map returned (Except.map fun _ => ())
    have refused : ¬IsJsonGraph cells maxNodes value := by
      rw [← accepts]
      rintro ⟨_, impossible⟩
      cases impossible
    have uncloned (copied) (other : Machine.Returns clone (.ok copied)) : False := by
      cases Machine.returns_unique returned other
    have invalid (other : Machine.Returns (fun fuel => (clone fuel).map (Except.map fun _ => ()))
        (.ok ())) : False := by
      cases Machine.returns_unique validated other
    refine ⟨⟨_, returned⟩, ⟨_, validated⟩, ⟨?_, ?_⟩, ⟨?_, ?_⟩, ?_⟩
    · exact fun ⟨copied, other⟩ => (uncloned copied other).elim
    · exact fun other => (invalid other).elim
    · exact fun other => (invalid other).elim
    · exact fun accepted => (refused accepted).elim
    · exact fun copy heap other => (uncloned (copy, heap) other).elim
  | ok result =>
    rw [walked] at follows accepts
    obtain ⟨tree, left⟩ := result
    obtain ⟨copy, heap, returned, built⟩ := follows
    have validated := Machine.returns_map returned (Except.map fun _ => ())
    have accepted : IsJsonGraph cells maxNodes value := accepts.mp ⟨_, rfl⟩
    have unfolds := (walk_eq_ok (Nat.le_refl _) walked).1.2
    refine ⟨⟨_, returned⟩, ⟨_, validated⟩, ⟨?_, ?_⟩, ⟨?_, ?_⟩, ?_⟩
    · exact fun _ => validated
    · exact fun _ => ⟨_, returned⟩
    · exact fun _ => accepted
    · exact fun _ => validated
    · intro copy' heap' returned'
      cases Machine.returns_unique returned returned'
      refine ⟨⟨tree, unfolds, built.unfolds⟩, fun part copied shared => ?_⟩
      obtain ⟨index, rfl⟩ := built.contains copied
      obtain ⟨ref, impossible⟩ := contains_input shared
      cases impossible

end Contract

end WebTsToolkit.JsonFrame
