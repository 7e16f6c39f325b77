import WebTsToolkit.JsonFrame.JsonGraph
import WebTsToolkit.Library.Outcome

set_option autoImplicit false

namespace WebTsToolkit.JsonFrame

open Js Library

section Walk

variable {ι : Type} [DecidableEq ι] (cells : ι → Cell ι) (traversal : Traversal)

/-- The parts of a container from left to right. -/
def walkChildren (visit : String → Option Nat → Item ι → Except JsonFrameError (Value × Option Nat)) :
    Option Nat → List (Child ι) → Except JsonFrameError (List Value × Option Nat)
  | remaining, [] => .ok ([], remaining)
  | remaining, child :: rest =>
    match child.item with
    | none => .error (traversal.refusal "Sparse arrays are not valid JSON input." child.path)
    | some item => do
      let (part, remaining) ← visit child.path remaining item
      let (parts, remaining) ← walkChildren visit remaining rest
      return (part :: parts, remaining)

/-- The tree of a container with these parts. -/
def Cell.tree (parts : List Value) : Cell ι → Value
  | .array _ => .array parts
  | .plain members => .object ((members.map Prod.fst).zip parts)
  | .classed => .undefined

/-- A value that passes its checks, entered if it is a container. -/
def walkItem (enter : ι → Option Nat → Except JsonFrameError (Value × Option Nat)) (depth : Nat)
    (ancestors : List ι) (path : String) (remaining : Option Nat) (source : Item ι) :
    Except JsonFrameError (Value × Option Nat) := do
  let (visited, remaining) ← inspect cells traversal path depth ancestors remaining source
  match visited with
  | .scalar value => return (value.value, remaining)
  | .container ref => enter ref remaining

/-- The recursive specification, for containers that nest no deeper than so many levels: the tree
that the value unfolds to, and the nodes that remain. -/
def walk : Nat → List ι → String → Option Nat → Item ι →
    Except JsonFrameError (Value × Option Nat)
  | 0, ancestors, path, remaining, source =>
    walkItem cells traversal (fun _ remaining => .ok (.undefined, remaining)) (maxDepth + 1)
      ancestors path remaining source
  | levels + 1, ancestors, path, remaining, source =>
    let enter (ref : ι) (remaining : Option Nat) := do
      let (parts, remaining) ← walkChildren traversal (walk levels (ref :: ancestors)) remaining
        ((cells ref).children path)
      return ((cells ref).tree parts, remaining)
    walkItem cells traversal enter (maxDepth - levels) ancestors path remaining source

end Walk

section Checks

variable {ι : Type} [DecidableEq ι] {cells : ι → Cell ι} {traversal : Traversal} {path : String}
  {depth : Nat} {ancestors : List ι} {remaining left : Option Nat} {source : Item ι}

theorem charge_eq_ok :
    traversal.charge path remaining = .ok left ↔ remaining = left.map (· + 1) := by
  cases remaining with
  | none => cases left <;> simp [Traversal.charge]
  | some count =>
    cases count with
    | zero => cases left <;> simp [Traversal.charge]
    | succ count => cases left <;> simp [Traversal.charge, eq_comm]

theorem cloneScalar_eq_ok {value : Primitive} :
    cloneScalar traversal path value = .ok () ↔ isJsonAt depth value.value = true := by
  cases value with
  | number text =>
    simp only [cloneScalar, Primitive.value, isJsonAt]
    split <;> simp_all
  | _ => simp [cloneScalar, Primitive.value, isJsonAt]

theorem inspect_scalar {value : Primitive}
    (inspected : inspect cells traversal path depth ancestors remaining source =
      .ok (.scalar value, left)) :
    source = .primitive value ∧ isJsonAt depth value.value = true ∧
      remaining = left.map (· + 1) := by
  obtain ⟨between, charged, inspected⟩ := bind_eq_ok inspected
  cases source with
  | primitive other =>
    obtain ⟨_, checked, same⟩ := bind_eq_ok inspected
    cases same
    exact ⟨rfl, cloneScalar_eq_ok.mp checked, charge_eq_ok.mp charged⟩
  | object ref =>
    simp only at inspected
    split at inspected
    · cases inspected
    · split at inspected
      · split at inspected <;> cases inspected
      · split at inspected <;> cases inspected
      · cases inspected

theorem inspect_container {ref : ι}
    (inspected : inspect cells traversal path depth ancestors remaining source =
      .ok (.container ref, left)) :
    source = .object ref ∧ depth ≤ maxDepth ∧ cells ref ≠ .classed ∧
      remaining = left.map (· + 1) := by
  obtain ⟨between, charged, inspected⟩ := bind_eq_ok inspected
  cases source with
  | primitive other =>
    obtain ⟨_, checked, same⟩ := bind_eq_ok inspected
    cases same
  | object other =>
    simp only at inspected
    split at inspected
    · cases inspected
    · next inside =>
      have bound : depth ≤ maxDepth := by omega
      split at inspected
      · next cell =>
        split at inspected
        · cases inspected
        · cases inspected
          exact ⟨rfl, bound, by simp [cell], charge_eq_ok.mp charged⟩
      · next cell =>
        split at inspected
        · cases inspected
        · cases inspected
          exact ⟨rfl, bound, by simp [cell], charge_eq_ok.mp charged⟩
      · cases inspected

theorem inspect_object {ref : ι} (inside : depth ≤ maxDepth) (fresh : ref ∉ ancestors)
    (known : cells ref ≠ .classed) (afford : remaining = left.map (· + 1)) :
    inspect cells traversal path depth ancestors remaining (.object ref) =
      .ok (.container ref, left) := by
  have bound : ¬maxDepth < depth := by omega
  simp only [inspect, charge_eq_ok.mpr afford]
  show (if maxDepth < depth then _ else _) = _
  rw [if_neg bound]
  cases cell : cells ref with
  | classed => exact absurd cell known
  | array items | plain members => simp only [if_neg fresh]; rfl

end Checks

section Trees

variable {ι : Type} {cells : ι → Cell ι} {traversal : Traversal}

theorem children_items (path : String) (cell : Cell ι) :
    (cell.children path).map Child.item = cell.slots := by
  cases cell with
  | array items =>
    apply List.ext_getElem
    · simp [Cell.children, Cell.slots]
    · simp [Cell.children, Cell.slots]
  | plain members => simp [Cell.children, Cell.slots, Function.comp_def]
  | classed => rfl

theorem spent_append (left : Option Nat) (first second : Nat) :
    (left.map (· + second)).map (· + first) = left.map (· + (first + second)) := by
  cases left with
  | none => rfl
  | some count =>
    show some (count + second + first) = some (count + (first + second))
    congr 1
    omega

theorem walkChildren_cons
    (visit : String → Option Nat → Item ι → Except JsonFrameError (Value × Option Nat))
    (remaining : Option Nat) (child : Child ι) (rest : List (Child ι)) :
    walkChildren traversal visit remaining (child :: rest) =
      match child.item with
      | none => .error (traversal.refusal "Sparse arrays are not valid JSON input." child.path)
      | some item =>
        match visit child.path remaining item with
        | .error refusal => .error refusal
        | .ok (part, left) => (walkChildren traversal visit left rest).map fun walked =>
          (part :: walked.1, walked.2) := by
  rw [walkChildren]
  rcases child.item with _ | item
  · rfl
  · simp only
    rcases visit child.path remaining item with refusal | ⟨part, left⟩
    · rfl
    · show (walkChildren traversal visit left rest >>= _) =
        (walkChildren traversal visit left rest).map _
      rcases walkChildren traversal visit left rest with refusal | walked <;> rfl

variable {parts : List Value}

/-- What each part needs is needed together, and each part has its tree. -/
theorem walkChildren_eq_ok {stands : Value → Item ι → Prop}
    {visit : String → Option Nat → Item ι → Except JsonFrameError (Value × Option Nat)}
    (each : ∀ path remaining item part left, visit path remaining item = .ok (part, left) →
      stands part item ∧ remaining = left.map (· + nodeCount part)) {children : List (Child ι)}
    {remaining left : Option Nat}
    (walked : walkChildren traversal visit remaining children = .ok (parts, left)) :
    ∃ items, children.map Child.item = items.map some ∧ List.Forall₂ stands parts items ∧
      remaining = left.map (· + totalCount parts) := by
  induction children generalizing remaining parts with
  | nil =>
    cases walked
    exact ⟨[], rfl, .nil, by cases left <;> rfl⟩
  | cons child rest ih =>
    rw [walkChildren] at walked
    cases here : child.item with
    | none => simp [here] at walked
    | some item =>
      simp only [here] at walked
      obtain ⟨⟨part, between⟩, visited, walked⟩ := bind_eq_ok walked
      obtain ⟨⟨others, final⟩, later, same⟩ := bind_eq_ok walked
      cases same
      obtain ⟨holds, rfl⟩ := each _ _ _ _ _ visited
      obtain ⟨items, listed, below, spent⟩ := ih later
      refine ⟨item :: items, by simp [here, listed], .cons holds below, ?_⟩
      rw [totalCount_cons, ← spent_append, ← spent]

/-- Parts that each have their tree are walked, if the nodes suffice. -/
theorem walkChildren_complete {stands : Value → Item ι → Prop}
    {visit : String → Option Nat → Item ι → Except JsonFrameError (Value × Option Nat)}
    {children : List (Child ι)} {items : List (Item ι)} {left : Option Nat}
    (listed : children.map Child.item = items.map some) (below : List.Forall₂ stands parts items)
    (each : ∀ item ∈ items, ∀ part, stands part item → ∀ path left,
      visit path (left.map (· + nodeCount part)) item = .ok (part, left)) :
    walkChildren traversal visit (left.map (· + totalCount parts)) children =
      .ok (parts, left) := by
  induction below generalizing children with
  | nil =>
    obtain rfl := List.map_eq_nil_iff.mp listed
    cases left <;> rfl
  | @cons part item parts items holds below ih =>
    cases children with
    | nil => cases listed
    | cons child rest =>
      rw [List.map_cons, List.map_cons, List.cons.injEq] at listed
      have here := each item List.mem_cons_self part holds child.path
        (left.map (· + totalCount parts))
      have later := ih listed.2 fun other member => each other (List.mem_cons_of_mem _ member)
      rw [walkChildren, listed.1, totalCount_cons, ← spent_append]
      simp only [here]
      show (walkChildren traversal visit (left.map (· + totalCount parts)) rest >>= _) = _
      rw [later]
      rfl

/-- A tree of parts that stand for what a container holds. -/
theorem unfolds_tree {ref : ι} {items : List (Item ι)}
    (listed : (cells ref).slots = items.map some) (known : cells ref ≠ .classed)
    (below : List.Forall₂ (Unfolds cells) parts items) :
    Unfolds cells ((cells ref).tree parts) (.object ref) := by
  cases cell : cells ref with
  | array slots =>
    rw [cell] at listed
    rw [Cell.slots] at listed
    exact .array ref items parts (by rw [cell, listed]) below
  | plain members =>
    rw [cell] at listed
    have same : members.map Prod.snd = items := by
      apply List.map_inj_right (f := some) (fun _ _ => Option.some.inj) |>.mp
      rw [← listed, Cell.slots, List.map_map]
      rfl
    exact .plain ref members parts cell (same ▸ below)
  | classed => exact absurd cell known

theorem forall₂_zip_snd {names : List String} (length : parts.length = names.length) :
    (names.zip parts).map Prod.snd = parts :=
  List.map_snd_zip (by omega)

theorem nodeCount_tree {cell : Cell ι} (known : cell ≠ .classed)
    (length : parts.length = cell.slots.length) :
    nodeCount (cell.tree parts) = 1 + totalCount parts := by
  cases cell with
  | array items => rw [Cell.tree, nodeCount, nodeCountItems_eq]
  | plain members =>
    have same : parts.length = (members.map Prod.fst).length := by
      simpa [Cell.slots] using length
    rw [Cell.tree, nodeCount, nodeCountEntries_eq, forall₂_zip_snd same]
  | classed => exact absurd rfl known

theorem isJsonAt_tree {cell : Cell ι} {depth : Nat} (known : cell ≠ .classed)
    (length : parts.length = cell.slots.length) :
    isJsonAt depth (cell.tree parts) = true ↔
      depth ≤ maxDepth ∧ ∀ part ∈ parts, isJsonAt (depth + 1) part = true := by
  cases cell with
  | array items => exact isJsonAt_array depth parts
  | plain members =>
    have same : parts.length = (members.map Prod.fst).length := by
      simpa [Cell.slots] using length
    rw [Cell.tree, isJsonAt_object]
    rw [← List.forall_mem_map (f := Prod.snd) (P := fun part => isJsonAt (depth + 1) part = true)]
    rw [forall₂_zip_snd same]
  | classed => exact absurd rfl known

theorem nodeCount_scalar (value : Primitive) : nodeCount value.value = 1 := by
  cases value <;> rfl

theorem slots_of_unfolds {tree : Value} {ref : ι} (unfolds : Unfolds cells tree (.object ref)) :
    ∃ items parts, (cells ref).slots = items.map some ∧ cells ref ≠ .classed ∧
      List.Forall₂ (Unfolds cells) parts items ∧ tree = (cells ref).tree parts := by
  cases unfolds with
  | array _ items parts cell below =>
    refine ⟨items, parts, ?_, ?_, below, ?_⟩ <;> simp [cell, Cell.slots, Cell.tree]
  | plain _ members parts cell below =>
    refine ⟨members.map Prod.snd, parts, ?_, ?_, below, ?_⟩ <;>
      simp [cell, Cell.slots, Cell.tree, Function.comp_def]

end Trees

section Specification

variable {ι : Type} [DecidableEq ι] {cells : ι → Cell ι} {traversal : Traversal}
  {ancestors : List ι} {source : Item ι} {tree : Value}

theorem walkItem_eq_ok {enter : ι → Option Nat → Except JsonFrameError (Value × Option Nat)}
    {depth : Nat} {path : String} {remaining left : Option Nat}
    (walked : walkItem cells traversal enter depth ancestors path remaining source =
      .ok (tree, left)) :
    (∃ value, source = .primitive value ∧ tree = value.value ∧ isJsonAt depth tree = true ∧
        remaining = left.map (· + 1)) ∨
      ∃ ref between, source = .object ref ∧ depth ≤ maxDepth ∧ cells ref ≠ .classed ∧
        remaining = between.map (· + 1) ∧ enter ref between = .ok (tree, left) := by
  obtain ⟨⟨visited, between⟩, inspected, walked⟩ := bind_eq_ok walked
  cases visited with
  | scalar value =>
    cases walked
    obtain ⟨same, fits, spent⟩ := inspect_scalar inspected
    exact Or.inl ⟨value, same, rfl, fits, spent⟩
  | container ref =>
    obtain ⟨same, inside, known, spent⟩ := inspect_container inspected
    exact Or.inr ⟨ref, between, same, inside, known, spent, walked⟩

/-- What the walk accepts unfolds to JSON that nests no deeper than allowed. -/
theorem walk_eq_ok {levels : Nat} {path : String} {remaining left : Option Nat}
    (within : levels ≤ maxDepth + 1)
    (walked : walk cells traversal levels ancestors path remaining source = .ok (tree, left)) :
    (isJsonAt (maxDepth + 1 - levels) tree = true ∧ Unfolds cells tree source) ∧
      remaining = left.map (· + nodeCount tree) := by
  induction levels generalizing ancestors path remaining left source tree with
  | zero =>
    rcases walkItem_eq_ok walked with ⟨value, rfl, rfl, fits, spent⟩ | ⟨ref, _, _, inside, _⟩
    · rw [nodeCount_scalar]
      exact ⟨⟨fits, .primitive value⟩, spent⟩
    · omega
  | succ levels ih =>
    have depth : maxDepth + 1 - (levels + 1) = maxDepth - levels := by omega
    rw [walk] at walked
    rcases walkItem_eq_ok walked with ⟨value, rfl, rfl, fits, spent⟩ |
      ⟨ref, between, rfl, inside, known, spent, entered⟩
    · rw [nodeCount_scalar, depth]
      exact ⟨⟨fits, .primitive value⟩, spent⟩
    · obtain ⟨⟨parts, final⟩, visited, same⟩ := bind_eq_ok entered
      cases same
      have each (path remaining item part left) (visited : walk cells traversal levels
          (ref :: ancestors) path remaining item = .ok (part, left)) := ih (by omega) visited
      obtain ⟨items, listed, below, spent'⟩ := walkChildren_eq_ok each visited
      rw [children_items] at listed
      obtain ⟨fits, unfolds⟩ := (List.forall₂_and_left _ _).mp below
      have length : parts.length = (cells ref).slots.length := by
        rw [listed, List.length_map, unfolds.length_eq]
      have deeper : maxDepth - levels + 1 = maxDepth + 1 - levels := by omega
      refine ⟨⟨?_, unfolds_tree listed known unfolds⟩, ?_⟩
      · rw [depth, isJsonAt_tree known length, deeper]
        exact ⟨inside, fits⟩
      · rw [nodeCount_tree known length, spent, spent', spent_append]

theorem walkItem_scalar {enter : ι → Option Nat → Except JsonFrameError (Value × Option Nat)}
    {depth : Nat} {left : Option Nat} {value : Primitive}
    (fits : isJsonAt depth value.value = true) (path : String) :
    walkItem cells traversal enter depth ancestors path (left.map (· + 1)) (.primitive value) =
      .ok (value.value, left) := by
  have inspected : inspect cells traversal path depth ancestors (left.map (· + 1))
      (.primitive value) = .ok (.scalar value, left) := by
    rw [inspect, charge_eq_ok.mpr rfl]
    show (cloneScalar traversal path value >>= _) = _
    rw [cloneScalar_eq_ok.mpr fits]
    rfl
  rw [walkItem, inspected]
  rfl

/-- A value on no cycle of its ancestors is walked, if it unfolds to JSON that nests no deeper than
allowed and the nodes suffice. -/
theorem walk_complete {levels : Nat} {left : Option Nat} (within : levels ≤ maxDepth + 1)
    (unfolds : Unfolds cells tree source) (fits : isJsonAt (maxDepth + 1 - levels) tree = true)
    (above : ∀ ref, source = .object ref → ∀ ancestor ∈ ancestors,
      Relation.TransGen (Holds cells) ancestor ref) (path : String) :
    walk cells traversal levels ancestors path (left.map (· + nodeCount tree)) source =
      .ok (tree, left) := by
  induction levels generalizing ancestors left source tree path with
  | zero =>
    cases source with
    | primitive value =>
      cases unfolds
      rw [nodeCount_scalar, walk]
      exact walkItem_scalar fits path
    | object ref =>
      obtain ⟨items, parts, listed, known, below, rfl⟩ := slots_of_unfolds unfolds
      have length : parts.length = (cells ref).slots.length := by
        rw [listed, List.length_map, below.length_eq]
      have inside := ((isJsonAt_tree known length).mp fits).1
      omega
  | succ levels ih =>
    have depth : maxDepth + 1 - (levels + 1) = maxDepth - levels := by omega
    rw [depth] at fits
    cases source with
    | primitive value =>
      cases unfolds
      rw [nodeCount_scalar, walk]
      exact walkItem_scalar fits path
    | object ref =>
      have acyclic (cycle : Relation.TransGen (Holds cells) ref ref) : False :=
        not_unfolds_of_cycle cycle tree unfolds
      have fresh : ref ∉ ancestors := fun member => acyclic (above ref rfl ref member)
      obtain ⟨items, parts, listed, known, below, rfl⟩ := slots_of_unfolds unfolds
      have length : parts.length = (cells ref).slots.length := by
        rw [listed, List.length_map, below.length_eq]
      obtain ⟨inside, fits⟩ := (isJsonAt_tree known length).mp fits
      have deeper : maxDepth - levels + 1 = maxDepth + 1 - levels := by omega
      rw [deeper] at fits
      have inspected : inspect cells traversal path (maxDepth - levels) ancestors
          (left.map (· + nodeCount ((cells ref).tree parts))) (.object ref) =
          .ok (.container ref, left.map (· + totalCount parts)) := by
        apply inspect_object inside fresh known
        rw [nodeCount_tree known length, spent_append]
      have below' := (List.forall₂_and_left _ _).mpr ⟨fits, below⟩
      have walked : walkChildren traversal (walk cells traversal levels (ref :: ancestors))
          (left.map (· + totalCount parts)) ((cells ref).children path) = .ok (parts, left) := by
        apply walkChildren_complete ((children_items path (cells ref)).trans listed) below'
        intro item member part stands path left
        apply ih (by omega) stands.2 stands.1
        intro other same ancestor higher
        have held : Holds cells ref other := by
          rw [Holds, listed, ← same]
          exact List.mem_map_of_mem member
        cases higher with
        | head => exact .single held
        | tail _ higher => exact (above ref rfl ancestor higher).tail held
      rw [walk]
      simp only [walkItem, inspected]
      show (walkChildren traversal _ _ _ >>= _) = _
      rw [walked]
      rfl

end Specification

section Accepted

variable {ι : Type} [DecidableEq ι] (cells : ι → Cell ι)

/-- The value unfolds to a tree of JSON that is no deeper than allowed and has no more values than
it may have. -/
def IsJsonGraph (maxNodes : Option Nat) (value : Item ι) : Prop :=
  ∃ tree, Unfolds cells tree value ∧ isJsonAt 0 tree = true ∧
    ∀ limit, maxNodes = some limit → nodeCount tree ≤ limit

variable {cells}

theorem exists_left_of_spent {maxNodes : Option Nat} {spent : Nat} :
    (∃ left : Option Nat, maxNodes = left.map (· + spent)) ↔
      ∀ limit, maxNodes = some limit → spent ≤ limit := by
  constructor
  · rintro ⟨left, rfl⟩ limit same
    cases left with
    | none => cases same
    | some left =>
      cases same
      exact Nat.le_add_left spent left
  · intro within
    cases maxNodes with
    | none => exact ⟨none, rfl⟩
    | some limit =>
      refine ⟨some (limit - spent), ?_⟩
      have bound := within limit rfl
      show some limit = some (limit - spent + spent)
      congr 1
      omega

theorem walk_ok_iff {traversal : Traversal} {maxNodes : Option Nat} {path : String}
    {value : Item ι} :
    (∃ walked, walk cells traversal (maxDepth + 1) [] path maxNodes value = .ok walked) ↔
      IsJsonGraph cells maxNodes value := by
  constructor
  · rintro ⟨⟨tree, left⟩, walked⟩
    obtain ⟨⟨fits, unfolds⟩, spent⟩ := walk_eq_ok (Nat.le_refl _) walked
    rw [Nat.sub_self] at fits
    exact ⟨tree, unfolds, fits, exists_left_of_spent.mp ⟨left, spent⟩⟩
  · rintro ⟨tree, unfolds, fits, within⟩
    obtain ⟨left, rfl⟩ := exists_left_of_spent.mpr within
    have fits' : isJsonAt (maxDepth + 1 - (maxDepth + 1)) tree = true := by
      rw [Nat.sub_self]
      exact fits
    exact ⟨_, walk_complete (Nat.le_refl _) unfolds fits'
      (fun _ _ _ member => absurd member List.not_mem_nil) path⟩

end Accepted

end WebTsToolkit.JsonFrame
