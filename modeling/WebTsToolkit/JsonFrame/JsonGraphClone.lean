import WebTsToolkit.JsonFrame.JsonGraphWalk

set_option autoImplicit false

namespace WebTsToolkit.JsonFrame

open Js Library

/-- A tree in the copy, whose containers were made from some number on. -/
inductive Built {ι : Type} (heap : List (Copied ι)) (low : Nat) : Value → Item (ι ⊕ Nat) → Prop where
  | primitive (value : Primitive) : Built heap low value.value (.primitive value)
  | array (index : Nat) (items : List (Item (ι ⊕ Nat))) (parts : List Value) (late : low ≤ index)
      (cell : heap[index]? = some (.array (items.map some)))
      (below : List.Forall₂ (Built heap low) parts items) :
      Built heap low (.array parts) (.object (.inr index))
  | plain (index : Nat) (members : List (String × Item (ι ⊕ Nat))) (parts : List Value)
      (late : low ≤ index) (cell : heap[index]? = some (.plain members))
      (below : List.Forall₂ (Built heap low) parts (members.map Prod.snd)) :
      Built heap low (.object ((members.map Prod.fst).zip parts)) (.object (.inr index))

section Copies

variable {ι : Type} {heap heap' : List (Copied ι)} {low low' : Nat}

theorem forall₂_mono {α β : Type} {first second : α → β → Prop} {parts : List α} {items : List β}
    (below : List.Forall₂ first parts items)
    (each : ∀ part ∈ parts, ∀ item, first part item → second part item) :
    List.Forall₂ second parts items := by
  induction below with
  | nil => exact .nil
  | cons holds _ ih =>
    exact .cons (each _ List.mem_cons_self _ holds)
      (ih fun part member => each part (List.mem_cons_of_mem _ member))

variable {parts : List Value} {target : Nat} {values : List (Item (ι ⊕ Nat))} {cell : Cell ι}

theorem sizeOf_lt_array {part : Value} (member : part ∈ parts) :
    sizeOf part < sizeOf (Value.array parts) := by
  have bound := List.sizeOf_lt_of_mem member
  have whole : sizeOf (Value.array parts) = 1 + sizeOf parts := Value.array.sizeOf_spec parts
  omega

theorem sizeOf_lt_object {names : List String} {part : Value}
    (length : parts.length = names.length) (member : part ∈ parts) :
    sizeOf part < sizeOf (Value.object (names.zip parts)) := by
  rw [← forall₂_zip_snd length] at member
  obtain ⟨⟨key, value⟩, named, rfl⟩ := List.mem_map.mp member
  have bound := List.sizeOf_lt_of_mem named
  have whole : sizeOf (Value.object (names.zip parts)) = 1 + sizeOf (names.zip parts) :=
    Value.object.sizeOf_spec _
  have pair : sizeOf (key, value) = 1 + sizeOf key + sizeOf value := rfl
  show sizeOf value < _
  omega

/-- Containers of the tree are not written any more. -/
theorem Built.kept {tree : Value} {item : Item (ι ⊕ Nat)} (built : Built heap low tree item)
    (lower : low' ≤ low)
    (same : ∀ index, low ≤ index → index < heap.length → heap'[index]? = heap[index]?) :
    Built heap' low' tree item := by
  cases built with
  | primitive value => exact .primitive value
  | array index items parts late cell below =>
    have inside := (List.getElem?_eq_some_iff.mp cell).1
    refine .array index items parts (by omega) (by rw [same index late inside, cell]) ?_
    apply forall₂_mono below
    intro part member item holds
    have smaller := sizeOf_lt_array member
    exact Built.kept holds lower same
  | plain index members parts late cell below =>
    have inside := (List.getElem?_eq_some_iff.mp cell).1
    refine .plain index members parts (by omega) (by rw [same index late inside, cell]) ?_
    apply forall₂_mono below
    intro part member item holds
    have length : parts.length = (members.map Prod.fst).length := by
      rw [below.length_eq, List.length_map, List.length_map]
    have smaller := sizeOf_lt_object length member
    exact Built.kept holds lower same
termination_by sizeOf tree
decreasing_by all_goals exact smaller

/-- The heap after some turns that wrote to one older container only. -/
structure Extends (heap heap' : List (Copied ι)) (target : Nat) : Prop where
  longer : heap.length ≤ heap'.length
  same : ∀ index < heap.length, index ≠ target → heap'[index]? = heap[index]?

theorem Extends.trans {heap₁ heap₂ heap₃ : List (Copied ι)} (first : Extends heap₁ heap₂ target)
    (second : Extends heap₂ heap₃ target) :
    Extends heap₁ heap₃ target where
  longer := Nat.le_trans first.longer second.longer
  same index inside other := by
    have longer := first.longer
    rw [second.same index (by omega) other, first.same index inside other]

/-- All parts of a container, put into its copy. -/
def Copied.putAll (target : Copied ι) (children : List (Child ι))
    (values : List (Item (ι ⊕ Nat))) : Copied ι :=
  (children.zip values).foldl (fun target entry => Copied.put target entry.1.key entry.2) target

theorem putAll_array (items : List (Option (Item (ι ⊕ Nat)))) {children : List (Child ι)}
    (length : children.length = values.length) :
    Copied.putAll (.array items) children values = .array (items ++ values.map some) := by
  induction children generalizing items values with
  | nil =>
    obtain rfl := List.length_eq_zero_iff.mp length.symm
    simp [Copied.putAll]
  | cons child rest ih =>
    cases values with
    | nil => cases length
    | cons value values =>
      have later := ih (items ++ [some value]) (Nat.succ.inj length)
      simpa [Copied.putAll, Copied.put] using later

theorem putAll_plain (members : List (String × Item (ι ⊕ Nat))) {children : List (Child ι)}
    (length : children.length = values.length) :
    Copied.putAll (.plain members) children values =
      .plain (members ++ (children.map Child.key).zip values) := by
  induction children generalizing members values with
  | nil =>
    obtain rfl := List.length_eq_zero_iff.mp length.symm
    simp [Copied.putAll]
  | cons child rest ih =>
    cases values with
    | nil => cases length
    | cons value values =>
      have later := ih (members ++ [(child.key, value)]) (Nat.succ.inj length)
      simpa [Copied.putAll, Copied.put] using later

/-- A container is built when all its parts are put into its copy. -/
theorem built_container (known : cell ≠ .classed) (path : String) {index : Nat}
    (length : (cell.children path).length = values.length) (late : low ≤ index)
    (full : heap[index]? = some (Copied.putAll cell.empty (cell.children path) values))
    (below : List.Forall₂ (Built heap low) parts values) :
    Built heap low (cell.tree parts) (.object (.inr index)) := by
  cases cell with
  | array items =>
    rw [Cell.empty, putAll_array _ length, List.nil_append] at full
    exact .array index values parts late full below
  | plain members =>
    rw [Cell.empty, putAll_plain _ length, List.nil_append] at full
    have keys : ((Cell.plain members).children path).map Child.key = members.map Prod.fst := by
      simp [Cell.children, Function.comp_def]
    have same : (((Cell.plain members).children path).map Child.key).length = values.length := by
      rw [List.length_map, length]
    have built := Built.plain index _ parts late full
      (by rw [List.map_snd_zip (by omega)]; exact below)
    rw [List.map_fst_zip (by omega), keys] at built
    exact built
  | classed => exact absurd rfl known

theorem getElem?_put {heap : List (Copied ι)} (target index : Nat)
    (change : Copied ι → Copied ι) (other : index ≠ target) :
    (heap.modify target change)[index]? = heap[index]? := by
  simp [other.symm]

theorem getElem?_put_self (heap : List (Copied ι)) (target : Nat) (change : Copied ι → Copied ι) :
    (heap.modify target change)[target]? = heap[target]?.map change := by
  simp

/-- The heap with a new container, which is put into an older one. -/
def entered (heap : List (Copied ι)) (target : Nat) (key : String) (cell : Cell ι) :
    List (Copied ι) :=
  (heap ++ [cell.empty]).modify target fun older =>
    Copied.put older key (.object (.inr heap.length))

theorem length_entered (heap : List (Copied ι)) (target : Nat) (key : String) (cell : Cell ι) :
    (entered heap target key cell).length = heap.length + 1 := by
  simp [entered]

theorem getElem?_entered_new {heap : List (Copied ι)} (key : String) (cell : Cell ι)
    (older : target < heap.length) :
    (entered heap target key cell)[heap.length]? = some cell.empty := by
  have other : heap.length ≠ target := by omega
  rw [entered, getElem?_put target heap.length _ other]
  simp

theorem extends_entered {heap heap' : List (Copied ι)} {key : String}
    (extended : Extends (entered heap target key cell) heap' heap.length) :
    Extends heap heap' target where
  longer := by
    have longer := extended.longer
    rw [length_entered] at longer
    omega
  same index inside other := by
    have kept := extended.same index (by rw [length_entered]; omega) (by omega)
    rw [kept, entered, getElem?_put target index _ other, List.getElem?_append_left inside]

theorem getElem?_entered_target {heap heap' : List (Copied ι)} {key : String}
    (older : target < heap.length)
    (extended : Extends (entered heap target key cell) heap' heap.length) :
    heap'[target]? =
      heap[target]?.map fun older => Copied.put older key (.object (.inr heap.length)) := by
  have kept := extended.same target (by rw [length_entered]; omega) (by omega)
  rw [kept, entered, getElem?_put_self, List.getElem?_append_left older]

end Copies

section Simulation

variable {ι : Type} [DecidableEq ι] {cells : ι → Cell ι} {traversal : Traversal} {levels : Nat}
  {ancestors : List ι}

theorem walk_inspect (depth : Nat) (levelled : depth + levels = maxDepth + 1) (ancestors : List ι)
    (path : String) (remaining : Option Nat) (source : Item ι) :
    walk cells traversal levels ancestors path remaining source =
      match inspect cells traversal path depth ancestors remaining source with
      | .error refusal => .error refusal
      | .ok (.scalar value, left) => .ok (value.value, left)
      | .ok (.container ref, left) =>
        match levels with
        | 0 => .ok (.undefined, left)
        | less + 1 => (walkChildren traversal (walk cells traversal less (ref :: ancestors)) left
            ((cells ref).children path)).map fun walked => ((cells ref).tree walked.1, walked.2) := by
  cases levels with
  | zero =>
    obtain rfl : depth = maxDepth + 1 := by omega
    rw [walk, walkItem]
    rcases inspect cells traversal path (maxDepth + 1) ancestors remaining source with
      refusal | ⟨_ | _, left⟩ <;> rfl
  | succ less =>
    obtain rfl : depth = maxDepth - less := by omega
    rw [walk, walkItem]
    rcases inspect cells traversal path (maxDepth - less) ancestors remaining source with
      refusal | ⟨value | ref, left⟩
    · rfl
    · rfl
    · show (walkChildren traversal (walk cells traversal less (ref :: ancestors)) left
          ((cells ref).children path) >>= _) =
        (walkChildren traversal (walk cells traversal less (ref :: ancestors)) left
          ((cells ref).children path)).map _
      rcases walkChildren traversal (walk cells traversal less (ref :: ancestors)) left
        ((cells ref).children path) with refusal | walked <;> rfl

/-- What the loop does with a frame, from a child on: it fails as the walk does, or it takes the
frame away and has put the copies of all children that were left. -/
def Simulates (cells : ι → Cell ι) (traversal : Traversal) (state : CloneState ι) (target : Nat)
    (children : List (Child ι)) (stack : List (Frame ι Nat)) (ancestors : List ι) :
    Except JsonFrameError (List Value × Option Nat) → Prop
  | .error refusal =>
    Machine.Returns (fun fuel => (cloning cells traversal).run fuel state) (.error refusal)
  | .ok (parts, left) => ∃ copies heap,
      (cloning cells traversal).Reaches state ⟨stack, ancestors, left, heap⟩ ∧
        Extends state.heap heap target ∧
        heap[target]? = state.heap[target]?.map (fun cell => Copied.putAll cell children copies) ∧
        List.Forall₂ (Built heap state.heap.length) parts copies

/-- The copy of one child is built and put, and then those of the others. -/
theorem Simulates.cons {state middle : CloneState ι} {target : Nat} {child : Child ι}
    {rest : List (Child ι)} {stack : List (Frame ι Nat)} {part : Value} {copy : Item (ι ⊕ Nat)}
    (reaches : (cloning cells traversal).Reaches state middle)
    (extended : Extends state.heap middle.heap target) (written : middle.heap[target]? =
      state.heap[target]?.map fun cell => Copied.put cell child.key copy)
    (built : ∀ heap, Extends middle.heap heap target → Built heap state.heap.length part copy)
    {result : Except JsonFrameError (List Value × Option Nat)}
    (later : Simulates cells traversal middle target rest stack ancestors result) :
    Simulates cells traversal state target (child :: rest) stack ancestors
      (result.map fun walked => (part :: walked.1, walked.2)) := by
  cases result with
  | error refusal => exact reaches.returns later
  | ok walked =>
    obtain ⟨copies, heap, reaches', extended', written', below⟩ := later
    refine ⟨copy :: copies, heap, reaches.trans reaches', extended.trans extended', ?_, ?_⟩
    · rw [written', written, Option.map_map]
      rfl
    · refine .cons (built heap extended') (below.imp fun _ _ holds => ?_)
      exact holds.kept extended.longer fun _ _ _ => rfl

/-- The last part of a container is behind. -/
theorem cloneTurn_last (frame : Frame ι Nat) (stack : List (Frame ι Nat)) (ancestors : List ι)
    (remaining : Option Nat) (heap : List (Copied ι))
    (last : ((cells frame.source).children frame.path).drop frame.index = []) :
    (cloning cells traversal).turn
        ⟨frame :: stack, frame.source :: ancestors, remaining, heap⟩ =
      some (.ok ⟨stack, ancestors, remaining, heap⟩) := by
  have here : ((cells frame.source).children frame.path)[frame.index]? = none := by
    rw [← List.head?_drop, last]
    rfl
  simp only [cloning, cloneTurn, Frame.child, here, Option.map_none, List.erase_cons_head]

theorem cloneTurn_child (frame : Frame ι Nat) (stack : List (Frame ι Nat)) (ancestors : List ι)
    (remaining : Option Nat) (heap : List (Copied ι)) {child : Child ι} {rest : List (Child ι)}
    (next : ((cells frame.source).children frame.path).drop frame.index = child :: rest) :
    (cloning cells traversal).turn ⟨frame :: stack, ancestors, remaining, heap⟩ =
      some (match child.item with
        | none => .error
            (traversal.refusal "Sparse arrays are not valid JSON input." child.path)
        | some item =>
          match inspect cells traversal child.path (frame.depth + 1) ancestors remaining item with
          | .error refusal => .error refusal
          | .ok (.scalar value, left) => .ok ⟨{ frame with index := frame.index + 1 } :: stack,
              ancestors, left, heap.modify frame.target fun target =>
                Copied.put target child.key (.primitive value)⟩
          | .ok (.container ref, left) =>
            .ok ⟨⟨ref, heap.length, child.path, frame.depth + 1, 0⟩ ::
                { frame with index := frame.index + 1 } :: stack, ref :: ancestors, left,
              (heap ++ [(cells ref).empty]).modify frame.target fun target =>
                Copied.put target child.key (.object (.inr heap.length))⟩) := by
  have here : ((cells frame.source).children frame.path)[frame.index]? = some child := by
    rw [← List.head?_drop, next]
    rfl
  simp only [cloning, cloneTurn, Frame.child, here, Option.map_some]
  rcases child.item with _ | item
  · rfl
  · simp only [createFrame]
    rcases inspect cells traversal child.path (frame.depth + 1) ancestors remaining item with
      refusal | ⟨value | ref, left⟩ <;> rfl

theorem length_walked {remaining left : Option Nat} {children : List (Child ι)}
    {parts : List Value} (within : levels ≤ maxDepth + 1)
    (walked : walkChildren traversal (walk cells traversal levels ancestors) remaining children =
      .ok (parts, left)) : parts.length = children.length := by
  have each (path remaining item part left)
      (visited : walk cells traversal levels ancestors path remaining item = .ok (part, left)) :=
    walk_eq_ok within visited
  obtain ⟨items, listed, below, _⟩ := walkChildren_eq_ok each walked
  rw [below.length_eq, ← List.length_map some, ← listed, List.length_map]

/-- A container is built once the walk of its parts is behind. -/
theorem built_walked {levels index : Nat} {ref : ι} {path : String} {remaining left : Option Nat}
    {parts : List Value} {copies : List (Item (ι ⊕ Nat))} {heap heap' : List (Copied ι)}
    (within : levels ≤ maxDepth + 1) (known : cells ref ≠ .classed)
    (walked : walkChildren traversal (walk cells traversal levels ancestors) remaining
      ((cells ref).children path) = .ok (parts, left))
    (made : heap[index]? = some (cells ref).empty) (written : heap'[index]? =
      heap[index]?.map fun cell => Copied.putAll cell ((cells ref).children path) copies)
    (late : index ≤ heap.length) (below : List.Forall₂ (Built heap' heap.length) parts copies) :
    Built heap' index ((cells ref).tree parts) (.object (.inr index)) := by
  have length : ((cells ref).children path).length = copies.length := by
    rw [← below.length_eq, length_walked within walked]
  have filled : heap'[index]? =
      some (Copied.putAll (cells ref).empty ((cells ref).children path) copies) := by
    rw [written, made]
    rfl
  have below' : List.Forall₂ (Built heap' index) parts copies :=
    below.imp fun _ _ holds => holds.kept late fun _ _ _ => rfl
  exact built_container known path length (Nat.le_refl _) filled below'

/-- The loop takes the frame of a container away as the walk visits its parts. -/
def FrameSimulates (cells : ι → Cell ι) (traversal : Traversal) (levels : Nat)
    (frame : Frame ι Nat) : Prop :=
  ∀ (stack : List (Frame ι Nat)) (ancestors : List ι) (remaining : Option Nat)
    (heap : List (Copied ι)), frame.target < heap.length →
      Simulates cells traversal ⟨frame :: stack, frame.source :: ancestors, remaining, heap⟩
        frame.target (((cells frame.source).children frame.path).drop frame.index) stack ancestors
        (walkChildren traversal (walk cells traversal levels (frame.source :: ancestors)) remaining
          (((cells frame.source).children frame.path).drop frame.index))

theorem simulates_children {frame : Frame ι Nat} (levelled : frame.depth + levels = maxDepth)
    (deeper : ∀ less, levels = less + 1 → ∀ inner : Frame ι Nat, inner.depth + less = maxDepth →
      FrameSimulates cells traversal less inner) (index : Nat) :
    FrameSimulates cells traversal levels { frame with index := index } := by
  generalize left : ((cells frame.source).children frame.path).drop index = children
  induction children generalizing index with
  | nil =>
    intro stack ancestors remaining heap older
    dsimp only
    rw [left]
    refine ⟨[], heap, ?_, ⟨Nat.le_refl _, fun _ _ _ => rfl⟩, ?_, .nil⟩
    · exact Relation.ReflTransGen.single (cloneTurn_last _ stack ancestors remaining heap left)
    · cases heap[frame.target]? <;> rfl
  | cons child rest ih =>
    intro stack ancestors remaining heap older
    change frame.target < heap.length at older
    have next : ((cells frame.source).children frame.path).drop (index + 1) = rest := by
      rw [← List.tail_drop, left]
      rfl
    have later := ih (index + 1) next
    have turned : (cloning cells traversal).turn _ = _ := cloneTurn_child
      { frame with index := index } stack (frame.source :: ancestors) remaining heap left
    dsimp only [FrameSimulates] at later ⊢
    rw [left, walkChildren_cons]
    rw [next] at later
    cases here : child.item with
    | none =>
      rw [here] at turned
      exact Machine.returns_of_failure turned
    | some item =>
      rw [here] at turned
      simp only at turned ⊢
      rw [walk_inspect (frame.depth + 1) (by omega)]
      cases inspected : inspect cells traversal child.path (frame.depth + 1)
          (frame.source :: ancestors) remaining item with
      | error refusal =>
        rw [inspected] at turned
        exact Machine.returns_of_failure turned
      | ok visited =>
        rw [inspected] at turned
        obtain ⟨visited, after⟩ := visited
        cases visited with
        | scalar value =>
          simp only at turned ⊢
          apply Simulates.cons (Relation.ReflTransGen.single turned)
          · exact ⟨by simp, fun _ _ other => getElem?_put _ _ _ other⟩
          · exact getElem?_put_self _ _ _
          · exact fun _ _ => .primitive value
          · exact later stack ancestors after _ (by rwa [List.length_modify])
        | container ref =>
          have inside := (inspect_container inspected).2.1
          obtain ⟨less, rfl⟩ : ∃ less, levels = less + 1 := ⟨levels - 1, by omega⟩
          simp only at turned ⊢
          have child' := deeper less rfl ⟨ref, heap.length, child.path, frame.depth + 1, 0⟩
            (by simp only; omega) ({ frame with index := index + 1 } :: stack)
            (frame.source :: ancestors) after
            ((heap ++ [(cells ref).empty]).modify frame.target fun target =>
              Copied.put target child.key (.object (.inr heap.length)))
            (by simp)
          simp only [List.drop_zero] at child'
          cases walked : walkChildren traversal
              (walk cells traversal less (ref :: frame.source :: ancestors)) after
              ((cells ref).children child.path) with
          | error refusal =>
            rw [walked] at child'
            exact Machine.returns_of_turn turned child'
          | ok result =>
            rw [walked] at child'
            obtain ⟨parts, between⟩ := result
            obtain ⟨copies, heap', reaches, extended, written, below⟩ := child'
            have built := built_walked (by omega) (inspect_container inspected).2.2.1
              walked (getElem?_entered_new child.key (cells ref) older) written
              (by rw [length_entered]; omega) below
            apply Simulates.cons (Relation.ReflTransGen.head turned reaches)
            · exact extends_entered extended
            · exact getElem?_entered_target older extended
            · intro heap'' kept
              apply built.kept (Nat.le_refl _)
              intro place late inside
              exact kept.same place inside (by omega)
            · apply later
              have longer := (extends_entered extended).longer
              exact Nat.lt_of_lt_of_le older longer

/-- The loop takes the frame of a container away as the walk visits its parts. -/
theorem simulates {frame : Frame ι Nat} (levelled : frame.depth + levels = maxDepth) :
    FrameSimulates cells traversal levels frame := by
  induction levels generalizing frame with
  | zero => exact simulates_children levelled (fun less impossible => by cases impossible) frame.index
  | succ levels ih =>
    apply simulates_children levelled
    intro less same inner levelled'
    obtain rfl := Nat.succ.inj same
    exact ih levelled'

/-- What `cloneJsonCompatible` returns, from the walk of its value. -/
def CloneFollows
    (compute : Nat → Option (Except JsonFrameError (Item (ι ⊕ Nat) × List (Copied ι)))) :
    Except JsonFrameError (Value × Option Nat) → Prop
  | .error refusal => Machine.Returns compute (.error refusal)
  | .ok (tree, _) => ∃ copy heap, Machine.Returns compute (.ok (copy, heap)) ∧
      Built heap 0 tree copy

theorem cloneJsonCompatible_follows (value : Item ι) (orient : Option ResolvedOrient)
    (path : String) (maxNodes : Option Nat) :
    CloneFollows (Graph.cloneJsonCompatible cells value orient path maxNodes)
      (walk cells { orient, maxNodes } (maxDepth + 1) [] path maxNodes value) := by
  rw [walk_inspect 0 (by omega)]
  have started : Graph.cloneJsonCompatible cells value orient path maxNodes = fun fuel =>
      match inspect cells { orient, maxNodes } path 0 [] maxNodes value with
      | .error refusal => some (.error refusal)
      | .ok (.scalar value, _) => some (.ok (.primitive value, []))
      | .ok (.container ref, left) =>
        ((cloning cells { orient, maxNodes }).run fuel
          ⟨[⟨ref, 0, path, 0, 0⟩], [ref], left, [(cells ref).empty]⟩).map fun ended =>
            ended.map fun state => (.object (.inr 0), state.heap) := by
    funext fuel
    rw [Graph.cloneJsonCompatible]
    simp only [createFrame]
    rcases inspect cells { orient, maxNodes } path 0 [] maxNodes value with
      refusal | ⟨value | ref, left⟩
    · rfl
    · cases fuel <;> rfl
    · rfl
  rw [started]
  cases inspected : inspect cells { orient, maxNodes } path 0 [] maxNodes value with
  | error refusal => exact ⟨0, fun _ _ => rfl⟩
  | ok visited =>
    obtain ⟨visited, left⟩ := visited
    cases visited with
    | scalar value => exact ⟨_, _, ⟨0, fun _ _ => rfl⟩, .primitive value⟩
    | container ref =>
      have levelled : (⟨ref, 0, path, 0, 0⟩ : Frame ι Nat).depth + maxDepth = maxDepth :=
        Nat.zero_add maxDepth
      have whole : Simulates cells { orient, maxNodes } _ _ _ _ _ _ :=
        simulates levelled [] [] left [(cells ref).empty] (by simp)
      simp only [List.drop_zero] at whole ⊢
      cases walked : walkChildren { orient, maxNodes }
          (walk cells { orient, maxNodes } maxDepth [ref]) left
          ((cells ref).children path) with
      | error refusal =>
        rw [walked] at whole
        exact Machine.returns_map whole _
      | ok result =>
        rw [walked] at whole
        obtain ⟨parts, final⟩ := result
        obtain ⟨copies, heap, reaches, extended, written, below⟩ := whole
        have built := built_walked (by omega) (inspect_container inspected).2.2.1 walked
          rfl written (by simp) below
        have returned : Machine.Returns _ _ := reaches.returns (Machine.returns_of_final rfl)
        exact ⟨_, heap, Machine.returns_map returned _, built⟩

end Simulation

end WebTsToolkit.JsonFrame
