import WebTsToolkit.MongooseRxdb.Query

set_option autoImplicit false

namespace WebTsToolkit.MongooseRxdb

open Js Library

theorem throwIf_eq_ok {refused : Bool} {error : QueryFilterError} :
    throwIf refused error = .ok () ↔ refused = false := by
  cases refused with
  | false => exact ⟨fun _ => rfl, fun _ => rfl⟩
  | true => simp [throwIf]

theorem enterFilterNode_eq_ok {nodes nodes' : Nat} :
    enterFilterNode nodes = .ok nodes' ↔ nodes' = nodes + 1 ∧ nodes' ≤ maxFilterNodes := by
  rw [enterFilterNode]
  split
  · next beyond =>
    constructor
    · intro same
      contradiction
    · rintro ⟨same, within⟩
      omega
  · next within =>
    rw [Except.ok.injEq]
    omega

theorem countFilterEntry_eq_ok {nodes nodes' : Nat} {path : String} :
    countFilterEntry nodes path = .ok nodes' ↔ nodes' = nodes + 1 ∧ nodes' ≤ maxFilterNodes := by
  rw [countFilterEntry]
  split
  · next beyond =>
    constructor
    · intro same
      contradiction
    · rintro ⟨same, within⟩
      omega
  · next within =>
    rw [Except.ok.injEq]
    omega

theorem cloneSingle_eq_ok {path : String} {value stored : Value} (single : value.isSingle = true) :
    cloneSingle path value = .ok stored ↔ storedLiteral value = some stored := by
  cases value with
  | date time =>
    cases time with
    | none => simp [cloneSingle, normalizeDateOperand, storedLiteral]
    | some time =>
      rw [cloneSingle, normalizeDateOperand, storedLiteral, Except.ok.injEq, Option.some_inj]
  | regexp source flags | classed kind fields => simp [cloneSingle, storedLiteral]
  | array items | object entries | hole => contradiction
  | _ => rw [cloneSingle, storedLiteral, Except.ok.injEq, Option.some_inj] <;> simp

/-- The store's form of a single value is no container. -/
theorem storedLiteral_single {value stored : Value} (single : value.isSingle = true)
    (found : storedLiteral value = some stored) :
    literalCost stored = 0 ∧ literalDepth stored = 0 := by
  cases storedAs_of_stored found with
  | array few keeps | object keeps => contradiction
  | leaf leaf flat => cases stored <;> first | contradiction | exact ⟨rfl, rfl⟩

section

variable {ι : Type}

/-- What a reference stands for may be a literal, with at most `levels` containers nested. -/
def Clones (graph : Graph ι) (levels : Nat) (ref : ι) (stored : Value) : Prop :=
  ∃ tree, graph.Unfolds tree ref ∧ storedLiteral tree = some stored ∧
    literalDepth stored ≤ levels

def ClonesEntry (graph : Graph ι) (levels : Nat) (member : String × ι)
    (entry : String × Value) : Prop :=
  dangerousKeys.contains member.1 = false ∧ member.1 = entry.1 ∧
    Clones graph levels member.2 entry.2

variable {levels : Nat} {ref : ι} {ancestors : List ι} {path : String}

theorem clones_array {graph : Graph ι} {refs : List ι} {stored : List Value}
    (shape : graph.look ref = .array refs) (few : refs.length ≤ maxLogicalOperands)
    (reads : List.Forall₂ (Clones graph levels) refs stored) :
    Clones graph (levels + 1) ref (.array stored) := by
  obtain ⟨trees, unfolds, keeps⟩ := forall₂_exists reads
  refine ⟨.array trees, ?_, ?_, ?_⟩
  · exact (Graph.unfolds_array shape _).mpr ⟨trees, rfl, unfolds.flip⟩
  · have count := unfolds.length_eq
    have items := storedItems_iff.mpr (keeps.imp fun _ _ kept => kept.1)
    rw [storedLiteral, if_pos (by omega), items]
    rfl
  · have depth : itemsDepth stored ≤ levels := by
      rw [itemsDepth_le]
      intro item member
      obtain ⟨_, _, kept⟩ := exists_of_mem_right keeps member
      exact kept.2
    rw [literalDepth]
    omega

theorem clones_object {graph : Graph ι} {members : List (String × ι)} {stored : Entries}
    (shape : graph.look ref = .object members)
    (reads : List.Forall₂ (ClonesEntry graph levels) members stored) :
    Clones graph (levels + 1) ref (.object stored) := by
  have met : List.Forall₂ (fun member entry => ∃ tree : String × Value,
      graph.UnfoldsEntry tree member ∧ StoresEntry tree entry ∧
        literalDepth entry.2 ≤ levels) members stored := by
    refine reads.imp ?_
    rintro member entry ⟨safe, key, tree, unfolds, kept, depth⟩
    exact ⟨(member.1, tree), ⟨rfl, unfolds⟩, ⟨safe, key, kept⟩, depth⟩
  obtain ⟨trees, unfolds, keeps⟩ := forall₂_exists met
  refine ⟨.object trees, ?_, ?_, ?_⟩
  · exact (Graph.unfolds_object shape _).mpr ⟨trees, rfl, unfolds.flip⟩
  · have entries := storedEntries_iff.mpr (keeps.imp fun _ _ kept => kept.1)
    rw [storedLiteral, entries]
    rfl
  · have depth : entriesDepth stored ≤ levels := by
      rw [entriesDepth_le]
      intro entry member
      obtain ⟨_, _, kept⟩ := exists_of_mem_right keeps member
      exact kept.2
    rw [literalDepth]
    omega

variable [DecidableEq ι] {graph : Graph ι}

theorem cloneLiteral_leaf {nodes : Nat} {value : Value} {single : value.isSingle = true}
    (shape : graph.look ref = .leaf value single) :
    cloneLiteral graph levels ancestors path nodes ref =
      (cloneSingle path value).map fun value => (value, nodes) := by
  cases levels <;> rw [cloneLiteral, shape]

omit [DecidableEq ι] in
theorem cloneSingle_sound {nodes nodes' : Nat} {value stored : Value}
    {single : value.isSingle = true} (shape : graph.look ref = .leaf value single)
    (within : nodes ≤ maxFilterNodes)
    (run : (cloneSingle path value).map (fun value => (value, nodes)) = .ok (stored, nodes')) :
    Clones graph levels ref stored ∧ nodes' = nodes + literalCost stored ∧
      nodes' ≤ maxFilterNodes := by
  obtain ⟨source, copied, same⟩ := map_eq_ok run
  have done := Prod.mk.inj same
  have found := (cloneSingle_eq_ok single).mp copied
  rw [done.1] at found
  have flat := storedLiteral_single single found
  refine ⟨⟨value, ?_, found, by omega⟩, by omega, by omega⟩
  exact (Graph.unfolds_leaf shape value).mpr rfl

/-- A finished copy read a finite literal within the limits, and charged its cost. -/
theorem cloneLiteral_sound {nodes nodes' : Nat} {stored : Value} (within : nodes ≤ maxFilterNodes)
    (run : cloneLiteral graph levels ancestors path nodes ref = .ok (stored, nodes')) :
    Clones graph levels ref stored ∧ nodes' = nodes + literalCost stored ∧
      nodes' ≤ maxFilterNodes := by
  induction levels generalizing ancestors path nodes nodes' ref stored with
  | zero =>
    rw [cloneLiteral] at run
    split at run
    · next value single shape => exact cloneSingle_sound shape within run
    · obtain ⟨_, _, run⟩ := bind_eq_ok run
      obtain ⟨_, _, run⟩ := bind_eq_ok run
      contradiction
    · obtain ⟨_, _, run⟩ := bind_eq_ok run
      contradiction
  | succ levels ih =>
    rw [cloneLiteral] at run
    split at run
    · next value single shape => exact cloneSingle_sound shape within run
    · next items shape =>
      obtain ⟨_, _, run⟩ := bind_eq_ok run
      obtain ⟨_, few, run⟩ := bind_eq_ok run
      obtain ⟨entered, counted, run⟩ := bind_eq_ok run
      obtain ⟨⟨values, final⟩, copied, same⟩ := bind_eq_ok run
      have done := Prod.mk.inj (Except.ok.inj same)
      have counted := enterFilterNode_eq_ok.mp counted
      have few := of_decide_eq_false (throwIf_eq_ok.mp few)
      have each : ∀ item ∈ items, ∀ position count result count', count ≤ maxFilterNodes →
          cloneItem (cloneLiteral graph levels (ref :: ancestors)) path position count item =
            .ok (result, count') →
          ∃ source, Clones graph levels item source ∧ result = source ∧
            count' = count + (1 + literalCost source) ∧ count' ≤ maxFilterNodes := by
        intro item _ position count result count' within step
        obtain ⟨middle, counted, step⟩ := bind_eq_ok step
        have counted := countFilterEntry_eq_ok.mp counted
        obtain ⟨clones, charged, bounded⟩ := ih counted.2 step
        exact ⟨result, clones, rfl, by omega, bounded⟩
      obtain ⟨sources, reads, converted, charged, bounded⟩ :=
        traverse_sound each counted.2 copied
      rw [List.map_id'] at converted
      subst converted
      rw [← done.1, ← done.2, literalCost, itemsCost_eq]
      exact ⟨clones_array shape (by omega) reads, by omega, bounded⟩
    · next entries shape =>
      obtain ⟨_, _, run⟩ := bind_eq_ok run
      obtain ⟨entered, counted, run⟩ := bind_eq_ok run
      obtain ⟨⟨values, final⟩, copied, same⟩ := bind_eq_ok run
      have done := Prod.mk.inj (Except.ok.inj same)
      have counted := enterFilterNode_eq_ok.mp counted
      have each : ∀ member ∈ entries, ∀ position count result count',
          count ≤ maxFilterNodes →
          cloneEntry (cloneLiteral graph levels (ref :: ancestors)) path position count member =
            .ok (result, count') →
          ∃ entry : String × Value, ClonesEntry graph levels member entry ∧ result = entry ∧
            count' = count + (1 + literalCost entry.2) ∧ count' ≤ maxFilterNodes := by
        intro member _ position count result count' within step
        obtain ⟨_, safe, step⟩ := bind_eq_ok step
        obtain ⟨middle, counted, step⟩ := bind_eq_ok step
        obtain ⟨⟨value, after⟩, cloned, same⟩ := bind_eq_ok step
        have done := Prod.mk.inj (Except.ok.inj same)
        have counted := countFilterEntry_eq_ok.mp counted
        obtain ⟨clones, charged, bounded⟩ := ih counted.2 cloned
        refine ⟨(member.1, value), ⟨throwIf_eq_ok.mp safe, rfl, clones⟩, done.1.symm, ?_, ?_⟩
        · show count' = count + (1 + literalCost value)
          omega
        · omega
      obtain ⟨sources, reads, converted, charged, bounded⟩ :=
        traverse_sound each counted.2 copied
      rw [List.map_id'] at converted
      subst converted
      rw [← done.1, ← done.2, literalCost, entriesCost_eq]
      exact ⟨clones_object shape reads, by omega, bounded⟩

/-- Every ancestor stands for a larger tree, so none is met again below. -/
def Outside (graph : Graph ι) (ancestors : List ι) (tree : Value) : Prop :=
  ∀ ancestor ∈ ancestors, ∃ whole, graph.Unfolds whole ancestor ∧ sizeOf tree < sizeOf whole

omit [DecidableEq ι] in
theorem Outside.child {tree child : Value} (outside : Outside graph ancestors tree)
    (inside : tree.Child child) : Outside graph ancestors child := by
  intro ancestor member
  have smaller := inside.sizeOf_lt
  obtain ⟨whole, stands, larger⟩ := outside ancestor member
  exact ⟨whole, stands, by omega⟩

omit [DecidableEq ι] in
theorem Outside.below {tree child : Value} (outside : Outside graph ancestors tree)
    (unfolds : graph.Unfolds tree ref) (inside : tree.Child child) :
    Outside graph (ref :: ancestors) child := by
  intro ancestor member
  rcases List.mem_cons.mp member with same | member
  · exact ⟨tree, same ▸ unfolds, inside.sizeOf_lt⟩
  · exact outside.child inside ancestor member

theorem Outside.assertAcyclic {tree : Value} (outside : Outside graph ancestors tree)
    (unfolds : graph.Unfolds tree ref) (path : String) :
    assertAcyclic ancestors ref path = .ok () := by
  apply throwIf_eq_ok.mpr
  rw [Bool.eq_false_iff]
  intro met
  obtain ⟨whole, stands, larger⟩ := outside ref (List.contains_iff_mem.mp met)
  have same := Graph.unfolds_unique graph tree whole ref unfolds stands
  subst same
  omega

/-- A literal within the limits is copied. -/
theorem cloneLiteral_complete {tree stored : Value} (found : storedLiteral tree = some stored)
    (depth : literalDepth stored ≤ levels) (unfolds : graph.Unfolds tree ref)
    (outside : Outside graph ancestors tree) (path : String) (nodes : Nat)
    (within : nodes + literalCost stored ≤ maxFilterNodes) :
    cloneLiteral graph levels ancestors path nodes ref =
      .ok (stored, nodes + literalCost stored) := by
  induction tree using Value.induction generalizing stored levels ancestors ref path nodes with
  | array items ih =>
    rw [storedLiteral] at found
    split at found
    · next few =>
      obtain ⟨kept, keeps, same⟩ := Option.map_eq_some_iff.mp found
      subst same
      have stands := unfolds
      obtain ⟨refs, shape, below⟩ := unfolds
      have below := (Graph.unfoldsItems_iff graph items refs).mp below
      have keeps := storedItems_iff.mp keeps
      have count := below.length_eq
      rw [literalCost, itemsCost_eq] at within ⊢
      rw [literalDepth] at depth
      obtain ⟨levels, rfl⟩ : ∃ lower, levels = lower + 1 := ⟨levels - 1, by omega⟩
      have each : List.Forall₂ (fun item source => ∀ position count,
          count + (1 + literalCost source) ≤ maxFilterNodes →
          cloneItem (cloneLiteral graph levels (ref :: ancestors)) path position count item =
            .ok (source, count + (1 + literalCost source))) refs kept := by
        refine forall₂_meet ?_ below keeps
        intro item listed child source member unfolds found position count within
        have shallow := itemsDepth_le.mp (show itemsDepth kept ≤ levels by omega)
        have inside : (Value.array items).Child item := listed
        have counted : countFilterEntry count s!"{path}[{position}]" = .ok (count + 1) :=
          countFilterEntry_eq_ok.mpr ⟨rfl, by omega⟩
        have cloned := ih item listed found (shallow source member) unfolds
          (outside.below stands inside) s!"{path}[{position}]" (count + 1) (by omega)
        rw [cloneItem, counted, ← Nat.add_assoc]
        exact cloned
      have entered : enterFilterNode nodes = .ok (nodes + 1) :=
        enterFilterNode_eq_ok.mpr ⟨rfl, by omega⟩
      have copied := traverse_complete each 0 (nodes + 1) (by omega)
      have allowed : decide (maxLogicalOperands < refs.length) = false :=
        decide_eq_false (by omega)
      rw [cloneLiteral, shape]
      show (assertAcyclic ancestors ref path >>= fun _ => _) = _
      rw [outside.assertAcyclic stands path]
      show (throwIf (decide (maxLogicalOperands < refs.length)) _ >>= fun _ => _) = _
      rw [allowed]
      show (enterFilterNode nodes >>= fun _ => _) = _
      rw [entered]
      show (traverse _ 0 (nodes + 1) refs >>= fun _ => _) = _
      rw [copied, List.map_id', ← Nat.add_assoc]
      rfl
    · contradiction
  | object entries ih =>
    rw [storedLiteral] at found
    obtain ⟨kept, keeps, same⟩ := Option.map_eq_some_iff.mp found
    subst same
    have stands := unfolds
    obtain ⟨members, shape, below⟩ := unfolds
    have below := (Graph.unfoldsEntries_iff graph entries members).mp below
    have keeps := storedEntries_iff.mp keeps
    rw [literalCost, entriesCost_eq] at within ⊢
    rw [literalDepth] at depth
    obtain ⟨levels, rfl⟩ : ∃ lower, levels = lower + 1 := ⟨levels - 1, by omega⟩
    have each : List.Forall₂ (fun (member : String × ι) (source : String × Value) =>
        ∀ position count, count + (1 + literalCost source.2) ≤ maxFilterNodes →
        cloneEntry (cloneLiteral graph levels (ref :: ancestors)) path position count member =
          .ok (source, count + (1 + literalCost source.2))) members kept := by
      refine forall₂_meet ?_ below keeps
      rintro entry listed child source member ⟨name, unfolds⟩ ⟨safe, key, found⟩ position count
        within
      have shallow := entriesDepth_le.mp (show entriesDepth kept ≤ levels by omega)
      have inside : (Value.object entries).Child entry.2 := ⟨entry.1, listed⟩
      rw [name] at safe key
      have counted : countFilterEntry count s!"{path}.{child.1}" = .ok (count + 1) :=
        countFilterEntry_eq_ok.mpr ⟨rfl, by omega⟩
      have cloned := ih entry listed found (shallow source member) unfolds
        (outside.below stands inside) s!"{path}.{child.1}" (count + 1) (by omega)
      rw [cloneEntry]
      show (assertSafeKey child.1 >>= fun _ => _) = _
      rw [assertSafeKey, throwIf_eq_ok.mpr safe]
      show (countFilterEntry count _ >>= fun _ => _) = _
      rw [counted]
      show (cloneLiteral graph levels _ _ (count + 1) child.2 >>= fun _ => _) = _
      rw [cloned, ← Nat.add_assoc, ← Prod.eta source, ← key]
      rfl
    have entered : enterFilterNode nodes = .ok (nodes + 1) :=
      enterFilterNode_eq_ok.mpr ⟨rfl, by omega⟩
    have copied := traverse_complete each 0 (nodes + 1) (by omega)
    rw [cloneLiteral, shape]
    show (assertAcyclic ancestors ref path >>= fun _ => _) = _
    rw [outside.assertAcyclic stands path]
    show (enterFilterNode nodes >>= fun _ => _) = _
    rw [entered]
    show (traverse _ 0 (nodes + 1) members >>= fun _ => _) = _
    rw [copied, List.map_id', ← Nat.add_assoc]
    rfl
  | classed kind fields ih => contradiction
  | leaf value isLeaf =>
    cases value with
    | array items | object entries => contradiction
    | _ =>
      obtain ⟨single, shape⟩ := unfolds
      have copied : cloneSingle path _ = .ok stored := (cloneSingle_eq_ok single).mpr found
      have flat := storedLiteral_single single found
      rw [cloneLiteral_leaf shape, copied, flat.1]
      rfl

end

end WebTsToolkit.MongooseRxdb
