import WebTsToolkit.MongooseRxdb.LiteralRun

set_option autoImplicit false

namespace WebTsToolkit.MongooseRxdb

open Js Library

section

variable {ι : Type} {members : List (String × ι)} {value : Value} {levels : Nat} {ref : ι}
  {ancestors : List ι} {nodes nodes' : Nat} {field : String} {tree : Value}

theorem keys_unfolds {graph : Graph ι} {entries : Entries}
    (below : List.Forall₂ graph.UnfoldsEntry entries members) :
    entries.map Prod.fst = members.map Prod.fst :=
  map_eq_of_forall₂ (below.imp fun _ _ here => here.1)

/-- What a field's value means, within the levels left. -/
def ReadsCondition (graph : Graph ι) (levels : Nat) (ref : ι) (condition : Condition) : Prop :=
  ∃ tree, graph.Unfolds tree ref ∧ parseCondition tree = some condition ∧
    condition.depth ≤ levels

/-- What an entry of an operator object means. -/
def ReadsTest (graph : Graph ι) (levels : Nat) (member : String × ι)
    (test : String × Value) : Prop :=
  member.1 ∈ comparisonOperators ∧ member.1 = test.1 ∧ Clones graph levels member.2 test.2

def ReadsFilter (graph : Graph ι) (levels : Nat) (ref : ι) (query : Query) : Prop :=
  ∃ tree, graph.Unfolds tree ref ∧ parseFilter tree = some query ∧ 1 + queryDepth query ≤ levels

def ReadsOperands (graph : Graph ι) (levels : Nat) (ref : ι) (queries : List Query) : Prop :=
  ∃ tree, graph.Unfolds tree ref ∧ parseOperands tree = some queries ∧
    operandsDepth queries ≤ levels

def ReadsEntry (graph : Graph ι) (levels : Nat) (member : String × ι) (clause : Clause) : Prop :=
  ∃ tree, graph.Unfolds tree member.2 ∧
    parseClause member.1 (parseOperands tree) tree = some clause ∧ clauseDepth clause ≤ levels

/-- A literal that is no plain object. -/
theorem readsCondition_literal {graph : Graph ι} {stored : Value}
    (clones : Clones graph levels ref stored)
    (single : ∀ members, graph.look ref ≠ .object members) :
    ReadsCondition graph levels ref (.literal stored) := by
  obtain ⟨tree, unfolds, found, depth⟩ := clones
  refine ⟨tree, unfolds, ?_, depth⟩
  have plain : tree.isPlainObject = false := by
    cases tree with
    | object entries =>
      obtain ⟨members, shape, _⟩ := unfolds
      exact absurd shape (single members)
    | _ => rfl
  rw [parseCondition_single plain, found]
  rfl

/-- A plain object without operators. -/
theorem readsCondition_object {graph : Graph ι} {stored : Value}
    (shape : graph.look ref = .object members) (clones : Clones graph levels ref stored)
    (plain : (members.map Prod.fst).any isOperator = false) :
    ReadsCondition graph levels ref (.tests [("$eq", stored)]) := by
  obtain ⟨tree, unfolds, found, depth⟩ := clones
  refine ⟨tree, unfolds, ?_, ?_⟩
  · obtain ⟨entries, same, below⟩ := (Graph.unfolds_object shape tree).mp unfolds
    subst same
    rw [← keys_unfolds below] at plain
    rw [parseCondition, if_neg (by rw [plain]; exact Bool.false_ne_true), found]
    rfl
  · rw [tests_depth_le]
    exact List.forall_mem_singleton.mpr depth

theorem readsCondition_tests {graph : Graph ι} {tests : Entries}
    (shape : graph.look ref = .object members)
    (reads : List.Forall₂ (ReadsTest graph levels) members tests)
    (operators : (members.map Prod.fst).any isOperator = true) :
    ReadsCondition graph levels ref (.tests tests) := by
  have met : List.Forall₂ (fun member test => ∃ tree : String × Value,
      graph.UnfoldsEntry tree member ∧ parseTest tree = some test ∧
        literalDepth test.2 ≤ levels) members tests := by
    refine reads.imp ?_
    rintro member test ⟨comparison, key, tree, unfolds, kept, depth⟩
    have parsed : parseTest (member.1, tree) = some test :=
      parseTest_eq_some.mpr ⟨comparison, key, kept⟩
    exact ⟨(member.1, tree), ⟨rfl, unfolds⟩, parsed, depth⟩
  obtain ⟨trees, unfolds, keeps⟩ := forall₂_exists met
  refine ⟨.object trees, (Graph.unfolds_object shape _).mpr ⟨trees, rfl, unfolds.flip⟩, ?_, ?_⟩
  · rw [← keys_unfolds unfolds.flip] at operators
    rw [parseCondition, if_pos operators,
      mapM_eq_some_iff.mpr (keeps.imp fun _ _ kept => kept.1)]
    rfl
  · rw [tests_depth_le]
    intro test member
    obtain ⟨_, _, kept⟩ := exists_of_mem_right keeps member
    exact kept.2

variable [DecidableEq ι] {graph : Graph ι}

/-- The loop over operators rejects `$regex`, and without `$options` it keeps every test. -/
theorem normalizeOperators_sound {tests : Entries} (within : nodes ≤ maxFilterNodes)
    (run : normalizeOperators graph levels ancestors field nodes members = .ok (tests, nodes')) :
    "$regex" ∉ members.map Prod.fst ∧ ("$options" ∉ members.map Prod.fst →
      List.Forall₂ (ReadsTest graph levels) members tests ∧
      nodes' = nodes + (tests.map fun test => literalCost test.2).sum ∧
      nodes' ≤ maxFilterNodes) := by
  induction members generalizing nodes nodes' tests with
  | nil =>
    have done := Prod.mk.inj (Except.ok.inj run)
    rw [← done.1, ← done.2]
    exact ⟨List.not_mem_nil, fun _ => ⟨List.Forall₂.nil, rfl, within⟩⟩
  | cons member members ih =>
    obtain ⟨operator, raw⟩ := member
    rw [normalizeOperators] at run
    obtain ⟨_, _, run⟩ := bind_eq_ok run
    obtain ⟨_, supported, run⟩ := bind_eq_ok run
    rw [List.map_cons, List.mem_cons, List.mem_cons]
    split at run
    · next options =>
      obtain ⟨noRegex, _⟩ := ih within run
      refine ⟨?_, fun absent => absurd (Or.inl options.symm) absent⟩
      rintro (same | later)
      · have apart : "$regex" ≠ "$options" := by decide
        exact apart (same.trans options)
      · exact noRegex later
    · next notOptions =>
      split at run
      · contradiction
      · next notRegex =>
        obtain ⟨⟨value, middle⟩, cloned, run⟩ := bind_eq_ok run
        obtain ⟨⟨rest, final⟩, later, same⟩ := bind_eq_ok run
        have done := Prod.mk.inj (Except.ok.inj same)
        obtain ⟨clones, charged, bounded⟩ := cloneLiteral_sound within cloned
        obtain ⟨noRegex, keeps⟩ := ih bounded later
        refine ⟨?_, ?_⟩
        · rintro (same | later)
          · exact notRegex same.symm
          · exact noRegex later
        · intro absent
          obtain ⟨reads, chargedRest, boundedRest⟩ := keeps fun later => absent (Or.inr later)
          have comparison : operator ∈ comparisonOperators := by
            have safe := throwIf_eq_ok.mp supported
            rw [Bool.not_eq_false', safeOperators, List.contains_iff_mem,
              List.mem_append] at safe
            rcases safe with safe | safe
            · exact safe
            · rcases List.mem_cons.mp safe with same | safe
              · exact absurd same notRegex
              · exact absurd (List.mem_singleton.mp safe) notOptions
          rw [← done.1, ← done.2, List.map_cons, List.sum_cons]
          refine ⟨List.Forall₂.cons ⟨comparison, rfl, clones⟩ reads, ?_, boundedRest⟩
          show final = nodes + (literalCost value + _)
          omega

theorem normalizeFieldValue_sound (within : nodes ≤ maxFilterNodes)
    (run : normalizeFieldValue graph levels ancestors field nodes ref = .ok (value, nodes')) :
    ∃ condition, ReadsCondition graph levels ref condition ∧ value = condition.normalized ∧
      nodes' = nodes + condition.cost ∧ nodes' ≤ maxFilterNodes := by
  rw [normalizeFieldValue] at run
  split at run
  · contradiction
  · next members shape =>
    change (if ((members.map Prod.fst).filter isOperator).length = 0 then _ else _) = _ at run
    split at run
    · next none =>
      obtain ⟨⟨stored, final⟩, cloned, same⟩ := bind_eq_ok run
      have done := Prod.mk.inj (Except.ok.inj same)
      obtain ⟨clones, charged, bounded⟩ := cloneLiteral_sound within cloned
      have plain : (members.map Prod.fst).any isOperator = false := by
        rw [List.any_eq_false]
        exact List.filter_eq_nil_iff.mp (List.length_eq_zero_iff.mp none)
      refine ⟨.tests [("$eq", stored)], readsCondition_object shape clones plain,
        done.1.symm, ?_, ?_⟩
      · show nodes' = nodes + (literalCost stored + 0)
        omega
      · omega
    · next some =>
      obtain ⟨_, _, run⟩ := bind_eq_ok run
      obtain ⟨⟨tests, final⟩, looped, run⟩ := bind_eq_ok run
      obtain ⟨_, noOptions, same⟩ := bind_eq_ok run
      have done := Prod.mk.inj (Except.ok.inj same)
      obtain ⟨noRegex, keeps⟩ := normalizeOperators_sound within looped
      have absent : "$options" ∉ members.map Prod.fst := by
        intro present
        have listed : ((members.map Prod.fst).filter isOperator).contains "$options" = true :=
          List.contains_iff_mem.mpr (List.mem_filter.mpr ⟨present, by decide⟩)
        have regexListed := throwIf_eq_ok.mp noOptions
        rw [listed, Bool.true_and, Bool.not_eq_false'] at regexListed
        exact noRegex (List.mem_of_mem_filter (List.contains_iff_mem.mp regexListed))
      obtain ⟨reads, charged, bounded⟩ := keeps absent
      have operators : (members.map Prod.fst).any isOperator = true := by
        rw [List.any_eq_true]
        by_contra without
        apply some
        rw [List.length_eq_zero_iff, List.filter_eq_nil_iff]
        intro key member operator
        exact without ⟨key, member, operator⟩
      refine ⟨.tests tests, readsCondition_tests shape reads operators, done.1.symm, ?_, ?_⟩
      · show nodes' = nodes + (tests.map fun test => literalCost test.2).sum
        omega
      · omega
  · next notRegex notObject =>
    obtain ⟨clones, charged, bounded⟩ := cloneLiteral_sound within run
    exact ⟨.literal value, readsCondition_literal clones notObject, rfl, charged, bounded⟩

/-- What a pass that normalizes filters must give below `levels`. -/
def NormalizesTo (graph : Graph ι) (levels : Nat)
    (normalize : Nat → ι → Except QueryFilterError (Value × Nat)) : Prop :=
  ∀ {nodes nodes' : Nat} {ref : ι} {value : Value}, nodes ≤ maxFilterNodes →
    normalize nodes ref = .ok (value, nodes') →
    ∃ query, ReadsFilter graph levels ref query ∧ value = query.normalized ∧
      nodes' = nodes + queryCost query ∧ nodes' ≤ maxFilterNodes

omit [DecidableEq ι] in
theorem normalizeLogicalOperands_sound
    {normalize : Nat → ι → Except QueryFilterError (Value × Nat)}
    (sound : NormalizesTo graph levels normalize) {operator : String} {values : List Value}
    (within : nodes ≤ maxFilterNodes)
    (run : normalizeLogicalOperands graph normalize operator nodes ref = .ok (values, nodes')) :
    ∃ queries, ReadsOperands graph levels ref queries ∧
      values = writeFilters writeNormalized queries ∧ nodes' = nodes + operandsCost queries ∧
      nodes' ≤ maxFilterNodes := by
  rw [normalizeLogicalOperands] at run
  split at run
  · next items shape =>
    change (if items.length = 0 then _ else if maxLogicalOperands < items.length then _ else _) =
      _ at run
    split at run
    · contradiction
    split at run
    · contradiction
    next some few =>
    have each : ∀ item ∈ items, ∀ position count result count', count ≤ maxFilterNodes →
        normalizeOperand graph normalize operator position count item = .ok (result, count') →
        ∃ query, ReadsFilter graph levels item query ∧ result = query.normalized ∧
          count' = count + queryCost query ∧ count' ≤ maxFilterNodes := by
      intro item _ position count result count' within step
      rw [normalizeOperand] at step
      split at step
      · exact sound within step
      · contradiction
    obtain ⟨queries, reads, converted, charged, bounded⟩ := traverse_sound each within run
    obtain ⟨trees, unfolds, parses⟩ := forall₂_exists reads
    refine ⟨queries, ⟨.array trees, ?_, ?_, ?_⟩, ?_, ?_, bounded⟩
    · exact (Graph.unfolds_array shape _).mpr ⟨trees, rfl, unfolds.flip⟩
    · have count := unfolds.length_eq
      rw [parseOperands, if_pos (by omega)]
      exact parseFilters_iff.mpr (parses.imp fun _ _ parsed => parsed.1)
    · rw [operandsDepth_le]
      intro operand member
      obtain ⟨_, _, parsed⟩ := exists_of_mem_right parses member
      exact parsed.2
    · rw [converted, writeFilters_eq]
      rfl
    · rw [charged, operandsCost_eq]
  · contradiction

theorem normalizeEntry_sound {normalize : Nat → ι → Except QueryFilterError (Value × Nat)}
    (sound : NormalizesTo graph levels normalize) {position nodes nodes' : Nat}
    {member : String × ι} {entry : String × Value}
    (run : normalizeEntry graph levels ancestors normalize position nodes member =
      .ok (entry, nodes')) :
    ∃ clause, ReadsEntry graph levels member clause ∧
      entry = writeEntry writeNormalized clause ∧ nodes' = nodes + (1 + clauseCost clause) ∧
      nodes' ≤ maxFilterNodes := by
  obtain ⟨_, safe, run⟩ := bind_eq_ok run
  obtain ⟨middle, counted, run⟩ := bind_eq_ok run
  have safe := throwIf_eq_ok.mp safe
  have counted := countFilterEntry_eq_ok.mp counted
  split at run
  · next logical =>
    obtain ⟨⟨operands, final⟩, normalized, same⟩ := bind_eq_ok run
    have done := Prod.mk.inj (Except.ok.inj same)
    obtain ⟨queries, ⟨tree, unfolds, parsed, depth⟩, written, charged, bounded⟩ :=
      normalizeLogicalOperands_sound sound counted.2 normalized
    refine ⟨.logical member.1 queries, ⟨tree, unfolds, ?_, depth⟩, ?_, ?_, ?_⟩
    · rw [parseClause, if_pos logical, parsed]
      rfl
    · rw [← done.1, written, writeEntry]
    · rw [clauseCost]
      omega
    · omega
  · next notLogical =>
    obtain ⟨_, plain, run⟩ := bind_eq_ok run
    obtain ⟨⟨value, final⟩, normalized, same⟩ := bind_eq_ok run
    have plain := throwIf_eq_ok.mp plain
    have done := Prod.mk.inj (Except.ok.inj same)
    obtain ⟨condition, ⟨tree, unfolds, parsed, depth⟩, written, charged, bounded⟩ :=
      normalizeFieldValue_sound counted.2 normalized
    refine ⟨.field member.1 condition, ⟨tree, unfolds, ?_, depth⟩, ?_, ?_, ?_⟩
    · rw [parseClause, if_neg notLogical, plain, safe, Bool.or_false,
        if_neg Bool.false_ne_true, parsed]
      rfl
    · rw [← done.1, written]
      rfl
    · rw [clauseCost]
      omega
    · omega

/-- A finished pass read a filter within the limits, wrote its normal form and charged its
cost. -/
theorem normalizeFilterObject_sound (within : nodes ≤ maxFilterNodes)
    (run : normalizeFilterObject graph levels ancestors nodes ref = .ok (value, nodes')) :
    ∃ query, ReadsFilter graph levels ref query ∧ value = query.normalized ∧
      nodes' = nodes + queryCost query ∧ nodes' ≤ maxFilterNodes := by
  induction levels generalizing ancestors nodes nodes' ref value with
  | zero =>
    rw [normalizeFilterObject] at run
    split at run
    · obtain ⟨_, _, run⟩ := bind_eq_ok run
      contradiction
    · contradiction
  | succ levels ih =>
    rw [normalizeFilterObject] at run
    split at run
    · next members shape =>
      obtain ⟨_, _, run⟩ := bind_eq_ok run
      obtain ⟨entered, counted, run⟩ := bind_eq_ok run
      obtain ⟨⟨out, final⟩, normalized, same⟩ := bind_eq_ok run
      have done := Prod.mk.inj (Except.ok.inj same)
      have counted := enterFilterNode_eq_ok.mp counted
      have each : ∀ member ∈ members, ∀ position count result count',
          count ≤ maxFilterNodes →
          normalizeEntry graph levels (ref :: ancestors)
            (normalizeFilterObject graph levels (ref :: ancestors)) position count member =
            .ok (result, count') →
          ∃ clause, ReadsEntry graph levels member clause ∧
            result = writeEntry writeNormalized clause ∧
            count' = count + (1 + clauseCost clause) ∧ count' ≤ maxFilterNodes :=
        fun _ _ _ _ _ _ _ step => normalizeEntry_sound ih step
      obtain ⟨query, reads, converted, charged, bounded⟩ :=
        traverse_sound each counted.2 normalized
      have met : List.Forall₂ (fun member clause => ∃ tree : String × Value,
          graph.UnfoldsEntry tree member ∧
          (parseClause tree.1 (parseOperands tree.2) tree.2 = some clause ∧
            clauseDepth clause ≤ levels)) members query := by
        refine reads.imp ?_
        rintro member clause ⟨tree, unfolds, parsed, depth⟩
        exact ⟨(member.1, tree), ⟨rfl, unfolds⟩, parsed, depth⟩
      obtain ⟨trees, unfolds, parses⟩ := forall₂_exists met
      refine ⟨query, ⟨.object trees, ?_, ?_, ?_⟩, ?_, ?_, by omega⟩
      · exact (Graph.unfolds_object shape _).mpr ⟨trees, rfl, unfolds.flip⟩
      · rw [parseFilter]
        exact parseClauses_iff.mpr (parses.imp fun _ _ parsed => parsed.1)
      · have depth : queryDepth query ≤ levels := by
          rw [queryDepth_le]
          intro clause member
          obtain ⟨_, _, parsed⟩ := exists_of_mem_right parses member
          exact parsed.2
        omega
      · rw [← done.1, converted, Query.normalized, writeEntries_eq]
      · rw [queryCost, clausesCost_eq]
        omega
    · contradiction

theorem normalizeOperators_complete {entries tests : Entries}
    (below : List.Forall₂ graph.UnfoldsEntry entries members)
    (reads : List.Forall₂ ReadTest entries tests)
    (depth : ∀ test ∈ tests, literalDepth test.2 ≤ levels)
    (outside : ∀ entry ∈ entries, Outside graph ancestors entry.2) (nodes : Nat)
    (within : nodes + (tests.map fun test => literalCost test.2).sum ≤ maxFilterNodes) :
    normalizeOperators graph levels ancestors field nodes members =
      .ok (tests, nodes + (tests.map fun test => literalCost test.2).sum) := by
  induction below generalizing tests nodes with
  | nil =>
    rw [List.forall₂_nil_left_iff.mp reads]
    rfl
  | @cons entry member entries members here _ ih =>
    obtain ⟨operator, raw⟩ := member
    obtain ⟨⟨_, stored⟩, rest, ⟨listed, rfl, found⟩, readsRest, rfl⟩ :=
      List.forall₂_cons_left_iff.mp reads
    obtain ⟨key, unfolds⟩ := here
    rw [List.map_cons, List.sum_cons] at within ⊢
    have within : nodes + (literalCost stored +
      (rest.map fun test => literalCost test.2).sum) ≤ maxFilterNodes := within
    rw [show entry.1 = operator from key] at listed ⊢
    have safe : assertSafeKey operator = .ok () := by
      apply throwIf_eq_ok.mpr
      have each : ∀ name ∈ comparisonOperators, dangerousKeys.contains name = false := by decide
      exact each operator listed
    have supported : (!safeOperators.contains operator) = false := by
      rw [Bool.not_eq_false', safeOperators, List.contains_iff_mem, List.mem_append]
      exact Or.inl listed
    have notOptions : operator ≠ "$options" := by
      have each : ∀ name ∈ comparisonOperators, name ≠ "$options" := by decide
      exact each operator listed
    have notRegex : operator ≠ "$regex" := by
      have each : ∀ name ∈ comparisonOperators, name ≠ "$regex" := by decide
      exact each operator listed
    have cloned := cloneLiteral_complete found (depth _ List.mem_cons_self) unfolds
      (outside entry List.mem_cons_self) s!"{field}.{operator}" nodes (by omega)
    have later := ih readsRest (fun test member => depth test (List.mem_cons_of_mem _ member))
      (fun entry member => outside entry (List.mem_cons_of_mem _ member))
      (nodes + literalCost stored) (by omega)
    rw [normalizeOperators, safe]
    show (throwIf (!safeOperators.contains operator) _ >>= fun _ => _) = _
    rw [supported]
    show (if operator = "$options" then _ else _) = _
    rw [if_neg notOptions, if_neg notRegex, cloned]
    show (normalizeOperators graph levels ancestors field (nodes + literalCost stored) members
      >>= fun _ => _) = _
    rw [later]
    exact congrArg (fun total => Except.ok ((operator, stored) :: rest, total))
      (Nat.add_assoc nodes _ _)

/-- The keys of an object that reads as tests are all comparison operators. -/
theorem comparison_of_reads {entries tests : Entries}
    (reads : List.Forall₂ ReadTest entries tests) {key : String}
    (member : key ∈ entries.map Prod.fst) : key ∈ comparisonOperators := by
  obtain ⟨entry, listed, same⟩ := List.mem_map.mp member
  obtain ⟨test, _, read⟩ := exists_of_mem_right reads.flip listed
  exact same ▸ read.1

theorem normalizeFieldValue_complete {condition : Condition}
    (parsed : parseCondition tree = some condition) (depth : condition.depth ≤ levels)
    (unfolds : graph.Unfolds tree ref) (outside : Outside graph ancestors tree) (field : String)
    (nodes : Nat) (within : nodes + condition.cost ≤ maxFilterNodes) :
    normalizeFieldValue graph levels ancestors field nodes ref =
      .ok (condition.normalized, nodes + condition.cost) := by
  cases readCondition_of_parse parsed with
  | @tests entries tests operators reads =>
    obtain ⟨members, shape, below⟩ := unfolds
    have below := (Graph.unfoldsEntries_iff graph entries members).mp below
    have keys := keys_unfolds below
    rw [keys] at operators
    have comparisons : ∀ key ∈ members.map Prod.fst, key ∈ comparisonOperators := by
      rw [← keys]
      exact fun key member => comparison_of_reads reads member
    have all : (members.map Prod.fst).filter isOperator = members.map Prod.fst := by
      rw [List.filter_eq_self]
      have each : ∀ name ∈ comparisonOperators, isOperator name = true := by decide
      exact fun key member => each key (comparisons key member)
    have some : members.map Prod.fst ≠ [] := by
      intro empty
      rw [empty] at operators
      contradiction
    have options : (members.map Prod.fst).contains "$options" = false := by
      rw [Bool.eq_false_iff]
      intro listed
      have absent : "$options" ∉ comparisonOperators := by decide
      exact absent (comparisons _ (List.contains_iff_mem.mp listed))
    have looped : normalizeOperators graph levels ancestors field nodes members =
        .ok (tests, nodes + (Condition.tests tests).cost) :=
      normalizeOperators_complete below reads (tests_depth_le.mp depth)
        (fun entry member => outside.child ⟨entry.1, member⟩) nodes within
    rw [normalizeFieldValue, shape]
    show (if ((members.map Prod.fst).filter isOperator).length = 0 then _ else _) = _
    rw [all, if_neg (by rwa [List.length_eq_zero_iff]), List.length_map, bne_self_eq_false]
    show (normalizeOperators graph levels ancestors field nodes members >>= fun _ => _) = _
    rw [looped]
    show (throwIf ((members.map Prod.fst).contains "$options" && _) _ >>= fun _ => _) = _
    rw [options]
    rfl
  | @equality entries stored plain found =>
    have stands := unfolds
    obtain ⟨members, shape, below⟩ := unfolds
    rw [keys_unfolds ((Graph.unfoldsEntries_iff graph entries members).mp below)] at plain
    rw [tests_depth_le] at depth
    have cost : (Condition.tests [("$eq", stored)]).cost = literalCost stored := rfl
    rw [cost] at within ⊢
    have cloned := cloneLiteral_complete found (depth _ List.mem_cons_self) stands outside
      field nodes within
    have none : ((members.map Prod.fst).filter isOperator).length = 0 := by
      rw [List.length_eq_zero_iff, List.filter_eq_nil_iff]
      exact List.any_eq_false.mp plain
    rw [normalizeFieldValue, shape]
    show (if ((members.map Prod.fst).filter isOperator).length = 0 then _ else _) = _
    rw [if_pos none, cloned]
    rfl
  | literal single found =>
    have cloned := cloneLiteral_complete found depth unfolds outside field nodes within
    rw [normalizeFieldValue]
    split
    · next shape =>
      rw [(Graph.unfolds_leaf shape tree).mp unfolds] at found
      contradiction
    · next members shape =>
      obtain ⟨entries, same, _⟩ := (Graph.unfolds_object shape tree).mp unfolds
      rw [same] at single
      contradiction
    · exact cloned

/-- Wherever a tree that reads as a filter stands, it is normalized within the limits. -/
def Normalizes (graph : Graph ι) (tree : Value) (query : Query) : Prop :=
  ∀ levels, 1 + queryDepth query ≤ levels →
    ∀ ancestors ref, graph.Unfolds tree ref → Outside graph ancestors tree →
    ∀ nodes, nodes + queryCost query ≤ maxFilterNodes →
    normalizeFilterObject graph levels ancestors nodes ref =
      .ok (query.normalized, nodes + queryCost query)

/-- The same for the value of a logical operator. -/
def NormalizesOperands (graph : Graph ι) (tree : Value) (queries : List Query) : Prop :=
  ∀ levels, operandsDepth queries ≤ levels →
    ∀ ancestors ref, graph.Unfolds tree ref → Outside graph ancestors tree →
    ∀ operator nodes, nodes + operandsCost queries ≤ maxFilterNodes →
    normalizeLogicalOperands graph (normalizeFilterObject graph levels ancestors) operator nodes
      ref = .ok (writeFilters writeNormalized queries, nodes + operandsCost queries)

theorem normalizesOperands_array {items : List Value} {queries : List Query}
    (normalizes : ∀ item ∈ items, ∀ query, parseFilter item = some query →
      Normalizes graph item query)
    (allowed : 0 < items.length ∧ items.length ≤ maxLogicalOperands)
    (parses : List.Forall₂ (fun item query => parseFilter item = some query) items queries) :
    NormalizesOperands graph (.array items) queries := by
  intro levels depth ancestors ref unfolds outside operator nodes within
  obtain ⟨refs, shape, below⟩ := unfolds
  have below := (Graph.unfoldsItems_iff graph items refs).mp below
  have count := below.length_eq
  rw [operandsCost_eq] at within ⊢
  have each : List.Forall₂ (fun item query => ∀ position count,
      count + queryCost query ≤ maxFilterNodes →
      normalizeOperand graph (normalizeFilterObject graph levels ancestors) operator
        position count item =
        .ok (query.normalized, count + queryCost query)) refs queries := by
    refine forall₂_meet ?_ below parses
    intro item listed child query member unfolds parsed position count within
    have shallow := operandsDepth_le.mp depth query member
    have inside : (Value.array items).Child item := listed
    have normalized := normalizes item listed query parsed levels shallow ancestors child
      unfolds (outside.child inside) count within
    obtain ⟨entries, rfl, _⟩ := parseFilter_eq_some.mp parsed
    obtain ⟨members, shape, _⟩ := unfolds
    rw [normalizeOperand, shape]
    exact normalized
  rw [normalizeLogicalOperands, shape]
  show (if refs.length = 0 then _ else if maxLogicalOperands < refs.length then _ else _) = _
  rw [if_neg (by omega), if_neg (by omega), traverse_complete each 0 nodes within,
    writeFilters_eq]
  rfl

theorem normalizeEntry_complete {key : String} {clause : Clause}
    (read : ReadClause key tree clause) (operands : ∀ queries,
      parseOperands tree = some queries → NormalizesOperands graph tree queries)
    (depth : clauseDepth clause ≤ levels)
    (unfolds : graph.Unfolds tree ref) (outside : Outside graph ancestors tree)
    (position nodes : Nat) (within : nodes + (1 + clauseCost clause) ≤ maxFilterNodes) :
    normalizeEntry graph levels ancestors (normalizeFilterObject graph levels ancestors) position
      nodes (key, ref) =
      .ok (writeEntry writeNormalized clause, nodes + (1 + clauseCost clause)) := by
  have counted : countFilterEntry nodes s!"filter.{key}" = .ok (nodes + 1) :=
    countFilterEntry_eq_ok.mpr ⟨rfl, by omega⟩
  cases read with
  | @logical queries logical found =>
    have cost : clauseCost (.logical key queries) = operandsCost queries := rfl
    rw [cost] at within ⊢
    have safe : dangerousKeys.contains key = false := by
      have each : ∀ name ∈ logicalOperators, dangerousKeys.contains name = false := by decide
      exact each key (List.contains_iff_mem.mp logical)
    have normalized := operands queries found levels depth ancestors ref unfolds outside key
      (nodes + 1) (by omega)
    rw [normalizeEntry]
    show (assertSafeKey key >>= fun _ => _) = _
    rw [assertSafeKey, throwIf_eq_ok.mpr safe]
    show (countFilterEntry nodes _ >>= fun _ => _) = _
    rw [counted]
    show (if logicalOperators.contains key = true then _ else _) = _
    rw [if_pos logical, normalized, ← Nat.add_assoc]
    rfl
  | @field condition notLogical plain safe found =>
    have cost : clauseCost (.field key condition) = condition.cost := rfl
    rw [cost] at within ⊢
    have normalized := normalizeFieldValue_complete found depth unfolds outside key
      (nodes + 1) (by omega)
    rw [normalizeEntry]
    show (assertSafeKey key >>= fun _ => _) = _
    rw [assertSafeKey, throwIf_eq_ok.mpr safe]
    show (countFilterEntry nodes _ >>= fun _ => _) = _
    rw [counted]
    show (if logicalOperators.contains key = true then _ else _) = _
    rw [notLogical, if_neg Bool.false_ne_true, throwIf_eq_ok.mpr plain]
    show (normalizeFieldValue graph levels ancestors key (nodes + 1) ref >>= fun _ => _) = _
    rw [normalized, ← Nat.add_assoc]
    rfl

theorem normalizes_object {entries : Entries} {query : Query}
    (operands : ∀ entry ∈ entries, ∀ queries, parseOperands entry.2 = some queries →
      NormalizesOperands graph entry.2 queries)
    (reads : List.Forall₂ (fun (entry : String × Value) clause =>
      ReadClause entry.1 entry.2 clause) entries query) :
    Normalizes graph (.object entries) query := by
  intro levels depth ancestors ref unfolds outside nodes within
  have stands := unfolds
  obtain ⟨members, shape, below⟩ := unfolds
  have below := (Graph.unfoldsEntries_iff graph entries members).mp below
  obtain ⟨levels, rfl⟩ : ∃ lower, levels = lower + 1 := ⟨levels - 1, by omega⟩
  rw [queryCost, clausesCost_eq] at within ⊢
  have each : List.Forall₂ (fun member clause => ∀ position count,
      count + (1 + clauseCost clause) ≤ maxFilterNodes →
      normalizeEntry graph levels (ref :: ancestors)
        (normalizeFilterObject graph levels (ref :: ancestors)) position count member =
        .ok (writeEntry writeNormalized clause, count + (1 + clauseCost clause)))
      members query := by
    refine forall₂_meet ?_ below reads
    rintro entry listed child clause member ⟨name, unfolds⟩ read position count within
    have shallow := queryDepth_le.mp (show queryDepth query ≤ levels by omega) clause member
    have inside : (Value.object entries).Child entry.2 := ⟨entry.1, listed⟩
    rw [name] at read
    exact normalizeEntry_complete read (operands entry listed) shallow unfolds
      (outside.below stands inside) position count within
  have entered : enterFilterNode nodes = .ok (nodes + 1) :=
    enterFilterNode_eq_ok.mpr ⟨rfl, by omega⟩
  have normalized := traverse_complete each 0 (nodes + 1) (by omega)
  rw [normalizeFilterObject, shape]
  show (assertAcyclic ancestors ref "filter" >>= fun _ => _) = _
  rw [outside.assertAcyclic stands "filter"]
  show (enterFilterNode nodes >>= fun _ => _) = _
  rw [entered]
  show (traverse _ 0 (nodes + 1) members >>= fun _ => _) = _
  rw [normalized, ← Nat.add_assoc, Query.normalized, writeEntries_eq]
  rfl

/-- A filter within the limits is normalized. -/
theorem normalizes {query : Query} (parsed : parseFilter tree = some query) :
    Normalizes graph tree query :=
  (parse_induction (fun _ _ => normalizes_object) (fun _ _ => normalizesOperands_array)
    tree).1 query parsed

/-- A filter that `sanitizeFilter` admits, with its meaning. -/
def Permits (graph : Graph ι) (filter : ι) (query : Query) : Prop :=
  ∃ tree, graph.Unfolds tree filter ∧ parseFilter tree = some query ∧
    queryDepth query ≤ maxFilterDepth ∧ queryCost query ≤ maxFilterNodes

/-- The pass from the root finishes on permitted filters only, with their normal form. -/
theorem normalizeFilterObject_eq_ok {filter : ι} {nodes : Nat} :
    normalizeFilterObject graph (maxFilterDepth + 1) [] 0 filter = .ok (value, nodes) ↔
      ∃ query, Permits graph filter query ∧ value = query.normalized ∧
        nodes = queryCost query := by
  constructor
  · intro run
    obtain ⟨query, ⟨tree, unfolds, parsed, depth⟩, written, charged, bounded⟩ :=
      normalizeFilterObject_sound (Nat.zero_le maxFilterNodes) run
    exact ⟨query, ⟨tree, unfolds, parsed, by omega, by omega⟩, written, by omega⟩
  · rintro ⟨query, ⟨tree, unfolds, parsed, depth, cost⟩, written, charged⟩
    have alone : Outside graph [] tree := fun _ member => absurd member List.not_mem_nil
    have run := normalizes parsed (maxFilterDepth + 1) (by omega) [] filter unfolds alone 0
      (by omega)
    rw [run, written, charged, Nat.zero_add]

end

end WebTsToolkit.MongooseRxdb
