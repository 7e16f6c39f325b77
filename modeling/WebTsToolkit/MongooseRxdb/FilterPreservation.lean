import Mathlib.Data.List.Nodup
import WebTsToolkit.MongooseRxdb.FilterTranslation

set_option autoImplicit false

namespace WebTsToolkit.MongooseRxdb

open Js Library

section Layout

def layoutShape : Value → Shape Value
  | .array items => .array items
  | .object entries =>
    if (entries.map Prod.fst).Nodup then .object entries else .leaf .undefined rfl
  | value => if single : value.isSingle = true then .leaf value single else .leaf .undefined rfl

theorem layoutShape_object (entries : Entries) : layoutShape (.object entries) =
    if (entries.map Prod.fst).Nodup then .object entries else .leaf .undefined rfl := rfl

/-- Every value in its own place: a tree's containers are the trees below it. -/
def layout : Graph Value where
  look := layoutShape
  distinct := by
    intro ref entries shape
    cases ref with
    | object members =>
      rw [layoutShape_object] at shape
      split at shape
      · next distinct =>
        injection shape with same
        exact same ▸ distinct
      · contradiction
    | _ => contradiction

/-- A tree that can be laid out: it has no holes, and keys of an object are distinct. -/
def LaidOut (tree : Value) : Prop :=
  layout.Unfolds tree tree

theorem laidOut_array {items : List Value} :
    LaidOut (.array items) ↔ ∀ item ∈ items, LaidOut item := by
  rw [LaidOut, Graph.unfolds_array (show layout.look (.array items) = .array items from rfl)]
  constructor
  · rintro ⟨others, same, below⟩
    rw [← Value.array.inj same, List.forall₂_same] at below
    exact below
  · intro below
    exact ⟨items, rfl, List.forall₂_same.mpr below⟩

theorem laidOut_object {entries : Entries} :
    LaidOut (.object entries) ↔
      (entries.map Prod.fst).Nodup ∧ ∀ entry ∈ entries, LaidOut entry.2 := by
  by_cases distinct : (entries.map Prod.fst).Nodup
  · have shape : layout.look (.object entries) = .object entries := if_pos distinct
    rw [LaidOut, Graph.unfolds_object shape]
    constructor
    · rintro ⟨others, same, below⟩
      rw [← Value.object.inj same, List.forall₂_same] at below
      exact ⟨distinct, fun entry member => (below entry member).2⟩
    · rintro ⟨_, below⟩
      refine ⟨entries, rfl, List.forall₂_same.mpr ?_⟩
      exact fun entry member => ⟨rfl, below entry member⟩
  · have shape : layout.look (.object entries) = .leaf .undefined rfl := if_neg distinct
    rw [LaidOut, Graph.unfolds_leaf shape]
    constructor
    · intro same
      contradiction
    · intro held
      exact absurd held.1 distinct

theorem laidOut_single {value : Value} (single : value.isSingle = true) : LaidOut value := by
  cases value with
  | array items | object entries | hole => contradiction
  | _ => exact ⟨rfl, rfl⟩

theorem laidOut_of_unfolds {ι : Type} {graph : Graph ι} {tree : Value} {ref : ι}
    (unfolds : graph.Unfolds tree ref) : LaidOut tree := by
  induction tree using Value.induction generalizing ref with
  | array items ih =>
    obtain ⟨refs, _, below⟩ := unfolds
    have below := (Graph.unfoldsItems_iff graph items refs).mp below
    rw [laidOut_array]
    intro item member
    obtain ⟨child, _, stands⟩ := exists_of_mem_right below.flip member
    exact ih item member stands
  | object entries ih =>
    obtain ⟨members, shape, below⟩ := unfolds
    have below := (Graph.unfoldsEntries_iff graph entries members).mp below
    rw [laidOut_object, keys_unfolds below]
    refine ⟨graph.distinct ref members shape, ?_⟩
    intro entry member
    obtain ⟨child, _, stands⟩ := exists_of_mem_right below.flip member
    exact ih entry member stands.2
  | classed kind fields ih => exact laidOut_single rfl
  | leaf value isLeaf =>
    cases value with
    | array items | object entries => contradiction
    | hole =>
      obtain ⟨single, _⟩ := unfolds
      contradiction
    | _ => exact laidOut_single rfl

theorem keys_stored {entries stored : Entries}
    (keeps : List.Forall₂ StoresEntry entries stored) :
    entries.map Prod.fst = stored.map Prod.fst :=
  map_eq_of_forall₂ (keeps.imp fun _ _ here => here.2.1)

theorem laidOut_stored {value stored : Value} (laid : LaidOut value)
    (found : storedLiteral value = some stored) : LaidOut stored := by
  induction value using Value.induction generalizing stored with
  | array items ih =>
    cases storedAs_of_stored found with
    | array few keeps =>
      rw [laidOut_array] at laid ⊢
      intro item member
      obtain ⟨source, listed, here⟩ := exists_of_mem_right keeps member
      exact ih source listed (laid source listed) here
    | leaf leaf => contradiction
  | object entries ih =>
    cases storedAs_of_stored found with
    | object keeps =>
      rw [laidOut_object] at laid ⊢
      refine ⟨keys_stored keeps ▸ laid.1, ?_⟩
      intro entry member
      obtain ⟨source, listed, _, _, here⟩ := exists_of_mem_right keeps member
      exact ih source listed (laid.2 source listed) here
    | leaf leaf => contradiction
  | classed kind fields ih => contradiction
  | leaf value isLeaf =>
    cases storedAs_of_stored found with
    | leaf leaf flat again hole =>
      cases stored with
      | array items | object entries => contradiction
      | hole =>
        rw [hole rfl] at laid
        obtain ⟨single, _⟩ := laid
        contradiction
      | _ => exact laidOut_single rfl
    | _ => contradiction

theorem laidOut_condition {value : Value} {condition : Condition} (laid : LaidOut value)
    (parsed : parseCondition value = some condition) : LaidOut condition.normalized := by
  cases readCondition_of_parse parsed with
  | @tests entries tests operators reads =>
    have keys : entries.map Prod.fst = tests.map Prod.fst :=
      map_eq_of_forall₂ (reads.imp fun _ _ here => here.2.1)
    rw [laidOut_object] at laid
    rw [Condition.normalized, laidOut_object]
    refine ⟨keys ▸ laid.1, ?_⟩
    intro test member
    obtain ⟨entry, listed, _, _, found⟩ := exists_of_mem_right reads member
    exact laidOut_stored (laid.2 entry listed) found
  | equality plain found =>
    rw [Condition.normalized, laidOut_object]
    refine ⟨List.nodup_singleton _, ?_⟩
    exact List.forall_mem_singleton.mpr (laidOut_stored laid found)
  | literal single found => exact laidOut_stored laid found

/-- The normal form of a filter can be laid out. -/
theorem laidOut_normalized {tree : Value} {query : Query} (laid : LaidOut tree)
    (parsed : parseFilter tree = some query) : LaidOut query.normalized := by
  refine (parse_induction (P := fun tree query => LaidOut tree → LaidOut query.normalized)
    (Q := fun tree queries => LaidOut tree →
      LaidOut (.array (writeFilters writeNormalized queries))) ?_ ?_ tree).1 query parsed laid
  · intro entries query operands reads laid
    rw [laidOut_object] at laid
    have each : List.Forall₂ (fun (entry : String × Value) clause =>
        entry.1 = (writeEntry writeNormalized clause).1 ∧
          (entry ∈ entries → LaidOut (writeEntry writeNormalized clause).2)) entries query := by
      refine reads.imp ?_
      intro entry clause read
      cases read with
      | logical logical found =>
        exact ⟨rfl, fun listed => operands entry listed _ found (laid.2 entry listed)⟩
      | field notLogical plain safe found =>
        exact ⟨rfl, fun listed => laidOut_condition (laid.2 entry listed) found⟩
    have keys : entries.map Prod.fst =
        (query.map (writeEntry writeNormalized)).map Prod.fst := by
      rw [List.map_map]
      exact map_eq_of_forall₂ (each.imp fun _ _ here => here.1)
    rw [Query.normalized, writeEntries_eq, laidOut_object]
    refine ⟨keys ▸ laid.1, ?_⟩
    intro written member
    obtain ⟨clause, listed, same⟩ := List.mem_map.mp member
    obtain ⟨entry, source, here⟩ := exists_of_mem_right each listed
    exact same ▸ here.2 source
  · intro items queries filters _ parses laid
    rw [writeFilters_eq, laidOut_array]
    intro written member
    obtain ⟨query, listed, same⟩ := List.mem_map.mp member
    obtain ⟨item, source, parsed⟩ := exists_of_mem_right parses listed
    exact same ▸ filters item source query parsed (laidOut_array.mp laid item source)

end Layout

section Rejections

/-- A value inside a filter that was read. -/
def Admitted (value : Value) : Prop :=
  (parseFilter value).isSome ∨ (parseOperands value).isSome ∨ (parseCondition value).isSome ∨
    (storedLiteral value).isSome

/-- What no admitted value is: a regex, an array that is too long, or an object with a
dangerous key. -/
def Harmful : Value → Prop
  | .regexp _ _ => True
  | .array items => maxLogicalOperands < items.length
  | .object entries => ∃ key ∈ entries.map Prod.fst, dangerousKeys.contains key = true
  | _ => False

theorem Admitted.array {items : List Value} (admitted : Admitted (.array items)) :
    items.length ≤ maxLogicalOperands ∧ ∀ item ∈ items, Admitted item := by
  have literal : (storedLiteral (.array items)).isSome → items.length ≤ maxLogicalOperands ∧
      ∀ item ∈ items, Admitted item := by
    intro some
    obtain ⟨stored, found⟩ := Option.isSome_iff_exists.mp some
    cases storedAs_of_stored found with
    | array few keeps =>
      refine ⟨few, ?_⟩
      intro item member
      obtain ⟨value, _, here⟩ := exists_of_mem_right keeps.flip member
      exact Or.inr (Or.inr (Or.inr (Option.isSome_of_eq_some here)))
    | leaf leaf => contradiction
  rcases admitted with filter | operands | condition | stored
  · contradiction
  · obtain ⟨queries, parsed⟩ := Option.isSome_iff_exists.mp operands
    obtain ⟨_, same, allowed, parses⟩ := parseOperands_eq_some.mp parsed
    cases same
    refine ⟨allowed.2, ?_⟩
    intro item member
    obtain ⟨query, _, here⟩ := exists_of_mem_right parses.flip member
    exact Or.inl (Option.isSome_of_eq_some here)
  · rw [parseCondition_single rfl, Option.isSome_map] at condition
    exact literal condition
  · exact literal stored

theorem Admitted.object {entries : Entries} (admitted : Admitted (.object entries)) :
    ∀ entry ∈ entries, dangerousKeys.contains entry.1 = false ∧ Admitted entry.2 := by
  have literal : ∀ stored, storedLiteral (.object entries) = some stored →
      ∀ entry ∈ entries, dangerousKeys.contains entry.1 = false ∧ Admitted entry.2 := by
    intro stored found entry member
    cases storedAs_of_stored found with
    | object keeps =>
      obtain ⟨_, _, safe, _, here⟩ := exists_of_mem_right keeps.flip member
      exact ⟨safe, Or.inr (Or.inr (Or.inr (Option.isSome_of_eq_some here)))⟩
    | leaf leaf => contradiction
  rcases admitted with filter | operands | condition | stored
  · intro entry member
    obtain ⟨query, parsed⟩ := Option.isSome_iff_exists.mp filter
    obtain ⟨clause, _, here⟩ := exists_of_mem_right (parseClauses_iff.mp parsed).flip member
    cases readClause_of_parse here with
    | logical logical found =>
      have each : ∀ name ∈ logicalOperators, dangerousKeys.contains name = false := by decide
      exact ⟨each entry.1 (List.contains_iff_mem.mp logical),
        Or.inr (Or.inl (Option.isSome_of_eq_some found))⟩
    | field notLogical plain safe found =>
      exact ⟨safe, Or.inr (Or.inr (Or.inl (Option.isSome_of_eq_some found)))⟩
  · contradiction
  · obtain ⟨condition, parsed⟩ := Option.isSome_iff_exists.mp condition
    cases readCondition_of_parse parsed with
    | tests operators reads =>
      intro entry member
      obtain ⟨test, _, comparison, _, found⟩ := exists_of_mem_right reads.flip member
      have each : ∀ name ∈ comparisonOperators, dangerousKeys.contains name = false := by decide
      exact ⟨each entry.1 comparison,
        Or.inr (Or.inr (Or.inr (Option.isSome_of_eq_some found)))⟩
    | equality plain found => exact literal _ found
    | literal single found => contradiction
  · obtain ⟨value, found⟩ := Option.isSome_iff_exists.mp stored
    exact literal value found

theorem Admitted.child {tree child : Value} (admitted : Admitted tree)
    (inside : tree.Child child) : Admitted child := by
  cases tree with
  | array items => exact admitted.array.2 child inside
  | object entries =>
    obtain ⟨key, member⟩ := inside
    exact (admitted.object _ member).2
  | _ => exact absurd inside id

theorem Admitted.part {tree part : Value} (admitted : Admitted tree)
    (inside : Relation.ReflTransGen Value.Child tree part) : Admitted part := by
  induction inside with
  | refl => exact admitted
  | tail _ held ih => exact ih.child held

theorem Admitted.harmless {value : Value} (admitted : Admitted value) : ¬Harmful value := by
  cases value with
  | regexp source flags =>
    rcases admitted with filter | operands | condition | stored <;> contradiction
  | array items =>
    intro long
    have few := admitted.array.1
    have long : maxLogicalOperands < items.length := long
    omega
  | object entries =>
    rintro ⟨key, listed, dangerous⟩
    obtain ⟨entry, member, same⟩ := List.mem_map.mp listed
    have safe := (admitted.object entry member).1
    rw [same, dangerous] at safe
    contradiction
  | _ => exact id

variable {ι : Type}

/-- The filter, or an operand of a logical operator at such a position. -/
inductive LogicalPosition (graph : Graph ι) (filter : ι) : ι → Prop
  | root : LogicalPosition graph filter filter
  | operand {position value item : ι} {members : List (String × ι)} {operator : String}
      {items : List ι} (above : LogicalPosition graph filter position)
      (shape : graph.look position = .object members) (listed : (operator, value) ∈ members)
      (logical : logicalOperators.contains operator = true)
      (operands : graph.look value = .array items) (member : item ∈ items) :
      LogicalPosition graph filter item

/-- What a filter may not hold. -/
inductive Forbidden (graph : Graph ι) (filter : ι) : Prop
  | regexp {part : ι} {source flags : String}
      {single : (Value.regexp source flags).isSingle = true}
      (inside : graph.Reaches filter part)
      (shape : graph.look part = .leaf (.regexp source flags) single)
  | dangerousKey {part : ι} {members : List (String × ι)} {key : String}
      (inside : graph.Reaches filter part) (shape : graph.look part = .object members)
      (listed : key ∈ members.map Prod.fst) (dangerous : dangerousKeys.contains key = true)
  | operands {part : ι} {items : List ι} (inside : graph.Reaches filter part)
      (shape : graph.look part = .array items) (long : maxLogicalOperands < items.length)
  | cycle {part : ι} (inside : graph.Reaches filter part)
      (cycle : Relation.TransGen graph.Holds part part)
  | regexOperator {position value : ι} {members tests : List (String × ι)}
      {field operator : String} (logical : LogicalPosition graph filter position)
      (shape : graph.look position = .object members) (listed : (field, value) ∈ members)
      (notLogical : logicalOperators.contains field = false)
      (object : graph.look value = .object tests) (operates : operator ∈ tests.map Prod.fst)
      (regex : operator = "$regex" ∨ operator = "$options")
  | depth {tree : Value} {query : Query} (unfolds : graph.Unfolds tree filter)
      (parsed : parseFilter tree = some query) (deep : maxFilterDepth < queryDepth query)
  | nodes {tree : Value} {query : Query} (unfolds : graph.Unfolds tree filter)
      (parsed : parseFilter tree = some query) (costly : maxFilterNodes < queryCost query)

variable {graph : Graph ι} {query : Query} {tree : Value}

/-- An entry of a filter that was read, met through the graph. -/
theorem exists_clause {position value : ι} {members : List (String × ι)} {key : String}
    (unfolds : graph.Unfolds tree position) (parsed : parseFilter tree = some query)
    (shape : graph.look position = .object members) (listed : (key, value) ∈ members) :
    ∃ below clause, graph.Unfolds below value ∧
      parseClause key (parseOperands below) below = some clause := by
  obtain ⟨entries, same, stands⟩ := (Graph.unfolds_object shape tree).mp unfolds
  subst same
  obtain ⟨entry, source, here⟩ := exists_of_mem_right stands listed
  obtain ⟨clause, _, parsedEntry⟩ :=
    exists_of_mem_right (parseClauses_iff.mp parsed).flip source
  have parsedEntry : parseClause entry.1 (parseOperands entry.2) entry.2 = some clause :=
    parsedEntry
  rw [show entry.1 = key from here.1] at parsedEntry
  exact ⟨entry.2, clause, here.2, parsedEntry⟩

theorem LogicalPosition.parsed {filter position : ι}
    (logical : LogicalPosition graph filter position) (unfolds : graph.Unfolds tree filter)
    (parsed : parseFilter tree = some query) :
    ∃ below inner, graph.Unfolds below position ∧ parseFilter below = some inner := by
  induction logical with
  | root => exact ⟨tree, query, unfolds, parsed⟩
  | operand above shape listed logical operands member ih =>
    obtain ⟨below, inner, stands, parsedAbove⟩ := ih
    obtain ⟨value, clause, stands', parsedClause⟩ :=
      exists_clause stands parsedAbove shape listed
    rw [parseClause, if_pos logical] at parsedClause
    obtain ⟨queries, found, _⟩ := Option.map_eq_some_iff.mp parsedClause
    obtain ⟨items, same, standsItems⟩ := (Graph.unfolds_array operands value).mp stands'
    subst same
    obtain ⟨_, same, _, parses⟩ := parseOperands_eq_some.mp found
    cases same
    obtain ⟨item, source, standsItem⟩ := exists_of_mem_right standsItems member
    obtain ⟨operandQuery, _, parsedItem⟩ := exists_of_mem_right parses.flip source
    exact ⟨item, operandQuery, standsItem, parsedItem⟩

theorem exists_admitted {filter part : ι} (unfolds : graph.Unfolds tree filter)
    (admitted : Admitted tree) (inside : graph.Reaches filter part) :
    ∃ below, graph.Unfolds below part ∧ Admitted below := by
  obtain ⟨below, inner, stands⟩ := Graph.exists_part unfolds inside
  exact ⟨below, stands, admitted.part inner⟩

/-- A permitted filter holds nothing forbidden. -/
theorem not_forbidden {filter : ι} (permits : Permits graph filter query) :
    ¬Forbidden graph filter := by
  obtain ⟨tree, unfolds, parsed, depth, cost⟩ := permits
  have admitted : Admitted tree := Or.inl (Option.isSome_of_eq_some parsed)
  intro forbidden
  cases forbidden with
  | regexp inside shape =>
    obtain ⟨below, stands, held⟩ := exists_admitted unfolds admitted inside
    have same := (Graph.unfolds_leaf shape below).mp stands
    subst same
    exact held.harmless trivial
  | dangerousKey inside shape listed dangerous =>
    obtain ⟨below, stands, held⟩ := exists_admitted unfolds admitted inside
    obtain ⟨entries, same, standsEntries⟩ := (Graph.unfolds_object shape below).mp stands
    subst same
    rw [← keys_unfolds standsEntries] at listed
    exact held.harmless ⟨_, listed, dangerous⟩
  | operands inside shape long =>
    obtain ⟨below, stands, held⟩ := exists_admitted unfolds admitted inside
    obtain ⟨items, same, standsItems⟩ := (Graph.unfolds_array shape below).mp stands
    subst same
    rw [← standsItems.length_eq] at long
    exact held.harmless long
  | cycle inside cycle =>
    obtain ⟨below, stands, _⟩ := exists_admitted unfolds admitted inside
    exact Graph.acyclic_of_unfolds stands cycle
  | @regexOperator _ _ _ _ _ operator logical shape listed notLogical object operates regex =>
    obtain ⟨above, inner, stands, parsedAbove⟩ := logical.parsed unfolds parsed
    obtain ⟨below, clause, stands', parsedClause⟩ :=
      exists_clause stands parsedAbove shape listed
    obtain ⟨entries, same, standsEntries⟩ := (Graph.unfolds_object object below).mp stands'
    subst same
    rw [← keys_unfolds standsEntries] at operates
    have refused : isOperator operator = true ∧ operator ∉ comparisonOperators := by
      rcases regex with same | same
      · exact same ▸ by decide
      · exact same ▸ by decide
    cases readClause_of_parse parsedClause with
    | logical logical found => exact absurd (logical.symm.trans notLogical) (by decide)
    | field _ _ _ found =>
      cases readCondition_of_parse found with
      | tests operators reads => exact refused.2 (comparison_of_reads reads operates)
      | equality plain found => exact List.any_eq_false.mp plain _ operates refused.1
      | literal single found => contradiction
  | depth unfolds' parsed' deep =>
    have same := Graph.unfolds_unique graph tree _ filter unfolds unfolds'
    subst same
    rw [parsed] at parsed'
    rw [← Option.some.inj parsed'] at deep
    omega
  | nodes unfolds' parsed' costly =>
    have same := Graph.unfolds_unique graph tree _ filter unfolds unfolds'
    subst same
    rw [parsed] at parsed'
    rw [← Option.some.inj parsed'] at costly
    omega

/-- Nothing is forbidden about a filter left out. -/
theorem not_forbidden_undefined {filter : ι} {single : Value.undefined.isSingle = true}
    (shape : graph.look filter = .leaf .undefined single) : ¬Forbidden graph filter := by
  have unfolds : graph.Unfolds .undefined filter := (Graph.unfolds_leaf shape _).mpr rfl
  have alone : ∀ part, graph.Reaches filter part → part = filter := by
    intro part inside
    induction inside with
    | refl => rfl
    | tail _ held ih =>
      rw [ih, Graph.Holds, shape] at held
      exact absurd held id
  have noPosition : ∀ position members, LogicalPosition graph filter position →
      graph.look position ≠ .object members := by
    intro position members logical
    induction logical generalizing members with
    | root =>
      rw [shape]
      intro same
      contradiction
    | operand above shape' _ _ _ _ ih => exact absurd shape' (ih _)
  intro forbidden
  cases forbidden with
  | regexp inside other =>
    rw [alone _ inside, shape] at other
    injection other with same
    contradiction
  | dangerousKey inside other _ _ | operands inside other _ =>
    rw [alone _ inside, shape] at other
    contradiction
  | cycle inside cycle =>
    rw [alone _ inside] at cycle
    exact Graph.acyclic_of_unfolds unfolds cycle
  | regexOperator logical other _ _ _ _ _ => exact noPosition _ _ logical other
  | depth unfolds' parsed _ | nodes unfolds' parsed _ =>
    rw [(Graph.unfolds_leaf shape _).mp unfolds'] at parsed
    contradiction

end Rejections

section Preservation

variable {ι : Type} [DecidableEq ι] {graph : Graph ι} {filter : ι} {query : Query}

theorem sanitizeFilter_eq_ok {clean : Value} :
    sanitizeFilter graph filter = .ok clean ↔
      (graph.Unfolds .undefined filter ∧ clean = .undefined) ∨
        ∃ query, Permits graph filter query ∧ clean = query.normalized := by
  have defined : ∀ query, Permits graph filter query → ¬graph.Unfolds .undefined filter := by
    rintro query ⟨tree, unfolds, parsed, _⟩ undefined
    rw [Graph.unfolds_unique graph tree _ filter unfolds undefined] at parsed
    contradiction
  rw [sanitizeFilter]
  split
  · next single shape =>
    have undefined := (Graph.unfolds_leaf shape .undefined).mpr rfl
    constructor
    · intro same
      exact Or.inl ⟨undefined, (Except.ok.inj same).symm⟩
    · rintro (⟨_, same⟩ | ⟨query, permits, _⟩)
      · rw [same]
      · exact absurd undefined (defined query permits)
  · next other =>
    constructor
    · intro run
      obtain ⟨⟨value, nodes⟩, normalized, same⟩ := map_eq_ok run
      obtain ⟨query, permits, written, _⟩ := normalizeFilterObject_eq_ok.mp normalized
      exact Or.inr ⟨query, permits, same.symm.trans written⟩
    · rintro (⟨undefined, _⟩ | ⟨query, permits, written⟩)
      · obtain ⟨single, shape⟩ := undefined
        exact absurd shape (other single)
      · rw [normalizeFilterObject_eq_ok.mpr ⟨query, permits, rfl, rfl⟩, written]
        rfl

theorem translateFilter_eq_ok {selector : Value} :
    translateFilter graph filter = .ok selector ↔
      (graph.Unfolds .undefined filter ∧ selector = .object []) ∨
        ∃ query, Permits graph filter query ∧ (∀ items ∈ idArrays query, items = []) ∧
          selector = .object (writeEntries writeTranslated query) := by
  have defined : ∀ query, Permits graph filter query → ∀ value single,
      graph.look filter ≠ .leaf value single := by
    rintro query ⟨tree, unfolds, parsed, _⟩ value single shape
    obtain ⟨entries, same, _⟩ := parseFilter_eq_some.mp parsed
    rw [(Graph.unfolds_leaf shape tree).mp unfolds] at same
    subst same
    contradiction
  rw [translateFilter]
  split
  · next single shape =>
    have undefined := (Graph.unfolds_leaf shape .undefined).mpr rfl
    constructor
    · intro same
      exact Or.inl ⟨undefined, (Except.ok.inj same).symm⟩
    · rintro (⟨_, same⟩ | ⟨query, permits, _⟩)
      · rw [same]
      · exact absurd shape (defined query permits _ single)
  · next single shape =>
    constructor
    · intro same
      contradiction
    · rintro (⟨undefined, _⟩ | ⟨query, permits, _⟩)
      · have same := (Graph.unfolds_leaf shape _).mp undefined
        contradiction
      · exact absurd shape (defined query permits _ single)
  · next other _ =>
    constructor
    · intro run
      obtain ⟨⟨value, nodes⟩, normalized, translated⟩ := bind_eq_ok run
      obtain ⟨query, permits, written, _⟩ := normalizeFilterObject_eq_ok.mp normalized
      have reading := permits
      obtain ⟨tree, unfolds, parsed, _⟩ := reading
      change translateNormalized value = .ok selector at translated
      rw [written] at translated
      have outcome := (translates_of_parse parsed selector).mp translated
      exact Or.inr ⟨query, permits, outcome⟩
    · rintro (⟨undefined, _⟩ | ⟨query, permits, outcome⟩)
      · obtain ⟨single, shape⟩ := undefined
        exact absurd shape (other single)
      · rw [normalizeFilterObject_eq_ok.mpr ⟨query, permits, rfl, rfl⟩]
        obtain ⟨tree, unfolds, parsed, _⟩ := permits
        exact (translates_of_parse parsed selector).mpr outcome

/-- What a filter says: a filter left out says nothing. -/
def filterMeaning : Value → Option Query
  | .undefined => some []
  | tree => parseFilter tree

/-- Compiling a filter keeps what it says. A result of `sanitizeFilter` is passed on as any
objects that stand for it. -/
structure Preserves (graph : Graph ι) (filter : ι) : Prop where
  laidOut : ∀ clean, sanitizeFilter graph filter = .ok clean → LaidOut clean
  idempotent : ∀ clean, sanitizeFilter graph filter = .ok clean →
    ∀ {κ : Type} [DecidableEq κ] (heap : Graph κ) (copy : κ), heap.Unfolds clean copy →
      sanitizeFilter heap copy = .ok clean
  agrees : ∀ selector, translateFilter graph filter = .ok selector ↔
    ∃ clean, sanitizeFilter graph filter = .ok clean ∧
      ∀ {κ : Type} [DecidableEq κ] (heap : Graph κ) (copy : κ), heap.Unfolds clean copy →
        translateFilter heap copy = .ok selector
  compiled : ∀ selector, translateFilter graph filter = .ok selector →
    ∃ tree query, graph.Unfolds tree filter ∧ filterMeaning tree = some query ∧
      selector = query.selector
  rejected : Forbidden graph filter → (∀ clean, sanitizeFilter graph filter ≠ .ok clean) ∧
    ∀ selector, translateFilter graph filter ≠ .ok selector

omit [DecidableEq ι] in
theorem Permits.unique {query query' : Query} (permits : Permits graph filter query)
    (permits' : Permits graph filter query') : query = query' := by
  obtain ⟨tree, unfolds, parsed, _⟩ := permits
  obtain ⟨tree', unfolds', parsed', _⟩ := permits'
  rw [Graph.unfolds_unique graph tree tree' filter unfolds unfolds', parsed'] at parsed
  exact (Option.some.inj parsed).symm

omit [DecidableEq ι] in
/-- A copy of the normal form is permitted, and means the same. -/
theorem Permits.copy (permits : Permits graph filter query) {κ : Type} {heap : Graph κ} {copy : κ}
    (unfolds : heap.Unfolds query.normalized copy) : Permits heap copy query := by
  obtain ⟨tree, _, parsed, depth, cost⟩ := permits
  exact ⟨query.normalized, unfolds, parseFilter_normalized parsed, depth, cost⟩

omit [DecidableEq ι] in
theorem Permits.laidOut (permits : Permits graph filter query) : LaidOut query.normalized := by
  obtain ⟨tree, unfolds, parsed, _⟩ := permits
  exact laidOut_normalized (laidOut_of_unfolds unfolds) parsed

omit [DecidableEq ι] in
theorem Permits.not_undefined (permits : Permits graph filter query) :
    ¬graph.Unfolds .undefined filter := by
  obtain ⟨tree, unfolds, parsed, _⟩ := permits
  intro undefined
  rw [Graph.unfolds_unique graph tree _ filter unfolds undefined] at parsed
  contradiction

/-- The two passes agree whatever the filter. -/
theorem translateFilter_agrees (graph : Graph ι) (filter : ι) (selector : Value) :
    translateFilter graph filter = .ok selector ↔
      ∃ clean, sanitizeFilter graph filter = .ok clean ∧
        ∀ {κ : Type} [DecidableEq κ] (heap : Graph κ) (copy : κ), heap.Unfolds clean copy →
          translateFilter heap copy = .ok selector := by
  constructor
  · intro translated
    rcases translateFilter_eq_ok.mp translated with ⟨undefined, same⟩ | ⟨query, permits, outcome⟩
    · refine ⟨.undefined, sanitizeFilter_eq_ok.mpr (Or.inl ⟨undefined, rfl⟩), ?_⟩
      exact fun heap copy unfolds => translateFilter_eq_ok.mpr (Or.inl ⟨unfolds, same⟩)
    · refine ⟨query.normalized, sanitizeFilter_eq_ok.mpr (Or.inr ⟨query, permits, rfl⟩), ?_⟩
      intro κ _ heap copy unfolds
      exact translateFilter_eq_ok.mpr (Or.inr ⟨query, permits.copy unfolds, outcome⟩)
  · rintro ⟨clean, sanitized, copies⟩
    let _ : DecidableEq Value := Classical.decEq Value
    rcases sanitizeFilter_eq_ok.mp sanitized with ⟨undefined, same⟩ | ⟨query, permits, same⟩
    · subst same
      have translated := copies layout .undefined (laidOut_single rfl)
      rcases translateFilter_eq_ok.mp translated with ⟨_, empty⟩ | ⟨query, permits, _⟩
      · exact translateFilter_eq_ok.mpr (Or.inl ⟨undefined, empty⟩)
      · exact absurd (laidOut_single rfl) permits.not_undefined
    · subst same
      have translated := copies layout query.normalized permits.laidOut
      have copied : Permits layout query.normalized query := permits.copy permits.laidOut
      rcases translateFilter_eq_ok.mp translated with ⟨undefined, _⟩ | ⟨other, permits', outcome⟩
      · exact absurd undefined copied.not_undefined
      · rw [permits'.unique copied] at outcome
        exact translateFilter_eq_ok.mpr (Or.inr ⟨query, permits, outcome⟩)

/-- Where the only arrays at an `_id` are empty, their tests are lost. -/
theorem not_preserves (permits : Permits graph filter query) (member : [] ∈ idArrays query)
    (empty : ∀ items ∈ idArrays query, items = []) : ¬Preserves graph filter := by
  intro preserves
  have translated := translateFilter_eq_ok.mpr (Or.inr ⟨query, permits, empty, rfl⟩)
  obtain ⟨tree, meaning, unfolds, meant, same⟩ := preserves.compiled _ translated
  obtain ⟨tree', unfolds', parsed, _⟩ := permits
  have trees := Graph.unfolds_unique graph tree tree' filter unfolds unfolds'
  subst trees
  obtain ⟨entries, object, _⟩ := parseFilter_eq_some.mp parsed
  have means : filterMeaning tree = parseFilter tree := by
    rw [object]
    rfl
  rw [means, parsed] at meant
  rw [← Option.some.inj meant] at same
  exact (translated_eq_selected parsed empty).mp (Value.object.inj same) member

/-- Compilation keeps what a filter says, unless empty arrays are the only arrays that it
compares an `_id` with: then their tests are lost. -/
theorem filter_preserved_iff (graph : Graph ι) (filter : ι) :
    Preserves graph filter ↔ ∀ query, Permits graph filter query → [] ∈ idArrays query →
      ∃ items ∈ idArrays query, items ≠ [] := by
  constructor
  · intro preserves query permits member
    by_contra none
    have empty : ∀ items ∈ idArrays query, items = [] := by
      intro items listed
      by_contra some
      exact none ⟨items, listed, some⟩
    exact not_preserves permits member empty preserves
  · intro condition
    refine ⟨?_, ?_, translateFilter_agrees graph filter, ?_, ?_⟩
    · intro clean sanitized
      rcases sanitizeFilter_eq_ok.mp sanitized with ⟨_, same⟩ | ⟨query, permits, same⟩
      · rw [same]
        exact laidOut_single rfl
      · rw [same]
        exact permits.laidOut
    · intro clean sanitized κ _ heap copy unfolds
      rcases sanitizeFilter_eq_ok.mp sanitized with ⟨_, same⟩ | ⟨query, permits, same⟩
      · rw [same] at unfolds
        exact sanitizeFilter_eq_ok.mpr (Or.inl ⟨unfolds, same⟩)
      · rw [same] at unfolds
        exact sanitizeFilter_eq_ok.mpr (Or.inr ⟨query, permits.copy unfolds, same⟩)
    · intro selector translated
      rcases translateFilter_eq_ok.mp translated with ⟨unfolds, same⟩ | ⟨query, permits, outcome⟩
      · exact ⟨.undefined, [], unfolds, rfl, same⟩
      · have absent : [] ∉ idArrays query := by
          intro member
          obtain ⟨items, listed, some⟩ := condition query permits member
          exact some (outcome.1 items listed)
        obtain ⟨tree, unfolds, parsed, _⟩ := permits
        refine ⟨tree, query, unfolds, ?_, ?_⟩
        · obtain ⟨entries, object, _⟩ := parseFilter_eq_some.mp parsed
          rw [object] at parsed ⊢
          exact parsed
        · rw [outcome.2, (translated_eq_selected parsed outcome.1).mpr absent]
          rfl
    · intro forbidden
      have refused : ∀ query, ¬Permits graph filter query :=
        fun query permits => not_forbidden permits forbidden
      have defined : ¬graph.Unfolds .undefined filter := by
        rintro ⟨single, shape⟩
        exact not_forbidden_undefined shape forbidden
      refine ⟨?_, ?_⟩
      · intro clean sanitized
        rcases sanitizeFilter_eq_ok.mp sanitized with ⟨undefined, _⟩ | ⟨query, permits, _⟩
        · exact defined undefined
        · exact refused query permits
      · intro selector translated
        rcases translateFilter_eq_ok.mp translated with ⟨undefined, _⟩ | ⟨query, permits, _⟩
        · exact defined undefined
        · exact refused query permits

end Preservation

/-- `{ _id: [] }`. -/
def emptyIdFilter : Graph Bool where
  look root := if root then .object [("_id", false)] else .array []
  distinct := by
    intro root entries shape
    cases root with
    | false => contradiction
    | true =>
      injection shape with same
      rw [← same]
      exact List.nodup_singleton _

/-- The filter that compares `_id` with an empty array is compiled to one that tests nothing. -/
theorem empty_id_array_lost : ¬Preserves emptyIdFilter true := by
  have permits : Permits emptyIdFilter true [.field "_id" (.literal (.array []))] :=
    ⟨.object [("_id", .array [])], ⟨_, rfl, rfl, ⟨_, rfl, trivial⟩, trivial⟩, rfl, by decide,
      by decide⟩
  exact not_preserves permits List.mem_cons_self
    (fun items member => List.mem_singleton.mp member)

end WebTsToolkit.MongooseRxdb
