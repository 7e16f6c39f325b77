import WebTsToolkit.AccessRouter.RequestComplexity

set_option autoImplicit false

namespace WebTsToolkit.AccessRouter.RequestComplexity

open Js

variable {limits : RequestLimits} {scope : ComplexityScope}

instance : Add Counters where
  add first second :=
    { nodes := first.nodes + second.nodes
      logicalClauses := first.logicalClauses + second.logicalClauses
      includeCount := first.includeCount + second.includeCount
      subQueryCount := first.subQueryCount + second.subQueryCount }

@[simp] theorem add_nodes (first second : Counters) :
    (first + second).nodes = first.nodes + second.nodes := rfl

@[simp] theorem add_logicalClauses (first second : Counters) :
    (first + second).logicalClauses = first.logicalClauses + second.logicalClauses := rfl

@[simp] theorem add_includeCount (first second : Counters) :
    (first + second).includeCount = first.includeCount + second.includeCount := rfl

@[simp] theorem add_subQueryCount (first second : Counters) :
    (first + second).subQueryCount = first.subQueryCount + second.subQueryCount := rfl

theorem counters_ext {first second : Counters} (nodes : first.nodes = second.nodes)
    (logicalClauses : first.logicalClauses = second.logicalClauses)
    (includeCount : first.includeCount = second.includeCount)
    (subQueryCount : first.subQueryCount = second.subQueryCount) : first = second := by
  cases first
  cases second
  simp_all

theorem add_add (first second third : Counters) :
    first + second + third = first + (second + third) := by
  apply counters_ext <;> simp [Nat.add_assoc]

/-- No counter is over its limit. -/
structure Fits (limits : RequestLimits) (scope : ComplexityScope) (counters : Counters) : Prop where
  nodes : counters.nodes ≤ limits.maxNodes
  logical : counters.logicalClauses ≤ limits.maxLogicalClauses
  subQueries : counters.subQueryCount ≤ limits.maxSubQueryCount
  includes : scope = .request → counters.includeCount ≤ limits.maxIncludeCount

/-- Counters only grow, so the last ones decide. -/
theorem Fits.of_add {first second : Counters} (fits : Fits limits scope (first + second)) :
    Fits limits scope first where
  nodes := by have := fits.nodes; simp at this; omega
  logical := by have := fits.logical; simp at this; omega
  subQueries := by have := fits.subQueries; simp at this; omega
  includes := by
    intro request
    have := fits.includes request
    simp at this
    omega

/-- What the limits ask of one node alone. -/
structure Passes (limits : RequestLimits) (node : Node) : Prop where
  depth : node.depth ≤ limits.maxDepth
  keys : ∀ entry ∈ node.entries, isUnsafeKey entry.1 = false
  inValues : node.parentKey = some "$in" → node.items.length ≤ limits.maxInValues

def includesOf (scope : ComplexityScope) (key : String) (child : Value) : Nat :=
  if scope = .request && key = "include" then includeSize child else 0

/-- What one entry adds to the counters, apart from its value. -/
def entryCost (scope : ComplexityScope) (entry : String × Value) : Counters :=
  { includeCount := includesOf scope entry.1 entry.2
    subQueryCount := if entry.1 = "$$sq" then 1 else 0 }

def entriesCost (scope : ComplexityScope) : Entries → Counters
  | [] => {}
  | entry :: rest => entryCost scope entry + entriesCost scope rest

/-- What one node adds to the counters, apart from those below it. -/
def nodeCost (scope : ComplexityScope) (node : Node) : Counters :=
  { nodes := 1, logicalClauses := node.logicalClauses } + entriesCost scope node.entries

def cost (scope : ComplexityScope) : List Node → Counters
  | [] => {}
  | node :: rest => nodeCost scope node + cost scope rest

theorem add_empty (counters : Counters) : counters + {} = counters := rfl

theorem empty_add (counters : Counters) : ({} : Counters) + counters = counters := by
  apply counters_ext <;> simp

theorem cost_append (first second : List Node) :
    cost scope (first ++ second) = cost scope first + cost scope second := by
  induction first with
  | nil => simp [cost, empty_add]
  | cons node rest ih => simp [cost, ih, add_add]

theorem entriesCost_nodes (entries : Entries) : (entriesCost scope entries).nodes = 0 := by
  induction entries with
  | nil => rfl
  | cons entry rest ih => simp [entriesCost, entryCost, ih]

theorem entriesCost_logicalClauses (entries : Entries) :
    (entriesCost scope entries).logicalClauses = 0 := by
  induction entries with
  | nil => rfl
  | cons entry rest ih => simp [entriesCost, entryCost, ih]

theorem entriesCost_subQueryCount (entries : Entries) :
    (entriesCost scope entries).subQueryCount =
      (entries.filter fun entry => entry.1 = "$$sq").length := by
  induction entries with
  | nil => rfl
  | cons entry rest ih =>
    by_cases subQuery : entry.1 = "$$sq"
    · simp [entriesCost, entryCost, ih, subQuery, Nat.add_comm]
    · simp [entriesCost, entryCost, ih, subQuery]

theorem entriesCost_includeCount (entries : Entries) :
    (entriesCost .request entries).includeCount =
      ((entries.filter fun entry => entry.1 = "include").map fun entry =>
        includeSize entry.2).sum := by
  induction entries with
  | nil => rfl
  | cons entry rest ih =>
    by_cases included : entry.1 = "include"
    · simp [entriesCost, entryCost, includesOf, ih, included]
    · simp [entriesCost, entryCost, includesOf, ih, included]

theorem cost_nodes (nodes : List Node) : (cost scope nodes).nodes = nodes.length := by
  induction nodes with
  | nil => rfl
  | cons node rest ih => simp [cost, nodeCost, entriesCost_nodes, ih, Nat.add_comm]

theorem cost_logicalClauses (nodes : List Node) :
    (cost scope nodes).logicalClauses = (nodes.map Node.logicalClauses).sum := by
  induction nodes with
  | nil => rfl
  | cons node rest ih => simp [cost, nodeCost, entriesCost_logicalClauses, ih]

theorem cost_subQueryCount (nodes : List Node) :
    (cost scope nodes).subQueryCount = (nodes.map Node.subQueryCount).sum := by
  induction nodes with
  | nil => rfl
  | cons node rest ih =>
    simp [cost, nodeCost, entriesCost_subQueryCount, ih, Node.subQueryCount]

theorem cost_includeCount (nodes : List Node) :
    (cost .request nodes).includeCount = (nodes.map Node.includeCount).sum := by
  induction nodes with
  | nil => rfl
  | cons node rest ih =>
    simp [cost, nodeCost, entriesCost_includeCount, ih, Node.includeCount]

theorem bind_eq_ok_iff {α β : Type} {first : Except ValidationError α}
    {next : α → Except ValidationError β} {result : β} :
    (first >>= next) = .ok result ↔ ∃ middle, first = .ok middle ∧ next middle = .ok result := by
  cases first with
  | ok middle => exact ⟨fun same => ⟨middle, rfl, same⟩, by rintro ⟨_, ⟨⟩, same⟩; exact same⟩
  | error error => exact ⟨fun same => by contradiction, by rintro ⟨_, ⟨⟩, _⟩⟩

variable {path : List String} {items : List Value} {key : String}

theorem limit_eq_ok {passed : Bool} {detail : String} {counters next : Counters} :
    limit passed detail path counters = .ok next ↔ passed = false ∧ next = counters := by
  cases passed <;> simp [limit, eq_comm]

theorem chargeNode_eq_ok {depth : Nat} {counters next : Counters} :
    chargeNode limits path depth counters = .ok next ↔
      depth ≤ limits.maxDepth ∧ counters.nodes + 1 ≤ limits.maxNodes ∧
        next = counters + { nodes := 1 } := by
  have sum : { counters with nodes := counters.nodes + 1 } = counters + { nodes := 1 } := rfl
  simp only [chargeNode, bind_eq_ok_iff, limit_eq_ok, decide_eq_false_iff_not, sum]
  constructor
  · rintro ⟨middle, ⟨within, rfl⟩, shallow, rfl⟩
    exact ⟨by omega, by omega, rfl⟩
  · rintro ⟨shallow, within, rfl⟩
    exact ⟨_, ⟨by omega, rfl⟩, by omega, rfl⟩

def clausesOf (parentKey : Option String) (items : List Value) : Nat :=
  if isLogicalKey parentKey then items.length else 0

theorem chargeArray_eq_ok {parentKey : Option String} {counters next : Counters}
    (fits : counters.logicalClauses ≤ limits.maxLogicalClauses) :
    chargeArray limits path parentKey items counters = .ok next ↔
      (parentKey = some "$in" → items.length ≤ limits.maxInValues) ∧
        next.logicalClauses ≤ limits.maxLogicalClauses ∧
        next = counters + { logicalClauses := clausesOf parentKey items } := by
  have listed : (decide (parentKey = some "$in") && decide (limits.maxInValues < items.length)) =
      false ↔ (parentKey = some "$in" → items.length ≤ limits.maxInValues) := by
    simp [not_lt]
  by_cases logical : isLogicalKey parentKey = true
  · have sum : { counters with logicalClauses := counters.logicalClauses + items.length } =
        counters + { logicalClauses := items.length } := rfl
    simp only [chargeArray, clausesOf, logical, if_true, bind_eq_ok_iff, limit_eq_ok, listed,
      decide_eq_false_iff_not, sum]
    constructor
    · rintro ⟨middle, ⟨within, rfl⟩, short, rfl⟩
      exact ⟨short, by simp; omega, rfl⟩
    · rintro ⟨short, within, rfl⟩
      simp only [add_logicalClauses] at within
      exact ⟨_, ⟨by omega, rfl⟩, short, rfl⟩
  · simp only [chargeArray, clausesOf, logical, Bool.false_eq_true, if_false, bind_eq_ok_iff,
      limit_eq_ok, listed]
    constructor
    · rintro ⟨middle, same, short, rfl⟩
      rw [← Except.ok.inj same]
      exact ⟨short, fits, rfl⟩
    · rintro ⟨short, _, rfl⟩
      exact ⟨_, rfl, short, rfl⟩

theorem chargeInclude_eq_ok {child : Value} {counters next : Counters}
    (fits : Fits limits scope counters) :
    chargeInclude limits scope path key child counters = .ok next ↔
      Fits limits scope next ∧
        next = counters + { includeCount := includesOf scope key child } := by
  by_cases included : (scope = .request && key = "include") = true
  · have sum : { counters with includeCount := counters.includeCount + includeSize child } =
        counters + { includeCount := includeSize child } := rfl
    simp only [chargeInclude, included, if_true, includesOf, limit_eq_ok, decide_eq_false_iff_not, sum]
    simp only [Bool.and_eq_true, decide_eq_true_eq] at included
    constructor
    · rintro ⟨within, rfl⟩
      refine ⟨⟨fits.nodes, fits.logical, fits.subQueries, fun _ => ?_⟩, rfl⟩
      simp only [add_includeCount]
      omega
    · rintro ⟨within, rfl⟩
      have := within.includes included.1
      simp only [add_includeCount] at this
      exact ⟨by omega, rfl⟩
  · simp only [chargeInclude, included, Bool.false_eq_true, if_false, includesOf, Except.ok.injEq]
    constructor
    · rintro rfl
      exact ⟨fits, rfl⟩
    · rintro ⟨_, rfl⟩
      rfl

theorem chargeSubQuery_eq_ok {counters next : Counters} (fits : Fits limits scope counters) :
    chargeSubQuery limits path key counters = .ok next ↔
      Fits limits scope next ∧
        next = counters + { subQueryCount := if key = "$$sq" then 1 else 0 } := by
  by_cases subQuery : key = "$$sq"
  · have sum : { counters with subQueryCount := counters.subQueryCount + 1 } =
        counters + { subQueryCount := 1 } := rfl
    simp only [chargeSubQuery, subQuery, if_true, limit_eq_ok, decide_eq_false_iff_not, sum]
    constructor
    · rintro ⟨within, rfl⟩
      refine ⟨⟨fits.nodes, fits.logical, ?_, fits.includes⟩, rfl⟩
      simp only [add_subQueryCount]
      omega
    · rintro ⟨within, rfl⟩
      have := within.subQueries
      simp only [add_subQueryCount] at this
      exact ⟨by omega, rfl⟩
  · simp only [chargeSubQuery, subQuery, if_false, Except.ok.injEq]
    constructor
    · rintro rfl
      exact ⟨fits, rfl⟩
    · rintro ⟨_, rfl⟩
      rfl

theorem chargeEntry_eq_ok {child : Value} {counters next : Counters}
    (fits : Fits limits scope counters) :
    chargeEntry limits scope path key child counters = .ok next ↔
      isUnsafeKey key = false ∧ Fits limits scope next ∧
        next = counters + entryCost scope (key, child) := by
  have split : counters + entryCost scope (key, child) =
      counters + { includeCount := includesOf scope key child } +
        { subQueryCount := if key = "$$sq" then 1 else 0 } := by
    apply counters_ext <;> simp [entryCost]
  simp only [chargeEntry, bind_eq_ok_iff, limit_eq_ok, split]
  constructor
  · rintro ⟨first, ⟨named, rfl⟩, second, included, counted⟩
    obtain ⟨within, rfl⟩ := (chargeInclude_eq_ok fits).mp included
    exact ⟨named, (chargeSubQuery_eq_ok within).mp counted⟩
  · rintro ⟨named, within, rfl⟩
    have between : Fits limits scope
        (counters + { includeCount := includesOf scope key child }) := within.of_add
    refine ⟨counters, ⟨named, rfl⟩, _, (chargeInclude_eq_ok fits).mpr ⟨between, rfl⟩, ?_⟩
    exact (chargeSubQuery_eq_ok between).mpr ⟨within, rfl⟩

theorem nodesOf_array (depth : Nat) (parentKey : Option String) (items : List Value) :
    nodesOf depth parentKey (.array items) =
      { value := .array items, depth, parentKey } :: itemNodes (depth + 1) parentKey items := by
  rw [nodesOf]

theorem nodesOf_object (depth : Nat) (parentKey : Option String) (entries : Entries) :
    nodesOf depth parentKey (.object entries) =
      { value := .object entries, depth, parentKey } :: entryNodes (depth + 1) entries := by
  rw [nodesOf]

/-- What the walk from a value does, whatever was counted before it. -/
def VisitExact (limits : RequestLimits) (scope : ComplexityScope) (value : Value) : Prop :=
  ∀ (path : List String) (depth : Nat) (parentKey : Option String) (counters next : Counters),
    Fits limits scope counters →
    (visit limits scope path depth parentKey counters value = .ok next ↔
      (∀ node ∈ nodesOf depth parentKey value, Passes limits node) ∧ Fits limits scope next ∧
        next = counters + cost scope (nodesOf depth parentKey value))

theorem visitItems_eq_ok (each : ∀ item ∈ items, VisitExact limits scope item) {index depth : Nat}
    {parentKey : Option String} {counters next : Counters} (fits : Fits limits scope counters) :
    visitItems limits scope path index depth parentKey counters items = .ok next ↔
      (∀ node ∈ itemNodes depth parentKey items, Passes limits node) ∧ Fits limits scope next ∧
        next = counters + cost scope (itemNodes depth parentKey items) := by
  induction items generalizing index counters with
  | nil =>
    simp only [visitItems, itemNodes, cost, add_empty, Except.ok.injEq]
    constructor
    · rintro rfl
      exact ⟨by simp, fits, rfl⟩
    · rintro ⟨_, _, rfl⟩
      rfl
  | cons item rest ih =>
    have first := each item List.mem_cons_self
    replace ih := @ih fun other member => each other (List.mem_cons_of_mem _ member)
    simp only [visitItems, itemNodes, cost_append, List.mem_append, bind_eq_ok_iff]
    constructor
    · rintro ⟨middle, here, later⟩
      obtain ⟨passes, within, rfl⟩ := (first _ _ _ _ _ fits).mp here
      obtain ⟨passes', within', rfl⟩ := (ih within).mp later
      refine ⟨?_, within', add_add _ _ _⟩
      rintro node (member | member)
      · exact passes node member
      · exact passes' node member
    · rintro ⟨passes, within, rfl⟩
      have before : Fits limits scope (counters + cost scope (nodesOf depth parentKey item)) := by
        rw [← add_add] at within
        exact within.of_add
      refine ⟨_, (first _ _ _ _ _ fits).mpr ⟨?_, before, rfl⟩, ?_⟩
      · exact fun node member => passes node (Or.inl member)
      · refine (ih before).mpr ⟨?_, within, (add_add _ _ _).symm⟩
        exact fun node member => passes node (Or.inr member)

theorem visitEntries_eq_ok {entries : Entries}
    (each : ∀ entry ∈ entries, VisitExact limits scope entry.2) {depth : Nat}
    {counters next : Counters} (fits : Fits limits scope counters) :
    visitEntries limits scope path depth counters entries = .ok next ↔
      (∀ entry ∈ entries, isUnsafeKey entry.1 = false) ∧
        (∀ node ∈ entryNodes depth entries, Passes limits node) ∧ Fits limits scope next ∧
        next = counters + (entriesCost scope entries + cost scope (entryNodes depth entries)) := by
  induction entries generalizing counters with
  | nil =>
    simp only [visitEntries, entryNodes, cost, entriesCost, add_empty, Except.ok.injEq]
    constructor
    · rintro rfl
      exact ⟨by simp, by simp, fits, rfl⟩
    · rintro ⟨_, _, _, rfl⟩
      rfl
  | cons entry rest ih =>
    obtain ⟨key, child⟩ := entry
    have first := each (key, child) List.mem_cons_self
    replace ih := @ih fun other member => each other (List.mem_cons_of_mem _ member)
    have regroup : ∀ nodes rests : Counters, ∀ more : Counters,
        counters + (entryCost scope (key, child) + rests + (nodes + more)) =
          counters + entryCost scope (key, child) + nodes + (rests + more) := by
      intro nodes rests more
      apply counters_ext <;> simp <;> omega
    simp only [visitEntries, entryNodes, entriesCost, cost_append, List.mem_append,
      List.forall_mem_cons, bind_eq_ok_iff, regroup]
    constructor
    · rintro ⟨charged, named, middle, here, later⟩
      obtain ⟨safe, within, rfl⟩ := (chargeEntry_eq_ok fits).mp named
      obtain ⟨passes, within', rfl⟩ := (first _ _ _ _ _ within).mp here
      obtain ⟨safe', passes', within'', rfl⟩ := (ih within').mp later
      refine ⟨⟨safe, safe'⟩, ?_, within'', rfl⟩
      rintro node (member | member)
      · exact passes node member
      · exact passes' node member
    · rintro ⟨⟨safe, safe'⟩, passes, within, rfl⟩
      have before := within.of_add
      refine ⟨_, (chargeEntry_eq_ok fits).mpr ⟨safe, before.of_add, rfl⟩, _,
        (first _ _ _ _ _ before.of_add).mpr ⟨?_, before, rfl⟩, ?_⟩
      · exact fun node member => passes node (Or.inl member)
      · refine (ih before).mpr ⟨safe', ?_, within, rfl⟩
        exact fun node member => passes node (Or.inr member)

theorem cost_array (counters : Counters) (depth : Nat) (parentKey : Option String)
    (items : List Value) :
    counters + cost scope (nodesOf depth parentKey (.array items)) =
      counters + { nodes := 1 } + { logicalClauses := clausesOf parentKey items } +
        cost scope (itemNodes (depth + 1) parentKey items) := by
  have node : nodeCost scope { value := .array items, depth, parentKey } =
      { nodes := 1 } + { logicalClauses := clausesOf parentKey items } := by
    apply counters_ext <;> simp [nodeCost, Node.logicalClauses, Node.items, Node.entries,
      entriesCost, clausesOf]
  rw [nodesOf_array, cost, node, add_add, add_add, add_add]

theorem cost_object (counters : Counters) (depth : Nat) (parentKey : Option String)
    (entries : Entries) :
    counters + cost scope (nodesOf depth parentKey (.object entries)) =
      counters + { nodes := 1 } +
        (entriesCost scope entries + cost scope (entryNodes (depth + 1) entries)) := by
  have clauses : ({ value := .object entries, depth, parentKey } : Node).logicalClauses = 0 := by
    simp [Node.logicalClauses, Node.items]
  have node : nodeCost scope { value := .object entries, depth, parentKey } =
      { nodes := 1 } + entriesCost scope entries := by
    rw [nodeCost, clauses]
    rfl
  rw [nodesOf_object, cost, node, add_add, add_add]

theorem visitExact_array (each : ∀ item ∈ items, VisitExact limits scope item) :
    VisitExact limits scope (.array items) := by
  intro path depth parentKey counters next fits
  rw [cost_array]
  simp only [visit, nodesOf_array, List.forall_mem_cons, bind_eq_ok_iff, chargeNode_eq_ok]
  constructor
  · rintro ⟨first, ⟨shallow, within, rfl⟩, second, charged, below⟩
    have entered : Fits limits scope (counters + { nodes := 1 }) :=
      ⟨within, fits.logical, fits.subQueries, fits.includes⟩
    obtain ⟨short, few, rfl⟩ := (chargeArray_eq_ok entered.logical).mp charged
    have fits' : Fits limits scope
        (counters + { nodes := 1 } + { logicalClauses := clausesOf parentKey items }) :=
      ⟨entered.nodes, few, entered.subQueries, entered.includes⟩
    obtain ⟨passes, fits'', same⟩ := (visitItems_eq_ok each fits').mp below
    exact ⟨⟨⟨shallow, by simp [Node.entries], short⟩, passes⟩, fits'', same⟩
  · rintro ⟨⟨here, passes⟩, within, rfl⟩
    have charged := within.of_add
    have entered := charged.of_add
    have listed := (@chargeArray_eq_ok _ path _ _ _ _ entered.logical).mpr
      ⟨here.inValues, charged.logical, rfl⟩
    exact ⟨_, ⟨here.depth, entered.nodes, rfl⟩, _, listed,
      (visitItems_eq_ok each charged).mpr ⟨passes, within, rfl⟩⟩

theorem visitExact_object {entries : Entries}
    (each : ∀ entry ∈ entries, VisitExact limits scope entry.2) :
    VisitExact limits scope (.object entries) := by
  intro path depth parentKey counters next fits
  rw [cost_object]
  simp only [visit, nodesOf_object, List.forall_mem_cons, bind_eq_ok_iff, chargeNode_eq_ok]
  constructor
  · rintro ⟨first, ⟨shallow, within, rfl⟩, below⟩
    have entered : Fits limits scope (counters + { nodes := 1 }) :=
      ⟨within, fits.logical, fits.subQueries, fits.includes⟩
    obtain ⟨safe, passes, fits', same⟩ := (visitEntries_eq_ok each entered).mp below
    exact ⟨⟨⟨shallow, safe, by simp [Node.items]⟩, passes⟩, fits', same⟩
  · rintro ⟨⟨here, passes⟩, within, rfl⟩
    have entered := within.of_add
    refine ⟨_, ⟨here.depth, entered.nodes, rfl⟩, ?_⟩
    exact (visitEntries_eq_ok each entered).mpr ⟨here.keys, passes, within, rfl⟩

/-- A value that the walk does not look into. -/
theorem visitExact_leaf {value : Value} (notArray : value.isArray = false)
    (notObject : value.isPlainObject = false) : VisitExact limits scope value := by
  intro path depth parentKey counters next fits
  have alone : nodesOf depth parentKey value = [{ value, depth, parentKey }] := by
    cases value <;> first | rfl | contradiction
  have counted : cost scope [{ value, depth, parentKey }] = { nodes := 1 } := by
    cases value <;> first | contradiction | (apply counters_ext <;> simp [cost, nodeCost,
      entriesCost, Node.logicalClauses, Node.items, Node.entries])
  have passes : Passes limits { value, depth, parentKey } ↔ depth ≤ limits.maxDepth := by
    constructor
    · exact fun passes => passes.depth
    · intro shallow
      refine ⟨shallow, ?_, ?_⟩
      · cases value <;> first | contradiction | simp [Node.entries]
      · cases value <;> first | contradiction | simp [Node.items]
  have visited : visit limits scope path depth parentKey counters value =
      chargeNode limits path depth counters := by
    cases value <;> first
      | contradiction
      | (rw [visit]; cases chargeNode limits path depth counters <;> rfl)
  rw [visited, chargeNode_eq_ok, alone, counted, List.forall_mem_singleton, passes]
  constructor
  · rintro ⟨shallow, within, rfl⟩
    exact ⟨shallow, ⟨within, fits.logical, fits.subQueries, fits.includes⟩, rfl⟩
  · rintro ⟨shallow, within, rfl⟩
    exact ⟨shallow, within.nodes, rfl⟩

theorem visitExact (value : Value) : VisitExact limits scope value := by
  induction value using Value.induction with
  | array items ih => exact visitExact_array ih
  | object entries ih => exact visitExact_object ih
  | classed kind fields ih => exact visitExact_leaf rfl rfl
  | leaf value leaf =>
    refine visitExact_leaf ?_ ?_
    · cases value <;> first | rfl | contradiction
    · cases value <;> first | rfl | contradiction

theorem isUnsafeKey_eq_false (key : String) :
    isUnsafeKey key = false ↔ key ∉ ["__proto__", "prototype", "constructor"] := by
  simp [isUnsafeKey, and_assoc]

theorem bounded_iff (limits : RequestLimits) (scope : ComplexityScope) (value : Value) :
    Bounded limits scope value ↔
      (∀ node ∈ nodesOf 0 none value, Passes limits node) ∧
        Fits limits scope (cost scope (nodesOf 0 none value)) := by
  constructor
  · intro bounded
    refine ⟨fun node member => ?_, ?_⟩
    · refine ⟨bounded.depth node member, fun entry listed => ?_, bounded.inValues node member⟩
      exact (isUnsafeKey_eq_false _).mpr (bounded.keys node member entry listed)
    · refine ⟨?_, ?_, ?_, fun request => ?_⟩
      · rw [cost_nodes]
        exact bounded.nodes
      · rw [cost_logicalClauses]
        exact bounded.logical
      · rw [cost_subQueryCount]
        exact bounded.subQueries
      · subst request
        rw [cost_includeCount]
        exact bounded.includes rfl
  · rintro ⟨passes, fits⟩
    refine ⟨?_, fun node member => (passes node member).depth, fun node member entry listed => ?_,
      ?_, fun node member => (passes node member).inValues, ?_, fun request => ?_⟩
    · rw [← cost_nodes]
      exact fits.nodes
    · exact (isUnsafeKey_eq_false _).mp ((passes node member).keys entry listed)
    · rw [← cost_logicalClauses]
      exact fits.logical
    · rw [← cost_subQueryCount]
      exact fits.subQueries
    · subst request
      rw [← cost_includeCount]
      exact fits.includes rfl

/-- No error is returned exactly for the requests within all limits. -/
theorem validateRequestComplexity_exact (value : Value) (options : RequestComplexityOptions)
    (scope : ComplexityScope) :
    validateRequestComplexity value options scope = [] ↔
      Bounded (resolveRequestComplexity options) scope value := by
  have start : Fits (resolveRequestComplexity options) scope {} :=
    ⟨Nat.zero_le _, Nat.zero_le _, Nat.zero_le _, fun _ => Nat.zero_le _⟩
  rw [bounded_iff, validateRequestComplexity]
  constructor
  · intro accepted
    cases walked : visit (resolveRequestComplexity options) scope [] 0 none {} value with
    | ok next =>
      obtain ⟨passes, fits, rfl⟩ := (visitExact value [] 0 none {} next start).mp walked
      rw [empty_add] at fits
      exact ⟨passes, fits⟩
    | error error =>
      rw [walked] at accepted
      contradiction
  · rintro ⟨passes, fits⟩
    rw [← empty_add (cost _ _)] at fits
    rw [(visitExact value [] 0 none {} _ start).mpr ⟨passes, fits, rfl⟩]

example : validateRequestComplexity
    (.object [("$or", .array [.array [.null, .null], .object [("include", .null)]])])
    { maxLogicalClauses := some (.finite 3) } .request =
      [{ detail := "Filter exceeds maximum logical clause budget of 3", pointer := "#/$or/0" }] := by
  decide

end WebTsToolkit.AccessRouter.RequestComplexity
