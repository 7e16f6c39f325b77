import WebTsToolkit.MongooseRxdb.QueryCompiler

set_option autoImplicit false

namespace WebTsToolkit.MongooseRxdb

open Js Library

/-- What a field must satisfy: a bare literal it equals, or operators with their operands. -/
inductive Condition where
  | literal (value : Value)
  | tests (operands : Entries)

/-- An entry of a filter. Operands of a logical operator are filters. -/
inductive Clause where
  | field (name : String) (condition : Condition)
  | logical (operator : String) (operands : List (List Clause))

/-- A filter's meaning: its entries in order. -/
abbrev Query := List Clause

mutual

/-- A literal as the store keeps it, with dates as texts, where it may stand in a filter. -/
def storedLiteral : Value → Option Value
  | .array items =>
    if items.length ≤ maxLogicalOperands then (storedItems items).map .array else none
  | .object entries => (storedEntries entries).map .object
  | .date (some time) => some (.string (toISOString time))
  | .date none | .regexp _ _ | .classed _ _ => none
  | value => some value

def storedItems : List Value → Option (List Value)
  | [] => some []
  | item :: items =>
    match storedLiteral item, storedItems items with
    | some stored, some others => some (stored :: others)
    | _, _ => none

def storedEntries : List (String × Value) → Option Entries
  | [] => some []
  | (key, value) :: entries =>
    match storedLiteral value, storedEntries entries with
    | some stored, some others =>
      if dangerousKeys.contains key then none else some ((key, stored) :: others)
    | _, _ => none

end

/-- A test of an operator object. -/
def parseTest (test : String × Value) : Option (String × Value) :=
  if comparisonOperators.contains test.1 then
    (storedLiteral test.2).map fun operand => (test.1, operand)
  else none

/-- An object with an operator among its keys is read as tests, any other value as the
operand of an equality. -/
def parseCondition : Value → Option Condition
  | .object entries =>
    if (entries.map Prod.fst).any isOperator then (entries.mapM parseTest).map .tests
    else (storedLiteral (.object entries)).map fun operand => .tests [("$eq", operand)]
  | value => (storedLiteral value).map .literal

/-- A clause under `key`, where `operands` is what its value means to a logical operator. -/
def parseClause (key : String) (operands : Option (List Query)) (value : Value) :
    Option Clause :=
  if logicalOperators.contains key then operands.map (.logical key)
  else if isOperator key || dangerousKeys.contains key then none
  else (parseCondition value).map (.field key)

mutual

/-- The meaning of a filter, where it has one. -/
def parseFilter : Value → Option Query
  | .object entries => parseClauses entries
  | _ => none

def parseClauses : List (String × Value) → Option Query
  | [] => some []
  | (key, value) :: entries =>
    match parseClause key (parseOperands value) value, parseClauses entries with
    | some clause, some clauses => some (clause :: clauses)
    | _, _ => none

/-- From one to `MAX_LOGICAL_OPERANDS` filters. -/
def parseOperands : Value → Option (List Query)
  | .array operands =>
    if 0 < operands.length ∧ operands.length ≤ maxLogicalOperands then parseFilters operands
    else none
  | _ => none

def parseFilters : List Value → Option (List Query)
  | [] => some []
  | operand :: operands =>
    match parseFilter operand, parseFilters operands with
    | some query, some queries => some (query :: queries)
    | _, _ => none

end

mutual

/-- Containers and entries of a literal. -/
def literalCost : Value → Nat
  | .array items => 1 + itemsCost items
  | .object entries => 1 + entriesCost entries
  | _ => 0

def itemsCost : List Value → Nat
  | [] => 0
  | item :: items => 1 + literalCost item + itemsCost items

def entriesCost : List (String × Value) → Nat
  | [] => 0
  | (_, value) :: entries => 1 + literalCost value + entriesCost entries

end

mutual

/-- How deep containers nest in a literal. -/
def literalDepth : Value → Nat
  | .array items => 1 + itemsDepth items
  | .object entries => 1 + entriesDepth entries
  | _ => 0

def itemsDepth : List Value → Nat
  | [] => 0
  | item :: items => max (literalDepth item) (itemsDepth items)

def entriesDepth : List (String × Value) → Nat
  | [] => 0
  | (_, value) :: entries => max (literalDepth value) (entriesDepth entries)

end

namespace Condition

/-- An operator object itself is not charged. -/
def cost : Condition → Nat
  | .literal value => literalCost value
  | .tests operands => (operands.map fun test => literalCost test.2).sum

def depth : Condition → Nat
  | .literal value => literalDepth value
  | .tests operands => (operands.map fun test => literalDepth test.2).foldr max 0

/-- As `sanitizeFilter` writes it. -/
def normalized : Condition → Value
  | .literal value => value
  | .tests operands => .object operands

/-- As a selector states it: a bare literal is an equality. -/
def selected : Condition → Value
  | .literal value => .object [("$eq", value)]
  | .tests operands => .object operands

end Condition

mutual

def clausesCost : List Clause → Nat
  | [] => 0
  | clause :: clauses => 1 + clauseCost clause + clausesCost clauses

def clauseCost : Clause → Nat
  | .field _ condition => condition.cost
  | .logical _ operands => operandsCost operands

def operandsCost : List (List Clause) → Nat
  | [] => 0
  | operand :: operands => 1 + clausesCost operand + operandsCost operands

end

/-- Filters, their entries, and the containers and entries of literals. -/
def queryCost (query : Query) : Nat :=
  1 + clausesCost query

mutual

/-- How deep containers nest below a filter. -/
def queryDepth : List Clause → Nat
  | [] => 0
  | clause :: clauses => max (clauseDepth clause) (queryDepth clauses)

def clauseDepth : Clause → Nat
  | .field _ condition => condition.depth
  | .logical _ operands => operandsDepth operands

def operandsDepth : List (List Clause) → Nat
  | [] => 0
  | operand :: operands => max (1 + queryDepth operand) (operandsDepth operands)

end

mutual

/-- A filter written out, with each condition as the caller writes it. -/
def writeEntries (write : String → Condition → Value) : List Clause → Entries
  | [] => []
  | clause :: clauses => writeEntry write clause :: writeEntries write clauses

def writeEntry (write : String → Condition → Value) : Clause → String × Value
  | .field name condition => (name, write name condition)
  | .logical operator operands => (operator, .array (writeFilters write operands))

def writeFilters (write : String → Condition → Value) : List (List Clause) → List Value
  | [] => []
  | operand :: operands => .object (writeEntries write operand) :: writeFilters write operands

end

/-- How `sanitizeFilter` writes a condition. -/
def writeNormalized (_ : String) (condition : Condition) : Value :=
  condition.normalized

/-- How a selector states a condition. -/
def writeSelected (_ : String) (condition : Condition) : Value :=
  condition.selected

/-- The filter that `sanitizeFilter` writes for a query. -/
def Query.normalized (query : Query) : Value :=
  .object (writeEntries writeNormalized query)

/-- The selector that states a query: one entry for each clause, in place and in order. -/
def Query.selector (query : Query) : Value :=
  .object (writeEntries writeSelected query)

mutual

/-- Arrays that stand bare at an `_id`, at any logical position. -/
def idArrays : List Clause → List (List Value)
  | [] => []
  | clause :: clauses => clauseIdArrays clause ++ idArrays clauses

def clauseIdArrays : Clause → List (List Value)
  | .field name condition =>
    match condition with
    | .literal (.array items) => if name = "_id" then [items] else []
    | _ => []
  | .logical _ operands => operandsIdArrays operands

def operandsIdArrays : List (List Clause) → List (List Value)
  | [] => []
  | operand :: operands => idArrays operand ++ operandsIdArrays operands

end

theorem storedItems_iff {items stored : List Value} :
    storedItems items = some stored ↔
      List.Forall₂ (fun item value => storedLiteral item = some value) items stored := by
  induction items generalizing stored with
  | nil =>
    rw [List.forall₂_nil_left_iff, storedItems, Option.some_inj]
    exact eq_comm
  | cons item items ih =>
    rw [List.forall₂_cons_left_iff, storedItems]
    constructor
    · intro done
      split at done
      · next value others here there =>
        exact ⟨value, others, here, ih.mp there, (Option.some.inj done).symm⟩
      · contradiction
    · rintro ⟨value, others, here, there, same⟩
      rw [here, ih.mpr there, same]

/-- An entry of a literal, and the entry the store keeps. -/
def StoresEntry (entry stored : String × Value) : Prop :=
  dangerousKeys.contains entry.1 = false ∧ entry.1 = stored.1 ∧
    storedLiteral entry.2 = some stored.2

theorem storedEntries_iff {entries stored : Entries} :
    storedEntries entries = some stored ↔ List.Forall₂ StoresEntry entries stored := by
  induction entries generalizing stored with
  | nil =>
    rw [List.forall₂_nil_left_iff, storedEntries, Option.some_inj]
    exact eq_comm
  | cons entry entries ih =>
    rw [List.forall₂_cons_left_iff, storedEntries]
    constructor
    · intro done
      split at done
      · next value others here there =>
        split at done
        · contradiction
        · next safe =>
          exact ⟨(entry.1, value), others, ⟨Bool.eq_false_iff.mpr safe, rfl, here⟩,
            ih.mp there, (Option.some.inj done).symm⟩
      · contradiction
    · rintro ⟨value, others, ⟨safe, key, here⟩, there, same⟩
      rw [here, ih.mpr there, same, ← Prod.eta value, ← key]
      exact if_neg (by rw [safe]; exact Bool.false_ne_true)

/-- How a literal was stored. -/
inductive StoredAs : Value → Value → Prop
  | array {items stored : List Value} (few : items.length ≤ maxLogicalOperands)
      (keeps : List.Forall₂ (fun item value => storedLiteral item = some value) items stored) :
      StoredAs (.array items) (.array stored)
  | object {entries stored : Entries} (keeps : List.Forall₂ StoresEntry entries stored) :
      StoredAs (.object entries) (.object stored)
  | leaf {value stored : Value} (leaf : value.isLeaf = true) (flat : stored.isLeaf = true)
      (again : storedLiteral stored = some stored) (hole : stored = .hole → value = .hole) :
      StoredAs value stored

theorem storedAs_of_stored {value stored : Value} (found : storedLiteral value = some stored) :
    StoredAs value stored := by
  cases value with
  | array items =>
    rw [storedLiteral] at found
    split at found
    · next few =>
      obtain ⟨kept, keeps, rfl⟩ := Option.map_eq_some_iff.mp found
      exact .array few (storedItems_iff.mp keeps)
    · contradiction
  | object entries =>
    rw [storedLiteral] at found
    obtain ⟨kept, keeps, rfl⟩ := Option.map_eq_some_iff.mp found
    exact .object (storedEntries_iff.mp keeps)
  | regexp source flags | classed kind fields => contradiction
  | date time =>
    cases time with
    | none => contradiction
    | some time =>
      cases found
      exact .leaf rfl rfl rfl nofun
  | hole =>
    cases found
    exact .leaf rfl rfl rfl fun _ => rfl
  | _ =>
    cases found
    exact .leaf rfl rfl rfl nofun

variable {query : Query} {depth : Nat} {items : List Value}

theorem parseClauses_iff {entries : Entries} :
    parseClauses entries = some query ↔
      List.Forall₂ (fun entry clause =>
        parseClause entry.1 (parseOperands entry.2) entry.2 = some clause) entries query := by
  induction entries generalizing query with
  | nil =>
    rw [List.forall₂_nil_left_iff, parseClauses, Option.some_inj]
    exact eq_comm
  | cons entry entries ih =>
    rw [List.forall₂_cons_left_iff, parseClauses]
    constructor
    · intro done
      split at done
      · next clause clauses here there =>
        exact ⟨clause, clauses, here, ih.mp there, (Option.some.inj done).symm⟩
      · contradiction
    · rintro ⟨clause, clauses, here, there, same⟩
      rw [here, ih.mpr there, same]

theorem parseFilters_iff {operands : List Value} {queries : List Query} :
    parseFilters operands = some queries ↔
      List.Forall₂ (fun operand query => parseFilter operand = some query) operands queries := by
  induction operands generalizing queries with
  | nil =>
    rw [List.forall₂_nil_left_iff, parseFilters, Option.some_inj]
    exact eq_comm
  | cons operand operands ih =>
    rw [List.forall₂_cons_left_iff, parseFilters]
    constructor
    · intro done
      split at done
      · next query others here there =>
        exact ⟨query, others, here, ih.mp there, (Option.some.inj done).symm⟩
      · contradiction
    · rintro ⟨query, others, here, there, same⟩
      rw [here, ih.mpr there, same]

/-- A test of an operator object that was read. -/
def ReadTest (entry test : String × Value) : Prop :=
  entry.1 ∈ comparisonOperators ∧ entry.1 = test.1 ∧ storedLiteral entry.2 = some test.2

theorem parseTest_eq_some {entry test : String × Value} :
    parseTest entry = some test ↔ ReadTest entry test := by
  rw [parseTest, ReadTest, ← List.contains_iff_mem]
  split
  · next comparison =>
    rw [Option.map_eq_some_iff]
    constructor
    · rintro ⟨stored, found, same⟩
      exact same ▸ ⟨comparison, rfl, found⟩
    · rintro ⟨_, key, found⟩
      exact ⟨test.2, found, Prod.ext key rfl⟩
  · next other =>
    constructor
    · intro parsed
      contradiction
    · exact fun read => absurd read.1 other

/-- How a condition was read. -/
inductive ReadCondition : Value → Condition → Prop
  | tests {entries tests : Entries} (operators : (entries.map Prod.fst).any isOperator = true)
      (reads : List.Forall₂ ReadTest entries tests) :
      ReadCondition (.object entries) (.tests tests)
  | equality {entries : Entries} {stored : Value}
      (plain : (entries.map Prod.fst).any isOperator = false)
      (found : storedLiteral (.object entries) = some stored) :
      ReadCondition (.object entries) (.tests [("$eq", stored)])
  | literal {value stored : Value} (single : value.isPlainObject = false)
      (found : storedLiteral value = some stored) : ReadCondition value (.literal stored)

theorem parseCondition_single {value : Value} (single : value.isPlainObject = false) :
    parseCondition value = (storedLiteral value).map .literal := by
  cases value with
  | object entries => contradiction
  | _ => rfl

theorem readCondition_of_parse {value : Value} {condition : Condition}
    (parsed : parseCondition value = some condition) : ReadCondition value condition := by
  by_cases object : value.isPlainObject = true
  · cases value with
    | object entries =>
      rw [parseCondition] at parsed
      split at parsed
      · next operators =>
        obtain ⟨tests, mapped, rfl⟩ := Option.map_eq_some_iff.mp parsed
        refine .tests operators ?_
        exact (mapM_eq_some_iff.mp mapped).imp fun _ _ => parseTest_eq_some.mp
      · next plain =>
        obtain ⟨stored, found, rfl⟩ := Option.map_eq_some_iff.mp parsed
        exact .equality (Bool.eq_false_iff.mpr plain) found
    | _ => contradiction
  · rw [Bool.not_eq_true] at object
    rw [parseCondition_single object] at parsed
    obtain ⟨stored, found, rfl⟩ := Option.map_eq_some_iff.mp parsed
    exact .literal object found

/-- How a clause was read. -/
inductive ReadClause (key : String) (value : Value) : Clause → Prop
  | logical {queries : List Query} (logical : logicalOperators.contains key = true)
      (operands : parseOperands value = some queries) : ReadClause key value (.logical key queries)
  | field {condition : Condition} (notLogical : logicalOperators.contains key = false)
      (plain : isOperator key = false) (safe : dangerousKeys.contains key = false)
      (parsed : parseCondition value = some condition) :
      ReadClause key value (.field key condition)

theorem readClause_of_parse {key : String} {value : Value} {clause : Clause}
    (parsed : parseClause key (parseOperands value) value = some clause) :
    ReadClause key value clause := by
  rw [parseClause] at parsed
  split at parsed
  · next logical =>
    obtain ⟨queries, operands, rfl⟩ := Option.map_eq_some_iff.mp parsed
    exact .logical logical operands
  · next notLogical =>
    split at parsed
    · contradiction
    · next plain =>
      obtain ⟨condition, found, rfl⟩ := Option.map_eq_some_iff.mp parsed
      rw [Bool.not_eq_true, Bool.or_eq_false_iff] at plain
      exact .field (Bool.eq_false_iff.mpr notLogical) plain.1 plain.2 found

theorem parseFilter_eq_some {tree : Value} : parseFilter tree = some query ↔
    ∃ entries, tree = .object entries ∧ List.Forall₂ (fun entry clause =>
      parseClause entry.1 (parseOperands entry.2) entry.2 = some clause) entries query := by
  constructor
  · intro parsed
    cases tree with
    | object entries => exact ⟨entries, rfl, parseClauses_iff.mp parsed⟩
    | _ => contradiction
  · rintro ⟨entries, rfl, parses⟩
    exact parseClauses_iff.mpr parses

theorem parseOperands_eq_some {tree : Value} {queries : List Query} :
    parseOperands tree = some queries ↔
      ∃ operands, tree = .array operands ∧
        (0 < operands.length ∧ operands.length ≤ maxLogicalOperands) ∧
        List.Forall₂ (fun operand query => parseFilter operand = some query) operands queries := by
  constructor
  · intro parsed
    cases tree with
    | array operands =>
      rw [parseOperands] at parsed
      split at parsed
      · next allowed => exact ⟨operands, rfl, allowed, parseFilters_iff.mp parsed⟩
      · contradiction
    | _ => contradiction
  · rintro ⟨operands, rfl, allowed, parses⟩
    rw [parseOperands, if_pos allowed, parseFilters_iff.mpr parses]

/-- What passes from operands to filters and from filters to operands holds of all that is
read. -/
theorem parse_induction {P : Value → Query → Prop} {Q : Value → List Query → Prop}
    (filter : ∀ entries query, (∀ entry ∈ entries, ∀ queries,
        parseOperands entry.2 = some queries → Q entry.2 queries) →
      List.Forall₂ (fun (entry : String × Value) clause =>
        ReadClause entry.1 entry.2 clause) entries query → P (.object entries) query)
    (operands : ∀ items queries, (∀ item ∈ items, ∀ query,
        parseFilter item = some query → P item query) →
      (0 < items.length ∧ items.length ≤ maxLogicalOperands) →
      List.Forall₂ (fun item query => parseFilter item = some query) items queries →
      Q (.array items) queries) (tree : Value) :
    (∀ query, parseFilter tree = some query → P tree query) ∧
      ∀ queries, parseOperands tree = some queries → Q tree queries := by
  refine ⟨?_, ?_⟩
  · intro query parsed
    obtain ⟨entries, same, parses⟩ := parseFilter_eq_some.mp parsed
    rw [same]
    refine filter entries query ?_ (parses.imp fun _ _ => readClause_of_parse)
    exact fun entry member => (parse_induction filter operands entry.2).2
  · intro queries parsed
    obtain ⟨items, same, allowed, parses⟩ := parseOperands_eq_some.mp parsed
    rw [same]
    refine operands items queries ?_ allowed parses
    exact fun item member => (parse_induction filter operands item).1
termination_by tree
decreasing_by
  · have inside : (Value.object entries).Child entry.2 := ⟨entry.1, member⟩
    exact same ▸ inside.sizeOf_lt
  · have inside : (Value.array items).Child item := member
    exact same ▸ inside.sizeOf_lt

theorem itemsCost_eq (items : List Value) :
    itemsCost items = (items.map fun item => 1 + literalCost item).sum := by
  induction items with
  | nil => rfl
  | cons item items ih => rw [itemsCost, ih, List.map_cons, List.sum_cons]

theorem entriesCost_eq (entries : Entries) :
    entriesCost entries = (entries.map fun entry => 1 + literalCost entry.2).sum := by
  induction entries with
  | nil => rfl
  | cons entry entries ih => rw [entriesCost, ih, List.map_cons, List.sum_cons]

theorem clausesCost_eq (clauses : List Clause) :
    clausesCost clauses = (clauses.map fun clause => 1 + clauseCost clause).sum := by
  induction clauses with
  | nil => rfl
  | cons clause clauses ih => rw [clausesCost, ih, List.map_cons, List.sum_cons]

theorem operandsCost_eq (operands : List Query) :
    operandsCost operands = (operands.map queryCost).sum := by
  induction operands with
  | nil => rfl
  | cons operand operands ih =>
    rw [operandsCost, ih, List.map_cons, List.sum_cons, queryCost]

theorem itemsDepth_le : itemsDepth items ≤ depth ↔ ∀ item ∈ items, literalDepth item ≤ depth := by
  induction items with
  | nil => simp [itemsDepth]
  | cons item items ih => rw [itemsDepth, Nat.max_le, ih, List.forall_mem_cons]

theorem entriesDepth_le {entries : Entries} :
    entriesDepth entries ≤ depth ↔ ∀ entry ∈ entries, literalDepth entry.2 ≤ depth := by
  induction entries with
  | nil => simp [entriesDepth]
  | cons entry entries ih => rw [entriesDepth, Nat.max_le, ih, List.forall_mem_cons]

theorem tests_depth_le {operands : Entries} :
    (Condition.tests operands).depth ≤ depth ↔
      ∀ test ∈ operands, literalDepth test.2 ≤ depth := by
  rw [Condition.depth]
  induction operands with
  | nil => simp
  | cons test operands ih =>
    rw [List.map_cons, List.foldr_cons, Nat.max_le, ih, List.forall_mem_cons]

theorem queryDepth_le :
    queryDepth query ≤ depth ↔ ∀ clause ∈ query, clauseDepth clause ≤ depth := by
  induction query with
  | nil => simp [queryDepth]
  | cons clause clauses ih => rw [queryDepth, Nat.max_le, ih, List.forall_mem_cons]

theorem operandsDepth_le {operands : List Query} :
    operandsDepth operands ≤ depth ↔
      ∀ operand ∈ operands, 1 + queryDepth operand ≤ depth := by
  induction operands with
  | nil => simp [operandsDepth]
  | cons operand operands ih => rw [operandsDepth, Nat.max_le, ih, List.forall_mem_cons]

theorem writeEntries_eq (write : String → Condition → Value) (query : Query) :
    writeEntries write query = query.map (writeEntry write) := by
  induction query with
  | nil => rfl
  | cons clause clauses ih => rw [writeEntries, ih, List.map_cons]

theorem writeFilters_eq (write : String → Condition → Value) (operands : List Query) :
    writeFilters write operands =
      operands.map fun operand => .object (writeEntries write operand) := by
  induction operands with
  | nil => rfl
  | cons operand operands ih => rw [writeFilters, ih, List.map_cons]

theorem mem_idArrays :
    items ∈ idArrays query ↔ ∃ clause ∈ query, items ∈ clauseIdArrays clause := by
  induction query with
  | nil => simp [idArrays]
  | cons clause clauses ih => rw [idArrays, List.mem_append, ih, List.exists_mem_cons_iff]

theorem mem_operandsIdArrays {operands : List Query} :
    items ∈ operandsIdArrays operands ↔
      ∃ operand ∈ operands, items ∈ idArrays operand := by
  induction operands with
  | nil => simp [operandsIdArrays]
  | cons operand operands ih =>
    rw [operandsIdArrays, List.mem_append, ih, List.exists_mem_cons_iff]

end WebTsToolkit.MongooseRxdb
