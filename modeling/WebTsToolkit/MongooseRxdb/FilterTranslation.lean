import WebTsToolkit.MongooseRxdb.FilterRun

set_option autoImplicit false

namespace WebTsToolkit.MongooseRxdb

open Js Library

/-- What reading a filter leaves: the literals are in the store's form, and an operator object
has tests under comparison operators only. -/
def Condition.Legal : Condition → Prop
  | .literal value => value.isPlainObject = false ∧ storedLiteral value = some value
  | .tests operands => operands ≠ [] ∧ ∀ test ∈ operands,
      test.1 ∈ comparisonOperators ∧ storedLiteral test.2 = some test.2

/-- A clause of a filter that was read, whose operands have `Q`. -/
def Clause.Legal (Q : Query → Prop) : Clause → Prop
  | .field name condition => logicalOperators.contains name = false ∧
      (isOperator name || dangerousKeys.contains name) = false ∧ condition.Legal
  | .logical operator operands => logicalOperators.contains operator = true ∧
      (0 < operands.length ∧ operands.length ≤ maxLogicalOperands) ∧
      ∀ operand ∈ operands, Q operand

/-- The store's form of a literal is its own store's form. -/
theorem storedLiteral_stored {value stored : Value} (found : storedLiteral value = some stored) :
    storedLiteral stored = some stored := by
  induction value using Value.induction generalizing stored with
  | array items ih =>
    cases storedAs_of_stored found with
    | @array _ kept few keeps =>
      have again : List.Forall₂ (fun item value => storedLiteral item = some value) kept kept := by
        rw [List.forall₂_same]
        intro item member
        obtain ⟨source, listed, stored⟩ := exists_of_mem_right keeps member
        exact ih source listed stored
      rw [storedLiteral, if_pos (by rw [← keeps.length_eq]; exact few), storedItems_iff.mpr again]
      rfl
    | leaf leaf => contradiction
  | object entries ih =>
    cases storedAs_of_stored found with
    | @object _ kept keeps =>
      have again : List.Forall₂ StoresEntry kept kept := by
        rw [List.forall₂_same]
        intro entry member
        obtain ⟨source, listed, safe, key, stored⟩ := exists_of_mem_right keeps member
        exact ⟨key ▸ safe, rfl, ih source listed stored⟩
      rw [storedLiteral, storedEntries_iff.mpr again]
      rfl
    | leaf leaf => contradiction
  | classed kind fields ih => contradiction
  | leaf value isLeaf =>
    cases storedAs_of_stored found with
    | leaf leaf flat again => exact again
    | _ => contradiction

theorem storedLiteral_plain {value stored : Value} (found : storedLiteral value = some stored)
    (plain : value.isPlainObject = false) : stored.isPlainObject = false := by
  cases storedAs_of_stored found with
  | array few keeps => rfl
  | object keeps => contradiction
  | leaf leaf flat =>
    cases stored with
    | object entries => contradiction
    | _ => rfl

variable {condition : Condition} {query : Query} {tree : Value}

theorem legal_of_parseCondition {value : Value} (parsed : parseCondition value = some condition) :
    condition.Legal := by
  cases readCondition_of_parse parsed with
  | tests operators reads =>
    refine ⟨?_, ?_⟩
    · intro empty
      rw [empty] at reads
      rw [List.forall₂_nil_right_iff.mp reads] at operators
      contradiction
    · intro test member
      obtain ⟨entry, _, comparison, key, found⟩ := exists_of_mem_right reads member
      exact ⟨key ▸ comparison, storedLiteral_stored found⟩
  | equality plain found =>
    refine ⟨List.cons_ne_nil _ _, ?_⟩
    exact List.forall_mem_singleton.mpr (⟨List.mem_cons_self, storedLiteral_stored found⟩)
  | literal single found => exact ⟨storedLiteral_plain found single, storedLiteral_stored found⟩

/-- What holds of a query when it holds of all operands in it holds of every query read. -/
theorem query_induction {Q : Query → Prop}
    (step : ∀ query : Query, (∀ clause ∈ query, clause.Legal Q) → Q query)
    (parsed : parseFilter tree = some query) : Q query := by
  refine (parse_induction (P := fun _ => Q) (Q := fun _ queries =>
    (0 < queries.length ∧ queries.length ≤ maxLogicalOperands) ∧ ∀ query ∈ queries, Q query)
    ?_ ?_ tree).1 query parsed
  · intro entries query operands reads
    apply step
    intro clause member
    obtain ⟨entry, listed, read⟩ := exists_of_mem_right reads member
    cases read with
    | logical logical found => exact ⟨logical, operands entry listed _ found⟩
    | field notLogical plain safe found =>
      exact ⟨notLogical, by rw [plain, safe]; rfl, legal_of_parseCondition found⟩
  · intro items queries filters allowed parses
    refine ⟨by rwa [parses.length_eq] at allowed, ?_⟩
    intro query member
    obtain ⟨item, listed, parsed⟩ := exists_of_mem_right parses member
    exact filters item listed query parsed

/-- A legal condition is read back from its normal form. -/
theorem parseCondition_normalized (legal : condition.Legal) :
    parseCondition condition.normalized = some condition := by
  cases condition with
  | literal value =>
    rw [Condition.normalized, parseCondition_single legal.1, legal.2]
    rfl
  | tests operands =>
    have operators : (operands.map Prod.fst).any isOperator = true := by
      obtain ⟨test, rest, same⟩ := List.exists_cons_of_ne_nil legal.1
      subst same
      have comparison := (legal.2 test List.mem_cons_self).1
      have each : ∀ name ∈ comparisonOperators, isOperator name = true := by decide
      rw [List.map_cons, List.any_cons, each test.1 comparison, Bool.true_or]
    have parses : List.Forall₂ (fun entry test => parseTest entry = some test)
        operands operands := by
      rw [List.forall₂_same]
      intro test member
      obtain ⟨comparison, stored⟩ := legal.2 test member
      exact parseTest_eq_some.mpr ⟨comparison, rfl, stored⟩
    rw [Condition.normalized, parseCondition, if_pos operators, mapM_eq_some_iff.mpr parses]
    rfl

/-- A query is read back from its normal form. -/
theorem parseFilter_normalized (parsed : parseFilter tree = some query) :
    parseFilter query.normalized = some query := by
  refine query_induction (Q := fun query => parseFilter query.normalized = some query) ?_ parsed
  intro query legal
  rw [Query.normalized, parseFilter, writeEntries_eq]
  apply parseClauses_iff.mpr
  rw [List.forall₂_map_left_iff, List.forall₂_same]
  intro clause member
  have legal := legal clause member
  cases clause with
  | field name condition =>
    obtain ⟨notLogical, plain, legal⟩ := legal
    show parseClause name _ condition.normalized = _
    rw [parseClause, notLogical, plain, if_neg Bool.false_ne_true, if_neg Bool.false_ne_true,
      parseCondition_normalized legal]
    rfl
  | logical operator operands =>
    obtain ⟨logical, count, operandsLegal⟩ := legal
    have parses : parseFilters (writeFilters writeNormalized operands) = some operands := by
      rw [writeFilters_eq]
      apply parseFilters_iff.mpr
      rw [List.forall₂_map_left_iff, List.forall₂_same]
      exact operandsLegal
    show parseClause operator (parseOperands (.array _)) _ = _
    rw [parseClause, if_pos logical, parseOperands,
      if_pos (by rwa [writeFilters_eq, List.length_map]), parses]
    rfl

/-- What `translateNormalized` makes of a condition: an empty array at `_id` loses its test. -/
def writeTranslated (name : String) (condition : Condition) : Value :=
  match condition with
  | .literal (.array []) => if name = "_id" then .object [] else condition.selected
  | _ => condition.selected

theorem translateOps_comparison {operands : Entries}
    (comparisons : ∀ test ∈ operands, test.1 ∈ comparisonOperators) :
    translateOps operands = .ok (.object operands) := by
  have each : ∀ test ∈ operands, translateOp test = .ok test := by
    intro test member
    rw [translateOp, if_pos (List.contains_iff_mem.mpr (comparisons test member))]
  have whole := mapM_eq_ok_iff.mpr (List.forall₂_same.mpr each)
  rw [translateOps, whole]
  rfl

/-- Keys of an array are no operators. -/
theorem index_not_operator {items : List Value} {key : String}
    (member : key ∈ (items.zipIdx.map fun indexed => (indexed.2.repr, indexed.1)).map Prod.fst) :
    key ∉ comparisonOperators ∧ key ≠ "$eq" := by
  obtain ⟨entry, listed, same⟩ := List.mem_map.mp member
  obtain ⟨indexed, _, here⟩ := List.mem_map.mp listed
  have text : isIndexText key = true := by
    rw [← same, ← here]
    exact isIndexText_repr indexed.2
  have each : ∀ name ∈ comparisonOperators, isIndexText name = false := by decide
  refine ⟨?_, ?_⟩
  · intro comparison
    rw [each key comparison] at text
    contradiction
  · intro equal
    rw [equal] at text
    contradiction

/-- An array at `_id` is taken for an operator object. -/
theorem translateField_idArray {items : List Value} {out : Value} :
    translateField "_id" (.array items) = .ok out ↔ items = [] ∧ out = .object [] := by
  have noEq : ((items.zipIdx.map fun indexed => (indexed.2.repr, indexed.1)).map
      Prod.fst).contains "$eq" = false := by
    rw [Bool.eq_false_iff]
    intro listed
    exact (index_not_operator (List.contains_iff_mem.mp listed)).2 rfl
  have taken : translateField "_id" (.array items) =
      translateOps (items.zipIdx.map fun indexed => (indexed.2.repr, indexed.1)) := by
    unfold translateField
    exact if_pos (by rw [objectEntries, Option.getD_some, noEq]; rfl)
  rw [taken]
  constructor
  · intro translated
    cases items with
    | nil => exact ⟨rfl, (Except.ok.inj translated).symm⟩
    | cons item items =>
      obtain ⟨tests, mapped, _⟩ := map_eq_ok translated
      have refused : translateOp (Nat.repr 0, item) =
        .error ⟨"Unsupported filter operator: 0"⟩ := rfl
      cases mapM_eq_ok_iff.mp mapped with
      | cons here _ =>
        rw [show translateOp _ = _ from refused] at here
        contradiction
  · rintro ⟨empty, same⟩
    rw [empty, same]
    rfl

theorem translateField_normalized {name : String} (legal : condition.Legal) {out : Value} :
    translateField name condition.normalized = .ok out ↔
      (∀ items ∈ clauseIdArrays (.field name condition), items = []) ∧
        out = writeTranslated name condition := by
  cases condition with
  | tests operands =>
    have comparisons : ∀ test ∈ operands, test.1 ∈ comparisonOperators :=
      fun test member => (legal.2 test member).1
    have operators : (operands.map Prod.fst).any isOperator = true := by
      obtain ⟨test, rest, same⟩ := List.exists_cons_of_ne_nil legal.1
      subst same
      have each : ∀ name ∈ comparisonOperators, isOperator name = true := by decide
      rw [List.map_cons, List.any_cons, each test.1 (comparisons test List.mem_cons_self),
        Bool.true_or]
    have translated : translateField name (.object operands) = .ok (.object operands) := by
      have whole := translateOps_comparison comparisons
      unfold translateField
      show (if _ then translateOps operands else if _ then translateOps operands else _) = _
      split
      · exact whole
      · rw [if_pos (by rw [objectEntries, Option.getD_some, operators]; rfl)]
        exact whole
    rw [Condition.normalized, translated, Except.ok.injEq]
    constructor
    · intro same
      exact ⟨fun _ member => absurd member List.not_mem_nil, same.symm⟩
    · rintro ⟨_, same⟩
      exact same.symm
  | literal value =>
    cases value with
    | array items =>
      rw [Condition.normalized, clauseIdArrays]
      by_cases id : name = "_id"
      · subst id
        rw [translateField_idArray, if_pos rfl]
        constructor
        · rintro ⟨empty, same⟩
          subst empty
          exact ⟨fun _ member => List.mem_singleton.mp member, same⟩
        · rintro ⟨each, same⟩
          have empty := each items List.mem_cons_self
          subst empty
          exact ⟨rfl, same⟩
      · have kept : translateField name (.array items) =
            .ok (Condition.literal (.array items)).selected := by
          unfold translateField
          simp [id, Value.isArray, Condition.selected]
        have written : writeTranslated name (.literal (.array items)) =
            (Condition.literal (.array items)).selected := by
          cases items with
          | nil => exact if_neg id
          | cons item items => rfl
        rw [kept, if_neg id, written, Except.ok.injEq]
        constructor
        · intro same
          exact ⟨fun _ member => absurd member List.not_mem_nil, same.symm⟩
        · rintro ⟨_, same⟩
          exact same.symm
    | object entries => exact absurd legal.1 (by simp [Value.isPlainObject])
    | date time =>
      cases time with
      | none | some time => exact absurd legal.2 (by simp [storedLiteral])
    | regexp source flags | classed kind fields => exact absurd legal.2 (by simp [storedLiteral])
    | _ =>
      unfold translateField
      simp [Condition.normalized, objectEntries, writeTranslated, Condition.selected,
        clauseIdArrays, eq_comm]

/-- What becomes of an entry's value. -/
def translateValue (entry : String × Value) : Except QueryFilterError Value :=
  if logicalOperators.contains entry.1 then translateOperands entry.2
  else translateField entry.1 entry.2

theorem translateEntries_cons (entry : String × Value) (entries : Entries) :
    translateEntries (entry :: entries) = (translateValue entry >>= fun out =>
      translateEntries entries >>= fun rest => .ok ((entry.1, out) :: rest)) := by
  rw [translateEntries, translateValue]
  split <;> rfl

theorem translateEntries_iff {entries out : Entries} :
    translateEntries entries = .ok out ↔ List.Forall₂ (fun entry translated =>
      entry.1 = translated.1 ∧ translateValue entry = .ok translated.2) entries out := by
  induction entries generalizing out with
  | nil =>
    rw [List.forall₂_nil_left_iff, translateEntries, Except.ok.injEq]
    exact eq_comm
  | cons entry entries ih =>
    rw [List.forall₂_cons_left_iff]
    constructor
    · intro translated
      rw [translateEntries_cons] at translated
      obtain ⟨value, here, later⟩ := bind_eq_ok translated
      obtain ⟨rest, there, same⟩ := bind_eq_ok later
      exact ⟨(entry.1, value), rest, ⟨rfl, here⟩, ih.mp there, (Except.ok.inj same).symm⟩
    · rintro ⟨translated, rest, ⟨key, here⟩, there, same⟩
      rw [translateEntries_cons, here, same, ← Prod.eta translated, ← key]
      show (translateEntries entries >>= fun _ => _) = _
      rw [ih.mpr there]
      rfl

theorem translateFilters_iff {operands out : List Value} :
    translateFilters operands = .ok out ↔
      List.Forall₂ (fun operand translated => translateNormalized operand = .ok translated)
        operands out := by
  induction operands generalizing out with
  | nil =>
    rw [List.forall₂_nil_left_iff, translateFilters, Except.ok.injEq]
    exact eq_comm
  | cons operand operands ih =>
    rw [List.forall₂_cons_left_iff]
    constructor
    · intro translated
      rw [translateFilters] at translated
      obtain ⟨value, here, later⟩ := bind_eq_ok translated
      obtain ⟨rest, there, same⟩ := bind_eq_ok later
      exact ⟨value, rest, here, ih.mp there, (Except.ok.inj same).symm⟩
    · rintro ⟨value, rest, here, there, same⟩
      rw [translateFilters, here, same]
      show (translateFilters operands >>= fun _ => _) = _
      rw [ih.mpr there]
      rfl

/-- Translation fails on a query that compares `_id` with an array of some length, and writes
any other. -/
def Translates (query : Query) : Prop :=
  ∀ out, translateNormalized query.normalized = .ok out ↔
    (∀ items ∈ idArrays query, items = []) ∧ out = .object (writeEntries writeTranslated query)

theorem translateValue_clause {clause : Clause} (legal : clause.Legal Translates) (out : Value) :
    translateValue (writeEntry writeNormalized clause) = .ok out ↔
      (∀ items ∈ clauseIdArrays clause, items = []) ∧
        out = (writeEntry writeTranslated clause).2 := by
  cases clause with
  | field name condition =>
    obtain ⟨notLogical, _, legal⟩ := legal
    show (if logicalOperators.contains name = true then _ else _) = _ ↔ _
    rw [notLogical, if_neg Bool.false_ne_true]
    exact translateField_normalized legal
  | logical operator operands =>
    obtain ⟨logical, _, translates⟩ := legal
    show (if logicalOperators.contains operator = true then _ else _) = _ ↔
      (∀ items ∈ operandsIdArrays operands, items = []) ∧
        out = .array (writeFilters writeTranslated operands)
    rw [if_pos logical]
    show (translateFilters (writeFilters writeNormalized operands)).map .array = .ok out ↔ _
    rw [writeFilters_eq, writeFilters_eq]
    constructor
    · intro translated
      obtain ⟨values, here, same⟩ := map_eq_ok translated
      have each := List.forall₂_map_left_iff.mp (translateFilters_iff.mp here)
      have below : List.Forall₂ (fun operand value =>
          (∀ items ∈ idArrays operand, items = []) ∧
            value = .object (writeEntries writeTranslated operand)) operands values := by
        refine forall₂_meet ?_ (List.forall₂_same.mpr fun _ _ => rfl) each
        intro operand member source value _ same translated
        subst same
        exact (translates operand member value).mp translated
      refine ⟨?_, ?_⟩
      · intro items member
        obtain ⟨operand, listed, inside⟩ := mem_operandsIdArrays.mp member
        obtain ⟨value, _, held⟩ := exists_of_mem_right below.flip listed
        exact held.1 items inside
      · rw [← same, eq_map_of_forall₂ (below.imp fun _ _ held => held.2)]
    · rintro ⟨empty, same⟩
      have each : List.Forall₂ (fun operand translated =>
          translateNormalized operand = .ok translated)
          (operands.map fun operand => .object (writeEntries writeNormalized operand))
          (operands.map fun operand => .object (writeEntries writeTranslated operand)) := by
        rw [List.forall₂_map_left_iff, List.forall₂_map_right_iff, List.forall₂_same]
        intro operand member
        refine (translates operand member _).mpr ⟨?_, rfl⟩
        exact fun items inside =>
          empty items (mem_operandsIdArrays.mpr ⟨operand, member, inside⟩)
      rw [translateFilters_iff.mpr each, same]
      rfl

theorem translates_of_legal (query : Query) (legal : ∀ clause ∈ query, clause.Legal Translates) :
    Translates query := by
  intro out
  rw [Query.normalized, translateNormalized, writeEntries_eq, writeEntries_eq]
  constructor
  · intro translated
    obtain ⟨entries, here, same⟩ := map_eq_ok translated
    have each := List.forall₂_map_left_iff.mp (translateEntries_iff.mp here)
    have below : List.Forall₂ (fun clause entry =>
        (∀ items ∈ clauseIdArrays clause, items = []) ∧
          entry = writeEntry writeTranslated clause) query entries := by
      refine forall₂_meet ?_ (List.forall₂_same.mpr fun _ _ => rfl) each
      rintro clause member source entry _ equal ⟨key, translated⟩
      subst equal
      obtain ⟨empty, value⟩ := (translateValue_clause (legal clause member) entry.2).mp translated
      refine ⟨empty, Prod.ext ?_ value⟩
      rw [← key]
      cases clause <;> rfl
    refine ⟨?_, ?_⟩
    · intro items member
      obtain ⟨clause, listed, inside⟩ := mem_idArrays.mp member
      obtain ⟨entry, _, held⟩ := exists_of_mem_right below.flip listed
      exact held.1 items inside
    · rw [← same, eq_map_of_forall₂ (below.imp fun _ _ held => held.2)]
  · rintro ⟨empty, same⟩
    have each : List.Forall₂ (fun entry translated : String × Value =>
        entry.1 = translated.1 ∧ translateValue entry = .ok translated.2)
        (query.map (writeEntry writeNormalized)) (query.map (writeEntry writeTranslated)) := by
      rw [List.forall₂_map_left_iff, List.forall₂_map_right_iff, List.forall₂_same]
      intro clause member
      refine ⟨by cases clause <;> rfl, ?_⟩
      refine (translateValue_clause (legal clause member) _).mpr ⟨?_, rfl⟩
      exact fun items inside => empty items (mem_idArrays.mpr ⟨clause, member, inside⟩)
    rw [translateEntries_iff.mpr each, same]
    rfl

/-- What a query that was read is translated to. -/
theorem translates_of_parse (parsed : parseFilter tree = some query) : Translates query :=
  query_induction translates_of_legal parsed

/-- Where every array at `_id` is empty, the selector states the query when there is none. -/
def LosesEmptyId (query : Query) : Prop :=
  (∀ items ∈ idArrays query, items = []) →
    (writeEntries writeTranslated query = writeEntries writeSelected query ↔
      [] ∉ idArrays query)

theorem translated_eq_selected_clause {clause : Clause} (legal : clause.Legal LosesEmptyId)
    (empty : ∀ items ∈ clauseIdArrays clause, items = []) :
    writeEntry writeTranslated clause = writeEntry writeSelected clause ↔
      [] ∉ clauseIdArrays clause := by
  cases clause with
  | field name condition =>
    show (name, writeTranslated name condition) = (name, condition.selected) ↔ _
    by_cases emptyArray : condition = .literal (.array [])
    · subst emptyArray
      rw [clauseIdArrays]
      by_cases id : name = "_id"
      · simp [id, writeTranslated, Condition.selected]
      · simp [id, writeTranslated]
    · have written : writeTranslated name condition = condition.selected := by
        unfold writeTranslated
        split
        · exact absurd rfl emptyArray
        · rfl
      have absent : [] ∉ clauseIdArrays (.field name condition) := by
        intro member
        unfold clauseIdArrays at member
        split at member
        · next items =>
          split at member
          · exact emptyArray (by rw [List.mem_singleton.mp member])
          · exact absurd member List.not_mem_nil
        · exact absurd member List.not_mem_nil
      rw [written]
      exact ⟨fun _ => absent, fun _ => rfl⟩
  | logical operator operands =>
    obtain ⟨_, _, each⟩ := legal
    show (operator, Value.array (writeFilters writeTranslated operands)) =
      (operator, Value.array (writeFilters writeSelected operands)) ↔
        [] ∉ operandsIdArrays operands
    rw [Prod.mk.injEq, Value.array.injEq, writeFilters_eq, writeFilters_eq, List.map_inj_left]
    constructor
    · rintro ⟨_, same⟩ member
      obtain ⟨operand, listed, inside⟩ := mem_operandsIdArrays.mp member
      have emptyBelow := fun items held =>
        empty items (mem_operandsIdArrays.mpr ⟨operand, listed, held⟩)
      exact (each operand listed emptyBelow).mp (Value.object.inj (same operand listed)) inside
    · intro absent
      refine ⟨rfl, ?_⟩
      intro operand listed
      have emptyBelow := fun items held =>
        empty items (mem_operandsIdArrays.mpr ⟨operand, listed, held⟩)
      have absentBelow : [] ∉ idArrays operand := fun inside =>
        absent (mem_operandsIdArrays.mpr ⟨operand, listed, inside⟩)
      rw [(each operand listed emptyBelow).mpr absentBelow]

theorem translated_eq_selected (parsed : parseFilter tree = some query) : LosesEmptyId query := by
  refine query_induction ?_ parsed
  intro query legal empty
  rw [writeEntries_eq, writeEntries_eq, List.map_inj_left]
  have emptyBelow : ∀ clause ∈ query, ∀ items ∈ clauseIdArrays clause, items = [] :=
    fun clause listed items held => empty items (mem_idArrays.mpr ⟨clause, listed, held⟩)
  constructor
  · intro same member
    obtain ⟨clause, listed, inside⟩ := mem_idArrays.mp member
    exact (translated_eq_selected_clause (legal clause listed) (emptyBelow clause listed)).mp
      (same clause listed) inside
  · intro absent clause listed
    refine (translated_eq_selected_clause (legal clause listed) (emptyBelow clause listed)).mpr ?_
    exact fun inside => absent (mem_idArrays.mpr ⟨clause, listed, inside⟩)

end WebTsToolkit.MongooseRxdb
