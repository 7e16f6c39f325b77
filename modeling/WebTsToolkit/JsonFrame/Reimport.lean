import WebTsToolkit.JsonFrame.Content
import WebTsToolkit.Utils.ObjectEntries

set_option autoImplicit false

namespace WebTsToolkit.JsonFrame

open Js Utils DataFrame

def orientName : ResolvedOrient → String
  | .records => "records"
  | .index => "index"
  | .columns => "columns"
  | .values => "values"
  | .split => "split"
  | .table => "table"

/-- Options that only name a layout. -/
def orientOptions (orient : ResolvedOrient) : Value :=
  .object [("orient", .string (orientName orient))]

theorem normalize_orientOptions (orient : ResolvedOrient) :
    normalizeFromOrientOptions (orientOptions orient) = .ok { orient := some orient } := by
  cases orient <;> rfl

/-- Where each column has a source the state can be built. -/
theorem BuiltColumns.collect_of_computed {ι : Type} {threshold : Nat} {key : ι → String}
    {compute : ι → Except JsonFrameError (List Value × ColumnInfo)} {items : List ι}
    (computed : ∀ item ∈ items, ∃ source, compute item = .ok source) (built : BuiltColumns) :
    ∃ final, BuiltColumns.collect threshold key compute items built = .ok final := by
  induction items generalizing built with
  | nil => exact ⟨built, rfl⟩
  | cons item items ih =>
    obtain ⟨source, here⟩ := computed item List.mem_cons_self
    obtain ⟨final, rest⟩ :=
      ih (fun other member => computed other (List.mem_cons_of_mem _ member))
        (built.add threshold (key item) source)
    refine ⟨final, ?_⟩
    rw [BuiltColumns.collect, List.foldlM_cons, here]
    exact rest

/-- A frame with these rows. -/
structure Presents (state : FrameState) (columns : UniqueLabels) (index : List IndexLabel)
    (indexKind : IndexKind) (rows : List (String → Value)) : Prop where
  columns : state.columns = columns
  index : state.index = index
  indexKind : state.indexKind = indexKind
  values : ∀ column ∈ state.columns.1, state.valuesOf column = some (rows.map (· column))

theorem createFrameState_of_tabulates {parsed : ParsedFrame} {options : NormalizedFromOrientOptions}
    (untyped : options.columnTypes = none) {rows : List (String → Value)}
    (table : Tabulates parsed.columns parsed.data rows) :
    ∃ state, createFrameState parsed options = .ok state ∧
      Presents state parsed.columns parsed.index parsed.indexKind rows := by
  have computed : ∀ position ∈ parsed.columns.1.zipIdx, ∃ source,
      buildColumn parsed options position = .ok source := by
    intro position member
    obtain ⟨column, columnIndex⟩ := position
    have listed : column ∈ parsed.columns.1 := List.fst_mem_of_mem_zipIdx member
    have read : parsedColumn parsed column = .ok (rows.map (· column)) := by
      rw [parsedColumn, table.cells column listed]
    unfold buildColumn
    dsimp only
    rw [read, untyped]
    show ∃ source, (if (_ && false) = true then _ else _) = Except.ok source
    rw [Bool.and_false, if_neg Bool.false_ne_true]
    exact ⟨_, rfl⟩
  obtain ⟨built, collected⟩ := BuiltColumns.collect_of_computed computed {}
  have created : createFrameState parsed options = .ok (stateOf parsed built) := by
    rw [createFrameState, validateExplicitColumnTypes, untyped]
    show (BuiltColumns.collect _ _ _ _ _ >>= _) = _
    rw [collected]
    rfl
  have frame := createFrameState_eq_ok created
  refine ⟨_, created, frame.columns, frame.index, frame.indexKind, fun column member => ?_⟩
  rw [frame.columns] at member
  obtain ⟨values, stored, read, held, same⟩ := frame.stored column member
  rw [table.cells column member] at read
  rw [FrameState.valuesOf, held, Option.map_some, same, Option.some.inj read]

/-- A payload of a layout that its parser accepts is imported. -/
theorem fromOrient_of_parsed (jsonParse : String → Option Value) {payload : Value}
    {orient : ResolvedOrient} {parsed : ParsedFrame} {rows : List (String → Value)}
    (structured : payload.isLeaf = false) (json : isJsonAt 0 payload = true)
    (read : parseOrient payload none orient = .ok parsed)
    (table : Tabulates parsed.columns parsed.data rows) :
    ∃ frame, fromOrient jsonParse payload (orientOptions orient) = .ok frame ∧
      Presents frame.state parsed.columns parsed.index parsed.indexKind rows := by
  have text : readInput jsonParse payload = .ok payload := by
    cases payload with
    | string text => contradiction
    | _ => rfl
  have parsedInput : parseInput jsonParse payload { orient := some orient } = .ok parsed := by
    rw [parseInput_eq, text]
    show (cloneJsonCompatible payload (some orient) "$" none >>= _) = _
    rw [cloneJsonCompatible_unbounded _ _ json]
    exact read
  obtain ⟨state, created, presents⟩ : ∃ state,
      createFrameState parsed { orient := some orient } = .ok state ∧ Presents state _ _ _ rows :=
    createFrameState_of_tabulates rfl table
  refine ⟨{ state, packThreshold := defaultPackThreshold }, ?_, presents⟩
  rw [fromOrient, normalize_orientOptions]
  show (parseInput jsonParse payload { orient := some orient } >>= _) = _
  rw [parsedInput]
  show (createFrameState parsed { orient := some orient } >>= _) = _
  rw [created]
  rfl

/-- Only payloads within the depth limit are imported. -/
theorem json_of_fromOrient {jsonParse : String → Option Value} {payload : Value}
    {orient : ResolvedOrient} {frame : DataFrame} (structured : payload.isLeaf = false)
    (imported : fromOrient jsonParse payload (orientOptions orient) = .ok frame) :
    isJsonAt 0 payload = true := by
  obtain ⟨normalized, parsed, accepted, read, _⟩ := fromOrient_eq_ok imported
  rw [parseInput_eq] at read
  obtain ⟨source, text, read⟩ := Library.bind_eq_ok read
  obtain ⟨value, cloned, _⟩ := Library.bind_eq_ok read
  have same : source = payload := by
    cases payload with
    | string text => contradiction
    | _ => exact (Except.ok.inj text).symm
  rw [← same]
  exact (cloneJsonCompatible_eq_ok cloned).2

/-- The cell of a row in a column. -/
def FrameState.cellAt (state : FrameState) (position : Nat) (column : String) : Value :=
  ((state.valuesOf column).getD [])[position]?.getD .undefined

/-- The rows of a frame. -/
def FrameState.grid (state : FrameState) : List (String → Value) :=
  (List.range state.index.length).map state.cellAt

/-- The entries of `objectOf`. -/
def entriesWith (properties : List (String × Value)) : Entries :=
  properties.foldl (fun entries (key, value) => defineEntry entries key value) []

theorem objectOf_eq (properties : List (String × Value)) :
    objectOf properties = .object (entriesWith properties) :=
  rfl

variable {properties : List (String × Value)}

theorem mem_defineAll {entries : Entries} {entry : String × Value}
    (member : entry ∈ properties.foldl
      (fun entries (key, value) => defineEntry entries key value) entries) :
    entry ∈ properties ∨ entry ∈ entries := by
  induction properties generalizing entries with
  | nil => exact Or.inr member
  | cons property properties ih =>
    rcases ih member with later | before
    · exact Or.inl (List.mem_cons_of_mem _ later)
    · rcases mem_defineEntry before with rfl | before
      · exact Or.inl List.mem_cons_self
      · exact Or.inr before

theorem mem_entriesWith {entry : String × Value} (member : entry ∈ entriesWith properties) :
    entry ∈ properties :=
  (mem_defineAll member).resolve_right List.not_mem_nil

/-- Distinct properties are all read back. -/
theorem getOwn_entriesWith (distinct : (properties.map Prod.fst).Nodup) (key : String) :
    getOwn (entriesWith properties) key = getOwn properties key := by
  have reversed : ((properties.reverse).map Prod.fst).Nodup := by
    rw [List.map_reverse, List.nodup_reverse]
    exact distinct
  have same : getOwn properties.reverse key = getOwn properties key := by
    apply Option.ext
    intro value
    constructor
    · intro found
      exact getOwn_eq_some_of_mem distinct (List.mem_reverse.mp (mem_of_getOwn found))
    · intro found
      exact getOwn_eq_some_of_mem reversed (List.mem_reverse.mpr (mem_of_getOwn found))
  rw [entriesWith, getOwn_defineAll, ← same]
  exact Option.or_none

/-- The keys are those of the properties. -/
theorem mem_keys_entriesWith (distinct : (properties.map Prod.fst).Nodup) {key : String} :
    key ∈ (entriesWith properties).map Prod.fst ↔ key ∈ properties.map Prod.fst := by
  constructor
  · intro member
    obtain ⟨entry, listed, rfl⟩ := List.mem_map.mp member
    exact List.mem_map_of_mem (mem_entriesWith listed)
  · intro member
    obtain ⟨entry, listed, rfl⟩ := List.mem_map.mp member
    have found := getOwn_eq_some_of_mem distinct listed
    rw [← getOwn_entriesWith distinct] at found
    exact List.mem_map_of_mem (mem_of_getOwn found)

/-- One property for each key. -/
theorem getOwn_keyed {keys : List String} (value : String → Value) {key : String}
    (member : key ∈ keys) : getOwn (keys.map fun key => (key, value key)) key = some (value key) := by
  induction keys with
  | nil => exact absurd member List.not_mem_nil
  | cons first keys ih =>
    rw [List.map_cons, getOwn_cons]
    by_cases here : key = first
    · rw [if_pos here, here]
    · rw [if_neg here]
      exact ih ((List.mem_cons.mp member).resolve_left here)

theorem keys_keyed (keys : List String) (value : String → Value) :
    (keys.map fun key => (key, value key)).map Prod.fst = keys := by
  rw [List.map_map]
  exact List.map_id keys

/-- An object with one property for each of some distinct keys. -/
theorem ownCell_keyed {keys : List String} (distinct : keys.Nodup) (value : String → Value)
    {key : String} (member : key ∈ keys) :
    ownCell (entriesWith (keys.map fun key => (key, value key))) key = value key := by
  rw [ownCell, getOwn_entriesWith (by rw [keys_keyed]; exact distinct), getOwn_keyed value member]
  rfl

theorem mem_ofKeys_keyed {keys : List String} (distinct : keys.Nodup) (value : String → Value)
    {key : String} :
    key ∈ (UniqueLabels.ofKeys (entriesWith (keys.map fun key => (key, value key)))).1 ↔
      key ∈ keys := by
  rw [mem_ofKeys, mem_keys_entriesWith (by rw [keys_keyed]; exact distinct), keys_keyed]

theorem keyed_json {depth : Nat} {keys : List String} {value : String → Value}
    (json : ∀ key ∈ keys, isJsonAt (depth + 1) (value key) = true) (inside : depth ≤ maxDepth) :
    isJsonAt depth (.object (entriesWith (keys.map fun key => (key, value key)))) = true := by
  rw [isJsonAt_object]
  refine ⟨inside, fun entry member => ?_⟩
  obtain ⟨key, listed, rfl⟩ := List.mem_map.mp (mem_entriesWith member)
  exact json key listed

/-- The cells of a row under the names of their columns. -/
def FrameState.rowEntries (state : FrameState) (position : Nat) : Entries :=
  entriesWith (state.columns.1.map fun column => (column, state.cellAt position column))

theorem zip_map_self {α β : Type} (items : List α) (value : α → β) :
    items.zip (items.map value) = items.map fun item => (item, value item) := by
  induction items with
  | nil => rfl
  | cons item items ih => rw [List.map_cons, List.zip_cons_cons, ih, List.map_cons]

theorem rowObject_eq {state : FrameState} {storedColumns : List StoredColumn} {position : Nat}
    (cells : rowCells storedColumns position = state.columns.1.map (state.cellAt position)) :
    rowObject state.columns.1 storedColumns position = .object (state.rowEntries position) := by
  rw [rowObject, cells, zip_map_self, objectOf_eq]
  rfl

namespace Sound

variable {state : FrameState} {column : String}

/-- The columns of the grid are the columns of the frame. -/
theorem values_eq (sound : Sound state) (member : column ∈ state.columns.1) :
    state.valuesOf column = some (state.grid.map (· column)) := by
  obtain ⟨values, read, length, _⟩ := sound.cells column member
  rw [read, FrameState.grid, List.map_map]
  congr 1
  apply List.ext_getElem
  · rw [List.length_map, List.length_range, length]
  · intro position inside inside'
    rw [List.getElem_map, List.getElem_range]
    show _ = ((state.valuesOf column).getD [])[position]?.getD .undefined
    rw [read, Option.getD_some, List.getElem?_eq_getElem inside, Option.getD_some]

theorem cellAt_json (sound : Sound state) (member : column ∈ state.columns.1) {position : Nat}
    (inside : position < state.index.length) :
    isJsonAt 2 (state.cellAt position column) = true := by
  obtain ⟨values, read, length, json⟩ := sound.cells column member
  have within : position < values.length := by omega
  rw [FrameState.cellAt, read, Option.getD_some, List.getElem?_eq_getElem within, Option.getD_some]
  exact json _ (List.getElem_mem within)

/-- A column is stored with the cells that reads give. -/
theorem getStoredColumn_eq (sound : Sound state) (member : column ∈ state.columns.1) :
    ∃ stored, getStoredColumn state column = .ok stored ∧
      ∀ position, getStoredColumnValue stored position = state.cellAt position column := by
  obtain ⟨values, read, _, _⟩ := sound.cells column member
  unfold FrameState.valuesOf at read
  cases found : state.data.lookup column with
  | none =>
    rw [found] at read
    contradiction
  | some stored =>
    refine ⟨stored, by rw [getStoredColumn, found], fun position => ?_⟩
    rw [getStoredColumnValue_eq, FrameState.cellAt, FrameState.valuesOf, found]
    rfl

theorem resolveStoredColumns_eq (sound : Sound state) : ∃ storedColumns,
    resolveStoredColumns state = .ok storedColumns ∧
      ∀ position, rowCells storedColumns position = state.columns.1.map (state.cellAt position) := by
  have each : ∀ columns : List String, (∀ column ∈ columns, column ∈ state.columns.1) →
      ∃ storedColumns, columns.mapM (getStoredColumn state) = .ok storedColumns ∧
        ∀ position, rowCells storedColumns position = columns.map (state.cellAt position) := by
    intro columns members
    induction columns with
    | nil => exact ⟨[], rfl, fun _ => rfl⟩
    | cons column columns ih =>
      obtain ⟨stored, found, cells⟩ := sound.getStoredColumn_eq (members column List.mem_cons_self)
      obtain ⟨others, rest, otherCells⟩ :=
        ih fun other member => members other (List.mem_cons_of_mem _ member)
      refine ⟨stored :: others, ?_, fun position => ?_⟩
      · rw [List.mapM_cons, found, rest]
        rfl
      · rw [List.map_cons, ← otherCells, ← cells]
        rfl
  exact each state.columns.1 fun _ member => member

variable {state : FrameState}

theorem ownCell_row {position : Nat} {column : String} (member : column ∈ state.columns.1) :
    ownCell (state.rowEntries position) column = state.cellAt position column :=
  ownCell_keyed state.columns.2 _ member

theorem row_json (sound : Sound state) {position : Nat} (inside : position < state.index.length) :
    isJsonAt 1 (.object (state.rowEntries position)) = true :=
  keyed_json (fun _ member => sound.cellAt_json member inside) (by decide)

/-- What the records layout exports. -/
theorem exportRecords_eq (sound : Sound state) : exportRecords state = .ok (.array
    ((List.range state.index.length).map fun position => .object (state.rowEntries position))) := by
  obtain ⟨storedColumns, resolved, cells⟩ := sound.resolveStoredColumns_eq
  rw [exportRecords, resolved]
  show Except.ok (Value.array _) = _
  rw [List.map_congr_left fun position _ => rowObject_eq (cells position)]

end Sound

theorem collectRows_done (refusal : Nat → JsonFrameError) (rows : List Entries) :
    ∃ final, collectRows refusal 0 {} (rows.map .object) = .ok final ∧ final.Discovers rows := by
  obtain ⟨final, done⟩ := collectRows_of_rows refusal rows 0 {}
  obtain ⟨rows', same, discovers⟩ := collectRows_eq done discovers_start
  have injective : Function.Injective Value.object := fun _ _ equal => Value.object.inj equal
  rw [← List.map_injective_iff.mpr injective same] at discovers
  exact ⟨final, done, discovers⟩

/-- The columns are the keys of the rows. -/
def Discovered (columns : UniqueLabels) (rows : List Entries) : Prop :=
  ∀ column, column ∈ columns.1 ↔ ∃ row ∈ rows, column ∈ row.map Prod.fst

theorem Collected.Discovers.discovered {collected : Collected} {rows : List Entries}
    (discovers : collected.Discovers rows) : Discovered collected.columns rows := by
  intro column
  constructor
  · exact discovers.sound column
  · intro found
    obtain ⟨row, member, held⟩ := found
    exact discovers.complete row member column held

/-- What the parser makes of rows of objects. -/
structure ReadObjects (parsed : ParsedFrame) (index : List IndexLabel) (rows : List Entries) :
    Prop where
  columns : Discovered parsed.columns rows
  index : parsed.index = index
  table : Tabulates parsed.columns parsed.data (rows.map ownCell)

theorem parseRecords_of_rows (rows : List Entries) :
    ∃ parsed, parseRecords (.array (rows.map .object)) = .ok parsed ∧
      ReadObjects parsed (positions rows.length) rows := by
  obtain ⟨collected, done, discovers⟩ := collectRows_done (fun rowIndex => .validation
    "`records` rows must be JSON objects."
    { orient := some .records, path := some (appendIndexPath "$" rowIndex),
      row := some rowIndex }) rows
  obtain ⟨data, finalized, table⟩ := finalizeFrame_of_tabulates
    { orient := .records
      columns := collected.columns
      index := positions (rows.map Value.object).length
      indexKind := .synthetic
      data := collected.data } discovers.table
  rw [parseRecords, done]
  refine ⟨_, finalized, discovers.discovered, ?_, table⟩
  show positions _ = _
  rw [List.length_map]

theorem parseIndex_of_rows {entries : Entries} {row : String → Entries}
    (shape : ∀ key ∈ (UniqueLabels.ofKeys entries).1, ownCell entries key = .object (row key)) :
    ∃ parsed, parseIndex (.object entries) = .ok parsed ∧
      ReadObjects parsed ((UniqueLabels.ofKeys entries).1.map .string)
        ((UniqueLabels.ofKeys entries).1.map row) := by
  have items : (UniqueLabels.ofKeys entries).1.map (ownCell entries) =
      ((UniqueLabels.ofKeys entries).1.map row).map .object := by
    rw [List.map_map]
    exact List.map_congr_left shape
  obtain ⟨collected, done, discovers⟩ := collectRows_done (fun rowIndex => .validation
    "`index` payload rows must be JSON objects."
    { orient := some .index
      path := some (appendPropertyPath "$" ((UniqueLabels.ofKeys entries).1[rowIndex]?.getD ""))
      row := some rowIndex }) ((UniqueLabels.ofKeys entries).1.map row)
  obtain ⟨data, finalized, table⟩ := finalizeFrame_of_tabulates
    { orient := .index
      columns := collected.columns
      index := (UniqueLabels.ofKeys entries).1.map .string
      indexKind := .source
      data := collected.data } discovers.table
  rw [parseIndex, items, done]
  exact ⟨_, finalized, discovers.discovered, rfl, table⟩

/-- The columns of a frame that has rows come back from objects of its rows. -/
theorem mem_columns_of_rows {ι : Type} {state : FrameState} {columns : UniqueLabels}
    {items : List ι} {position : ι → Nat}
    (discovered : Discovered columns (items.map fun item => state.rowEntries (position item)))
    {column : String} : column ∈ columns.1 ↔ items ≠ [] ∧ column ∈ state.columns.1 := by
  have keys : ∀ position, column ∈ (state.rowEntries position).map Prod.fst ↔
      column ∈ state.columns.1 := by
    intro position
    rw [FrameState.rowEntries, mem_keys_entriesWith (by rw [keys_keyed]; exact state.columns.2),
      keys_keyed]
  rw [discovered column]
  constructor
  · intro found
    obtain ⟨row, listed, held⟩ := found
    obtain ⟨item, there, rfl⟩ := List.mem_map.mp listed
    exact ⟨List.ne_nil_of_mem there, (keys _).mp held⟩
  · intro held
    obtain ⟨nonempty, member⟩ := held
    obtain ⟨item, there⟩ := List.exists_mem_of_ne_nil _ nonempty
    exact ⟨_, List.mem_map_of_mem there, (keys _).mpr member⟩

end WebTsToolkit.JsonFrame
