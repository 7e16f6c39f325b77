import WebTsToolkit.JsonFrame.Payload

set_option autoImplicit false

namespace WebTsToolkit.JsonFrame

open Js Utils

namespace StoredColumn

/-- The same cells as a list. -/
def unpacked (column : StoredColumn) : StoredColumn :=
  .plain column.values

@[simp] theorem values_unpacked (column : StoredColumn) :
    column.unpacked.values = column.values :=
  rfl

end StoredColumn

@[simp] theorem getStoredColumnValue_unpacked (column : StoredColumn) :
    getStoredColumnValue column.unpacked = getStoredColumnValue column := by
  funext position
  rw [getStoredColumnValue_eq, getStoredColumnValue_eq, StoredColumn.values_unpacked]

theorem rebuildStoredColumn_unpacked (column : StoredColumn) (positions : List Nat) :
    rebuildStoredColumn column.unpacked positions = rebuildStoredColumn column positions := by
  rw [rebuildStoredColumn, rebuildStoredColumn, getStoredColumnValue_unpacked]

theorem unpacked_packColumn (values : List Value) (info : ColumnInfo) (packThreshold : Nat) :
    (packColumn values info packThreshold).unpacked = .plain values := by
  rw [StoredColumn.unpacked, values_packColumn]

namespace FrameState

/-- The state with all its columns as lists. -/
def unpacked (state : FrameState) : FrameState :=
  { state with data := state.data.mapValues StoredColumn.unpacked }

theorem lookup_unpacked (state : FrameState) (column : String) :
    state.unpacked.data.lookup column = (state.data.lookup column).map StoredColumn.unpacked :=
  Map.lookup_mapValues _ _ _

end FrameState

theorem map_map_except {α β γ : Type} (result : Except JsonFrameError α) (f : α → β)
    (g : β → γ) : (result.map f).map g = result.map fun value => g (f value) := by
  cases result <;> rfl

/-- Two folds that keep their accumulators alike end alike, or fail alike. -/
theorem foldlM_alike {ι α γ : Type} (view : α → γ) {step step' : α → ι → Except JsonFrameError α}
    (keeps : ∀ first second item, view first = view second →
      (step first item).map view = (step' second item).map view) :
    ∀ (items : List ι) (first second : α), view first = view second →
      (items.foldlM step first).map view = (items.foldlM step' second).map view := by
  intro items
  induction items with
  | nil =>
    intro first second same
    exact congrArg Except.ok same
  | cons item items ih =>
    intro first second same
    have kept := keeps first second item same
    rw [List.foldlM_cons, List.foldlM_cons]
    cases one : step first item with
    | error reason =>
      rw [one] at kept
      cases other : step' second item with
      | error reason' =>
        rw [other] at kept
        exact kept
      | ok after => rw [other] at kept; contradiction
    | ok after =>
      rw [one] at kept
      cases other : step' second item with
      | error reason' => rw [other] at kept; contradiction
      | ok after' =>
        rw [other] at kept
        exact ih after after' (Except.ok.inj kept)

namespace BuiltColumns

def unpacked (built : BuiltColumns) : BuiltColumns :=
  { built with data := built.data.mapValues StoredColumn.unpacked }

/-- The threshold only decides the storage of a column. -/
theorem unpacked_add {built built' : BuiltColumns} (same : built.unpacked = built'.unpacked)
    (column : String) (source : List Value × ColumnInfo) (threshold threshold' : Nat) :
    (built.add threshold column source).unpacked =
      (built'.add threshold' column source).unpacked := by
  have data : built.data.mapValues StoredColumn.unpacked =
      built'.data.mapValues StoredColumn.unpacked := congrArg BuiltColumns.data same
  have columnInfo : built.unpacked.columnInfo = built'.unpacked.columnInfo := by rw [same]
  have columnInfo : built.columnInfo = built'.columnInfo := columnInfo
  simp only [unpacked, add, Map.mapValues_set, unpacked_packColumn, data, columnInfo]

theorem map_collect {ι : Type} (threshold threshold' : Nat) (key : ι → String)
    (compute : ι → Except JsonFrameError (List Value × ColumnInfo)) (items : List ι) :
    (collect threshold key compute items {}).map unpacked =
      (collect threshold' key compute items {}).map unpacked := by
  refine foldlM_alike unpacked (fun built built' item same => ?_) items {} {} rfl
  cases compute item with
  | error reason => rfl
  | ok source => exact congrArg Except.ok (unpacked_add same (key item) source _ _)

end BuiltColumns

/-- A payload becomes the same cells whatever the threshold. -/
theorem map_createFrameState (frame : ParsedFrame) (options : NormalizedFromOrientOptions)
    (threshold : Nat) :
    (createFrameState frame options).map FrameState.unpacked =
      (createFrameState frame { options with packThreshold := threshold }).map
        FrameState.unpacked := by
  unfold createFrameState
  show Except.map _ (validateExplicitColumnTypes frame.columns.1 options.columnTypes >>= _) =
    Except.map _ (validateExplicitColumnTypes frame.columns.1 options.columnTypes >>= _)
  cases validateExplicitColumnTypes frame.columns.1 options.columnTypes with
  | error reason => rfl
  | ok checked =>
    have built := BuiltColumns.map_collect options.packThreshold threshold Prod.fst
      (buildColumn frame options) frame.columns.1.zipIdx
    have states := congrArg (Except.map (stateOf frame)) built
    rw [map_map_except, map_map_except] at states
    show Except.map _ (BuiltColumns.collect options.packThreshold Prod.fst
        (buildColumn frame options) frame.columns.1.zipIdx {} >>= _) =
      Except.map _ (BuiltColumns.collect threshold Prod.fst
        (buildColumn frame options) frame.columns.1.zipIdx {} >>= _)
    revert states
    cases BuiltColumns.collect options.packThreshold Prod.fst (buildColumn frame options)
        frame.columns.1.zipIdx {} <;>
      cases BuiltColumns.collect threshold Prod.fst (buildColumn frame options)
        frame.columns.1.zipIdx {} <;>
      exact fun states => states

theorem map_createFrameStateFromRebuiltData (frame : RebuiltFrame) (threshold threshold' : Nat) :
    (createFrameStateFromRebuiltData frame threshold).map FrameState.unpacked =
      (createFrameStateFromRebuiltData frame threshold').map FrameState.unpacked := by
  have built := BuiltColumns.map_collect threshold threshold' id (rebuildColumn frame)
    frame.columns.1
  have states := congrArg (Except.map (rebuiltStateOf frame)) built
  rw [map_map_except, map_map_except] at states
  unfold createFrameStateFromRebuiltData
  revert states
  cases BuiltColumns.collect threshold id (rebuildColumn frame) frame.columns.1 {} <;>
    cases BuiltColumns.collect threshold' id (rebuildColumn frame) frame.columns.1 {} <;>
    exact fun states => states

theorem createRow_unpacked (state : FrameState) : createRow state.unpacked = createRow state := by
  funext position
  unfold createRow
  show state.columns.1.foldlM _ [] = state.columns.1.foldlM _ []
  congr 1
  funext row column
  rw [FrameState.lookup_unpacked]
  cases state.data.lookup column with
  | none => rfl
  | some stored =>
    show Except.ok (defineEntry row column (getStoredColumnValue stored.unpacked position)) = _
    rw [getStoredColumnValue_unpacked]

namespace DataFrame

/-- The frame with all its columns as lists, which it never packs. -/
def unpacked (frame : DataFrame) : DataFrame where
  state := frame.state.unpacked
  packThreshold := 0

theorem rebuildData_unpacked (state : FrameState) (columns sourceColumns : List String)
    (positions : List Nat) :
    rebuildData state.unpacked columns sourceColumns positions =
      rebuildData state columns sourceColumns positions := by
  have cells : sourceCells state.unpacked positions = sourceCells state positions := by
    funext pair
    unfold sourceCells
    rw [FrameState.lookup_unpacked]
    cases state.data.lookup pair.2 with
    | none => rfl
    | some stored => exact congrArg Except.ok (rebuildStoredColumn_unpacked stored positions)
  rw [rebuildData, rebuildData, cells]

/-- A rebuilt frame has the same cells whether its source and itself are packed or not. -/
theorem map_rebuild (frame : DataFrame) (columns : UniqueLabels) (sourceColumns : List String)
    (positions : List Nat) (index : List IndexLabel) (indexKind : IndexKind)
    (schema : TransformSchema) :
    (frame.rebuild columns sourceColumns positions index indexKind schema).map unpacked =
      (frame.unpacked.rebuild columns sourceColumns positions index indexKind schema).map
        unpacked := by
  unfold rebuild
  show Except.map unpacked (columnInfoOverrides frame.state columns.1 sourceColumns >>= _) =
    Except.map unpacked (columnInfoOverrides frame.state columns.1 sourceColumns >>= _)
  cases columnInfoOverrides frame.state columns.1 sourceColumns with
  | error reason => rfl
  | ok columnInfo =>
    show Except.map unpacked (rebuildData frame.state columns.1 sourceColumns positions >>= _) =
      Except.map unpacked
        (rebuildData frame.state.unpacked columns.1 sourceColumns positions >>= _)
    rw [rebuildData_unpacked]
    cases rebuildData frame.state columns.1 sourceColumns positions with
    | error reason => rfl
    | ok data =>
      have states := map_createFrameStateFromRebuiltData
        { columns, index, indexKind, data, columnInfo, tableSchema := schema.tableSchema,
          tableIndexField := schema.tableIndexField } frame.packThreshold 0
      have frames := congrArg (Except.map fun state => DataFrame.mk state 0) states
      rw [map_map_except, map_map_except] at frames
      show Except.map unpacked (createFrameStateFromRebuiltData _ frame.packThreshold >>= _) =
        Except.map unpacked (createFrameStateFromRebuiltData _ 0 >>= _)
      revert frames
      cases createFrameStateFromRebuiltData _ frame.packThreshold <;>
        cases createFrameStateFromRebuiltData _ 0 <;> exact fun frames => frames

theorem selectedColumns_unpacked (state : FrameState) (selected : UniqueLabels)
    (columns : List String) :
    selectedColumns state.unpacked selected columns = selectedColumns state selected columns := by
  induction columns generalizing selected with
  | nil => rfl
  | cons column columns ih =>
    unfold selectedColumns
    rw [FrameState.lookup_unpacked, Option.isNone_map]
    split
    · rfl
    · split
      · rfl
      · exact ih _

/-- A transform gives the same cells whether the frame is packed or not. -/
theorem map_transform (arraySort : ArraySort) (frame : DataFrame) (transform : Transform) :
    (frame.transform arraySort transform).map unpacked =
      (frame.unpacked.transform arraySort transform).map unpacked := by
  have rows : createRow frame.unpacked.state = createRow frame.state :=
    createRow_unpacked frame.state
  cases transform with
  | filter predicate =>
    have positions : keptPositions frame.unpacked.state predicate =
        keptPositions frame.state predicate := by
      unfold keptPositions
      rw [rows]
      rfl
    show (frame.filter predicate).map unpacked = (frame.unpacked.filter predicate).map unpacked
    unfold filter
    rw [positions]
    cases keptPositions frame.state predicate with
    | error reason => rfl
    | ok kept => exact map_rebuild frame _ _ _ _ _ _
  | sort compare =>
    have entries : orderedRows frame.unpacked.state = orderedRows frame.state := by
      unfold orderedRows
      rw [rows]
      rfl
    show (frame.sort arraySort compare).map unpacked =
      (frame.unpacked.sort arraySort compare).map unpacked
    unfold sort
    rw [entries]
    cases orderedRows frame.state with
    | error reason => rfl
    | ok rows => exact map_rebuild frame _ _ _ _ _ _
  | select columns =>
    show (frame.select columns).map unpacked = (frame.unpacked.select columns).map unpacked
    unfold select
    show Except.map unpacked (selectedColumns frame.state .empty columns >>= _) =
      Except.map unpacked (selectedColumns frame.state.unpacked .empty columns >>= _)
    rw [selectedColumns_unpacked]
    cases selectedColumns frame.state .empty columns with
    | error reason => rfl
    | ok selected => exact map_rebuild frame _ _ _ _ _ _
  | rename mapping =>
    show (frame.rename mapping).map unpacked = (frame.unpacked.rename mapping).map unpacked
    unfold rename
    show Except.map unpacked (nextColumns mapping frame.state.columns.1 >>= _) =
      Except.map unpacked (nextColumns mapping frame.state.columns.1 >>= _)
    cases nextColumns mapping frame.state.columns.1 with
    | error reason => rfl
    | ok next =>
      show Except.map unpacked (assertUniqueRenamed .empty next >>= _) =
        Except.map unpacked (assertUniqueRenamed .empty next >>= _)
      cases assertUniqueRenamed .empty next with
      | error reason => rfl
      | ok columns => exact map_rebuild frame _ _ _ _ _ _
  | resetIndex => exact map_rebuild frame _ _ _ _ _ _

/-- Frames of the same cells stay so through any sequence of transforms. -/
theorem map_transforms (arraySort : ArraySort) (sequence : List Transform)
    {first second : DataFrame} (same : first.unpacked = second.unpacked) :
    (first.transforms arraySort sequence).map unpacked =
      (second.transforms arraySort sequence).map unpacked := by
  refine foldlM_alike unpacked (fun first second transform same => ?_) sequence first
    second same
  rw [map_transform arraySort first, map_transform arraySort second, same]

end DataFrame

/-- Results of a converted list, where converting leaves each result as it was up to `g`. -/
theorem mapM_alike {α β : Type} {compute : α → Except JsonFrameError β}
    {compute' : α → Except JsonFrameError β} {g : β → β} (items : List α)
    (each : ∀ item, compute' item = (compute item).map g) :
    items.mapM compute' = (items.mapM compute).map (List.map g) := by
  induction items with
  | nil => rfl
  | cons item items ih =>
    rw [List.mapM_cons, List.mapM_cons, ih, each]
    cases compute item with
    | error reason => rfl
    | ok value => cases items.mapM compute <;> rfl

theorem getStoredColumn_unpacked (state : FrameState) (column : String) :
    getStoredColumn state.unpacked column =
      (getStoredColumn state column).map StoredColumn.unpacked := by
  unfold getStoredColumn
  rw [FrameState.lookup_unpacked]
  cases state.data.lookup column <;> rfl

theorem resolveStoredColumns_unpacked (state : FrameState) :
    resolveStoredColumns state.unpacked =
      (resolveStoredColumns state).map (List.map StoredColumn.unpacked) :=
  mapM_alike state.columns.1 (getStoredColumn_unpacked state)

theorem rowCells_unpacked (storedColumns : List StoredColumn) :
    rowCells (storedColumns.map StoredColumn.unpacked) = rowCells storedColumns := by
  funext rowIndex
  rw [rowCells, rowCells, List.map_map]
  apply List.map_congr_left
  intro stored _
  show getStoredColumnValue stored.unpacked rowIndex = _
  rw [getStoredColumnValue_unpacked]

theorem rowObject_unpacked (columns : List String) (storedColumns : List StoredColumn) :
    rowObject columns (storedColumns.map StoredColumn.unpacked) =
      rowObject columns storedColumns := by
  funext rowIndex
  rw [rowObject, rowObject, rowCells_unpacked]

theorem exportRecords_unpacked (state : FrameState) :
    exportRecords state.unpacked = exportRecords state := by
  unfold exportRecords
  rw [resolveStoredColumns_unpacked]
  cases resolveStoredColumns state with
  | error reason => rfl
  | ok stored =>
    show Except.ok (Value.array (List.map (rowObject state.columns.1
      (stored.map StoredColumn.unpacked)) _)) = _
    rw [rowObject_unpacked]
    rfl

theorem exportIndex_unpacked (state : FrameState) :
    exportIndex state.unpacked = exportIndex state := by
  unfold exportIndex
  show (resolveIndexKeys .index "index" [] state.index >>= _) = _
  cases resolveIndexKeys .index "index" [] state.index with
  | error reason => rfl
  | ok keys =>
    show (resolveStoredColumns state.unpacked >>= _) = (resolveStoredColumns state >>= _)
    rw [resolveStoredColumns_unpacked]
    cases resolveStoredColumns state with
    | error reason => rfl
    | ok stored =>
      show Except.ok (objectOf (keys.zipIdx.map fun pair =>
        (pair.1, rowObject state.columns.1 (stored.map StoredColumn.unpacked) pair.2))) = _
      rw [rowObject_unpacked]
      rfl

theorem exportColumn_unpacked (state : FrameState) (keys : List String) :
    exportColumn state.unpacked keys = exportColumn state keys := by
  funext column
  unfold exportColumn
  rw [getStoredColumn_unpacked]
  cases getStoredColumn state column with
  | error reason => rfl
  | ok stored =>
    show Except.ok (column, objectOf (keys.zipIdx.map fun pair =>
      (pair.1, getStoredColumnValue stored.unpacked pair.2))) = _
    rw [getStoredColumnValue_unpacked]
    rfl

theorem exportColumns_unpacked (state : FrameState) :
    exportColumns state.unpacked = exportColumns state := by
  unfold exportColumns
  have each := exportColumn_unpacked state
  show (resolveIndexKeys .columns "columns" [] state.index >>= _) = _
  cases resolveIndexKeys .columns "columns" [] state.index with
  | error reason => rfl
  | ok keys =>
    show (state.columns.1.mapM (exportColumn state.unpacked keys) >>= _) = _
    rw [each]
    rfl

theorem exportValues_unpacked (state : FrameState) :
    exportValues state.unpacked = exportValues state := by
  unfold exportValues
  rw [resolveStoredColumns_unpacked]
  cases resolveStoredColumns state with
  | error reason => rfl
  | ok stored =>
    show Except.ok (Value.array (List.map (fun rowIndex =>
      Value.array (rowCells (stored.map StoredColumn.unpacked) rowIndex)) _)) = _
    rw [rowCells_unpacked]
    rfl

theorem exportSplit_unpacked (state : FrameState) :
    exportSplit state.unpacked = exportSplit state := by
  unfold exportSplit
  rw [exportValues_unpacked]
  rfl

/-- Fields do not depend on how the columns are stored. -/
theorem exportFields_unpacked (state : FrameState) (dataTemplates : List TableSchemaField)
    (before : Nat) (columns : List String) (storedColumns : List StoredColumn) :
    (columns.zip (storedColumns.map StoredColumn.unpacked)).zipIdx.mapM
        (exportField state.unpacked dataTemplates before) =
      (columns.zip storedColumns).zipIdx.mapM (exportField state dataTemplates before) := by
  rw [List.zip_map_right, List.zipIdx_map, List.mapM_map]
  rfl

theorem tableRow_unpacked (state : FrameState) (storedColumns : List StoredColumn)
    (indexField : Option String) :
    tableRow state.unpacked (storedColumns.map StoredColumn.unpacked) indexField =
      tableRow state storedColumns indexField := by
  funext position
  unfold tableRow
  rw [rowCells_unpacked]
  rfl

theorem exportTable_unpacked (state : FrameState) (options : Value) :
    exportTable state.unpacked options = exportTable state options := by
  unfold exportTable
  rw [resolveStoredColumns_unpacked]
  refine bind_congr fun indexField => ?_
  refine bind_congr fun _ => ?_
  refine bind_congr fun indexFields => ?_
  cases resolveStoredColumns state with
  | error reason => rfl
  | ok stored =>
    have fields := exportFields_unpacked state (getDataFieldTemplates state) indexFields.length
      state.columns.1 stored
    have rows := tableRow_unpacked state stored indexField
    show ((state.columns.1.zip (stored.map StoredColumn.unpacked)).zipIdx.mapM
        (exportField state.unpacked (getDataFieldTemplates state) indexFields.length) >>=
      fun dataFields => exportSchema state.tableSchema (indexFields ++ dataFields) indexField >>=
      fun schema => pure (Value.object [("schema", schema), ("data", .array
        (state.index.zipIdx.map (tableRow state.unpacked (stored.map StoredColumn.unpacked)
          indexField)))])) = _
    rw [fields, rows]
    rfl

namespace DataFrame

theorem toPayload_unpacked (frame : DataFrame) (orient : ResolvedOrient) (options : Value) :
    frame.unpacked.toPayload orient options = frame.toPayload orient options := by
  cases orient with
  | records => exact exportRecords_unpacked frame.state
  | index => exact exportIndex_unpacked frame.state
  | columns => exact exportColumns_unpacked frame.state
  | values => exact exportValues_unpacked frame.state
  | split => exact exportSplit_unpacked frame.state
  | table => exact exportTable_unpacked frame.state options

theorem toJSONString_unpacked (stringify : Value → String) (frame : DataFrame)
    (orient : ResolvedOrient) (options : Value) :
    frame.unpacked.toJSONString stringify orient options =
      frame.toJSONString stringify orient options := by
  unfold toJSONString
  refine bind_congr fun indexField => ?_
  refine bind_congr fun maxNodes => ?_
  rw [toPayload_unpacked]

/-- All that a caller can read of two frames is the same. -/
structure SameView (first second : DataFrame) : Prop where
  columns : first.state.columns = second.state.columns
  index : first.state.index = second.state.index
  indexKind : first.state.indexKind = second.state.indexKind
  columnInfo : first.state.columnInfo = second.state.columnInfo
  cells : ∀ column, (first.state.data.lookup column).map StoredColumn.values =
    (second.state.data.lookup column).map StoredColumn.values
  rows : ∀ position, first.row position = second.row position
  payloads : ∀ orient options, first.toPayload orient options = second.toPayload orient options
  texts : ∀ stringify orient options,
    first.toJSONString stringify orient options = second.toJSONString stringify orient options

theorem sameView_of_unpacked {first second : DataFrame} (same : first.unpacked = second.unpacked) :
    SameView first second := by
  have state : first.state.unpacked = second.state.unpacked := congrArg DataFrame.state same
  have columns := congrArg FrameState.columns state
  have index := congrArg FrameState.index state
  have indexKind := congrArg FrameState.indexKind state
  have columnInfo := congrArg FrameState.columnInfo state
  refine ⟨columns, index, indexKind, columnInfo, ?_, ?_, ?_, ?_⟩
  · intro column
    have found : first.state.unpacked.data.lookup column =
        second.state.unpacked.data.lookup column := by rw [state]
    rw [FrameState.lookup_unpacked, FrameState.lookup_unpacked] at found
    have values := congrArg (Option.map StoredColumn.values) found
    rw [Option.map_map, Option.map_map] at values
    exact values
  · intro position
    show createRow first.state position = createRow second.state position
    rw [← createRow_unpacked first.state, state, createRow_unpacked]
  · intro orient options
    rw [← toPayload_unpacked first, same, toPayload_unpacked]
  · intro stringify orient options
    rw [← toJSONString_unpacked stringify first, same, toJSONString_unpacked]

/-- Two runs fail alike, or end in frames that a caller cannot tell apart. -/
def Alike : Except JsonFrameError DataFrame → Except JsonFrameError DataFrame → Prop
  | .ok first, .ok second => SameView first second
  | .error reason, .error reason' => reason = reason'
  | _, _ => False

theorem alike_of_map {first second : Except JsonFrameError DataFrame}
    (same : first.map unpacked = second.map unpacked) : Alike first second := by
  cases first with
  | error reason =>
    cases second with
    | error reason' => exact Except.error.inj same
    | ok frame => contradiction
  | ok frame =>
    cases second with
    | error reason => contradiction
    | ok frame' => exact sameView_of_unpacked (Except.ok.inj same)

end DataFrame

/-- Imports that differ in the threshold only give the same cells. -/
theorem map_fromOrient (jsonParse : String → Option Value) (input : Value) {first second : Value}
    {normalized : NormalizedFromOrientOptions} {threshold : Nat}
    (accepted : normalizeFromOrientOptions first = .ok normalized)
    (accepted' : normalizeFromOrientOptions second =
      .ok { normalized with packThreshold := threshold }) :
    (fromOrient jsonParse input first).map DataFrame.unpacked =
      (fromOrient jsonParse input second).map DataFrame.unpacked := by
  unfold fromOrient
  rw [accepted, accepted']
  show Except.map _ (parseInput jsonParse input normalized >>= _) =
    Except.map _ (parseInput jsonParse input normalized >>= _)
  cases parseInput jsonParse input normalized with
  | error reason => rfl
  | ok parsed =>
    have states := map_createFrameState parsed normalized threshold
    have frames := congrArg (Except.map fun state => DataFrame.mk state 0) states
    rw [map_map_except, map_map_except] at frames
    show Except.map _ (createFrameState parsed normalized >>= _) =
      Except.map _ (createFrameState parsed { normalized with packThreshold := threshold } >>= _)
    revert frames
    cases createFrameState parsed normalized <;>
      cases createFrameState parsed { normalized with packThreshold := threshold } <;>
      exact fun frames => frames

/-- The pack threshold does not show in a frame or in anything derived from it. -/
theorem packing_invisible (jsonParse : String → Option Value) (arraySort : ArraySort)
    (input : Value) (sequence : List Transform) {first second : Value}
    {normalized : NormalizedFromOrientOptions} {threshold : Nat}
    (accepted : normalizeFromOrientOptions first = .ok normalized)
    (accepted' : normalizeFromOrientOptions second =
      .ok { normalized with packThreshold := threshold }) :
    DataFrame.Alike
      (fromOrient jsonParse input first >>= (·.transforms arraySort sequence))
      (fromOrient jsonParse input second >>= (·.transforms arraySort sequence)) := by
  have imported := map_fromOrient jsonParse input accepted accepted'
  apply DataFrame.alike_of_map
  revert imported
  cases fromOrient jsonParse input first with
  | error reason =>
    cases fromOrient jsonParse input second with
    | error reason' => exact fun imported => imported
    | ok frame => exact fun imported => by contradiction
  | ok frame =>
    cases fromOrient jsonParse input second with
    | error reason => exact fun imported => by contradiction
    | ok frame' =>
      exact fun imported => DataFrame.map_transforms arraySort sequence (Except.ok.inj imported)

/-- Two rows with an integer that an `Int32Array` holds, and one that it does not. -/
def integerRows : Value :=
  .array [.object [("small", .number "7"), ("large", .number "2147483648")],
    .object [("small", .number "-3"), ("large", .number "-0")]]

def thresholdOptions (packThreshold : String) : Value :=
  .object [("packThreshold", .number packThreshold)]

/-- The rows in reverse, without the last one. -/
def reversedTail : List Transform :=
  [.sort fun _ _ _ _ left right => .finite ((right : ℚ) - left),
    .filter fun _ _ position => position != 0]

theorem packing_invisible_integerRows :
    DataFrame.Alike
      (fromOrient (fun _ => none) integerRows (thresholdOptions "1") >>=
        (·.transforms .stable reversedTail))
      (fromOrient (fun _ => none) integerRows (thresholdOptions "0") >>=
        (·.transforms .stable reversedTail)) := by
  have packed : normalizeFromOrientOptions (thresholdOptions "1") = .ok { packThreshold := 1 } :=
    rfl
  have plain : normalizeFromOrientOptions (thresholdOptions "0") = .ok { packThreshold := 0 } :=
    rfl
  exact packing_invisible _ .stable integerRows reversedTail packed plain

end WebTsToolkit.JsonFrame
