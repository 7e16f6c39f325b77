import WebTsToolkit.Js.Double
import WebTsToolkit.JsonFrame.Column

set_option autoImplicit false

namespace WebTsToolkit.JsonFrame

open Js Utils

namespace TableSchemaField

/-- `{ ...field, name }`. -/
def rename (field : TableSchemaField) (name : String) : TableSchemaField where
  name
  entries := field.entries.map fun entry =>
    if entry.1 = "name" then ("name", .string name) else entry
  named := by
    have here := getOwn_replace field.entries "name" "name" (.string name)
    have found : getOwn field.entries "name" = some (.string field.name) := field.named
    rw [if_pos rfl, found] at here
    exact here

end TableSchemaField

/-- `cloneSchema`: other fields and another primary key. -/
def TableSchema.cloned (schema : TableSchema) (fields : List TableSchemaField)
    (primaryKey : Option (List String)) : TableSchema :=
  { schema with fields, primaryKey }

/-- `new Map(fields.map((field) => [field.name, field]))`. -/
def fieldsByName (fields : List TableSchemaField) : Map TableSchemaField :=
  fields.foldl (fun byName field => byName.set field.name field) ∅

/-- Whether `new Set(names)` has as many members as there are fields. -/
def hasUniqueNames (fields : List TableSchemaField) : Bool :=
  (fields.map TableSchemaField.name).dedup.length == fields.length

/-- The fields of the columns, for those that have one. -/
def orderedFields (columns : List String) (byName : Map TableSchemaField) :
    List TableSchemaField :=
  columns.filterMap byName.lookup

/-- The fields without the first one of this name. -/
def withoutFirst (fields : List TableSchemaField) (name : String) : List TableSchemaField :=
  fields.eraseP (·.name == name)

/-- The index field and the other ones where two fields share a name. -/
def splitDuplicates (fields : List TableSchemaField) (columnCount : Nat) (indexField : String) :
    Option TableSchemaField × List TableSchemaField :=
  match fields with
  | first :: rest =>
    if rest.length = columnCount ∧ first.name = indexField then (some first, rest)
    else (fields.find? (·.name == indexField), withoutFirst fields indexField)
  | [] => (none, [])

/-- The fields of a schema by the role they play. -/
structure FieldPartition where
  indexTemplate : Option TableSchemaField := none
  dataByColumn : Map TableSchemaField := ∅
  dataInColumnOrder : List TableSchemaField := []

/-- `new Map(ordered.map((field, index) => [columns[index], field]))`. -/
def byColumn (columns : List String) (ordered : List TableSchemaField) : Map TableSchemaField :=
  (columns.zip ordered).foldl (fun byColumn (column, field) => byColumn.set column field) ∅

def partitionSchemaFields (state : FrameState) : FieldPartition :=
  match state.tableSchema with
  | none => {}
  | some schema =>
    let columns := state.columns.1
    let fields := schema.fields
    match state.tableIndexField with
    | none =>
      let ordered := orderedFields columns (fieldsByName fields)
      { dataByColumn := byColumn columns ordered, dataInColumnOrder := ordered }
    | some indexField =>
      if hasUniqueNames fields then
        let byName := fieldsByName fields
        let ordered := orderedFields columns byName
        { indexTemplate := byName.lookup indexField
          dataByColumn := byColumn columns ordered
          dataInColumnOrder := ordered }
      else
        let (indexTemplate, dataSlice) := splitDuplicates fields columns.length indexField
        let ordered := orderedFields columns (fieldsByName dataSlice)
        let dataInColumnOrder :=
          if ordered.length = columns.length then ordered
          else if dataSlice.length = columns.length then dataSlice
          else ordered
        { indexTemplate
          dataByColumn := byColumn columns dataInColumnOrder
          dataInColumnOrder }

/-- The schema of a transformed frame and the name of its index field. -/
structure TransformSchema where
  tableSchema : Option TableSchema := none
  tableIndexField : Option String := none

structure DataFrame where
  state : FrameState
  packThreshold : Nat

/-- A row object, as the callbacks receive it. -/
abbrev Row := Entries

/-- `Array.prototype.sort`. What it does with an inconsistent comparison is not specified, but
it never loses or repeats an item. -/
structure ArraySort where
  sort : {α : Type} → (α → α → Number) → List α → List α
  perm : ∀ {α : Type} (compare : α → α → Number) (items : List α), (sort compare items).Perm items

/-- A stable merge sort, which orders every consistent comparison. -/
def ArraySort.stable : ArraySort where
  sort compare items := items.mergeSort fun left right => (compare left right).le (.finite 0)
  perm _ items := List.mergeSort_perm items _

/-- The arguments of a comparison that belong to one row. -/
structure Ordered where
  indexLabel : IndexLabel
  position : Nat
  row : Row

/-- The comparison of `sort`: rows that compare equal, or as NaN, keep their order. -/
def compareRows (compare : Row → Row → IndexLabel → IndexLabel → Nat → Nat → Number)
    (left right : Ordered) : Number :=
  let result := compare left.row right.row left.indexLabel right.indexLabel left.position
    right.position
  if result = .nan ∨ result = .finite 0 then .finite (left.position - right.position)
  else result

def createRow (state : FrameState) (position : Nat) : Except JsonFrameError Row :=
  state.columns.1.foldlM (fun (row : Row) column =>
    match state.data.lookup column with
    | some stored => .ok (defineEntry row column (getStoredColumnValue stored position))
    | none => .error (.validation "Stored frame data is missing a declared column."
        { path := some "$", column := some column })) []

/-- One transform of a frame. -/
inductive Transform where
  | filter (predicate : Row → IndexLabel → Nat → Bool)
  | sort (compare : Row → Row → IndexLabel → IndexLabel → Nat → Nat → Number)
  | select (columns : List String)
  | rename (mapping : Entries)
  | resetIndex

namespace DataFrame

/-- The metadata of the source of a column. -/
def sourceInfo (state : FrameState) (pair : String × String) : Except JsonFrameError ColumnInfo :=
  match state.columnInfo.lookup pair.2 with
  | some sourceInfo => .ok sourceInfo
  | none => .error (.validation "Stored frame metadata is missing a declared column."
      { path := some "$", column := some pair.2 })

def columnInfoOverrides (state : FrameState) (columns sourceColumns : List String) :
    Except JsonFrameError (Map ColumnInfo) :=
  Map.collect Prod.fst (sourceInfo state) (columns.zip sourceColumns) ∅

/-- The cells of the source of a column at these positions. -/
def sourceCells (state : FrameState) (positions : List Nat) (pair : String × String) :
    Except JsonFrameError (List Value) :=
  match state.data.lookup pair.2 with
  | some stored => .ok (rebuildStoredColumn stored positions)
  | none => .error (.validation "Stored frame data is missing a declared column."
      { path := some "$", column := some pair.1 })

def rebuildData (state : FrameState) (columns sourceColumns : List String)
    (positions : List Nat) : Except JsonFrameError (Map (List Value)) :=
  Map.collect Prod.fst (sourceCells state positions) (columns.zip sourceColumns) ∅

def rebuild (frame : DataFrame) (columns : UniqueLabels) (sourceColumns : List String)
    (positions : List Nat) (index : List IndexLabel) (indexKind : IndexKind)
    (schema : TransformSchema) : Except JsonFrameError DataFrame := do
  let columnInfo ← columnInfoOverrides frame.state columns.1 sourceColumns
  let data ← rebuildData frame.state columns.1 sourceColumns positions
  let state ← createFrameStateFromRebuiltData
    { columns
      index
      indexKind
      data
      columnInfo
      tableSchema := schema.tableSchema
      tableIndexField := schema.tableIndexField } frame.packThreshold
  return { state, packThreshold := frame.packThreshold }

def keptSchema (state : FrameState) : TransformSchema :=
  { tableSchema := state.tableSchema, tableIndexField := state.tableIndexField }

/-- Labels of rows by their positions. -/
def labelsAt (state : FrameState) (positions : List Nat) : List IndexLabel :=
  positions.filterMap (state.index[·]?)

def allPositions (state : FrameState) : List Nat :=
  List.range state.index.length

/-- The positions whose rows the predicate accepts. -/
def keptPositions (state : FrameState) (predicate : Row → IndexLabel → Nat → Bool) :
    Except JsonFrameError (List Nat) := do
  let kept ← state.index.zipIdx.filterM fun (label, position) => do
    let row ← createRow state position
    return predicate row label position
  return kept.map Prod.snd

def filter (frame : DataFrame) (predicate : Row → IndexLabel → Nat → Bool) :
    Except JsonFrameError DataFrame := do
  let kept ← keptPositions frame.state predicate
  frame.rebuild frame.state.columns frame.state.columns.1 kept (labelsAt frame.state kept)
    frame.state.indexKind (keptSchema frame.state)

/-- The rows before they are sorted. -/
def orderedRows (state : FrameState) : Except JsonFrameError (List Ordered) :=
  state.index.zipIdx.mapM fun (indexLabel, position) => do
    let row ← createRow state position
    return { indexLabel, position, row }

def sort (arraySort : ArraySort) (frame : DataFrame)
    (compare : Row → Row → IndexLabel → IndexLabel → Nat → Nat → Number) :
    Except JsonFrameError DataFrame := do
  let rows ← orderedRows frame.state
  let ordering := arraySort.sort (compareRows compare) rows
  frame.rebuild frame.state.columns frame.state.columns.1 (ordering.map Ordered.position)
    (ordering.map Ordered.indexLabel) frame.state.indexKind (keptSchema frame.state)

def selectSchema (state : FrameState) (columns : List String) : TransformSchema :=
  match state.tableSchema with
  | none => {}
  | some schema =>
    let parts := partitionSchemaFields state
    let indexFields :=
      if state.tableIndexField.isSome then parts.indexTemplate.toList else []
    { tableSchema := some (schema.cloned
        (indexFields ++ columns.filterMap parts.dataByColumn.lookup) schema.primaryKey)
      tableIndexField := state.tableIndexField }

/-- The labels of `select`, which must be columns of the frame and must not repeat. -/
def selectedColumns (state : FrameState) (selected : UniqueLabels) :
    List String → Except JsonFrameError UniqueLabels
  | [] => .ok selected
  | column :: rest =>
    let refusal (message : String) : JsonFrameError :=
      .validation message { path := some "$.columns", column := some column }
    if (state.data.lookup column).isNone then
      .error (refusal "Selected columns must exist in the frame.")
    else if fresh : column ∈ selected.1 then
      .error (refusal "Selected columns must be unique.")
    else selectedColumns state (selected.push column fresh) rest

def select (frame : DataFrame) (columns : List String) : Except JsonFrameError DataFrame := do
  let selected ← selectedColumns frame.state .empty columns
  frame.rebuild selected selected.1 (allPositions frame.state) frame.state.index
    frame.state.indexKind (selectSchema frame.state selected.1)

/-- The new name of a column. -/
def renamed (mapping : Entries) (column : String) : String :=
  match getOwn mapping column with
  | some (.string name) => name
  | _ => column

def renameSchema (state : FrameState) (mapping : Entries) (nextColumns : List String) :
    TransformSchema :=
  match state.tableSchema with
  | none => {}
  | some schema =>
    let collidesWithIndex := state.tableIndexField.any nextColumns.contains
    if hasUniqueNames schema.fields && !collidesWithIndex then
      let fields := schema.fields.map fun field =>
        if state.columns.1.contains field.name then
          field.rename (renamed mapping field.name)
        else field
      { tableSchema := some (schema.cloned fields schema.primaryKey)
        tableIndexField := state.tableIndexField }
    else
      let parts := partitionSchemaFields state
      let indexFields :=
        if state.tableIndexField.isSome then parts.indexTemplate.toList else []
      let dataFields := (state.columns.1.zip parts.dataInColumnOrder).map
        fun (column, template) => template.rename (renamed mapping column)
      { tableSchema := some (schema.cloned (indexFields ++ dataFields) schema.primaryKey)
        tableIndexField := state.tableIndexField }

/-- The new names of all columns. -/
def nextColumns (mapping : Entries) : List String → Except JsonFrameError (List String)
  | [] => .ok []
  | column :: rest =>
    match getOwn mapping column with
    | none | some (.string _) => do
      let rest ← nextColumns mapping rest
      return renamed mapping column :: rest
    | some _ => .error (.validation
        "`rename` mapping values must be strings for existing columns."
        { path := some ("$.mapping[" ++ Json.stringifyString column ++ "]"),
          column := some column })

def assertUniqueRenamed (columns : UniqueLabels) :
    List String → Except JsonFrameError UniqueLabels
  | [] => .ok columns
  | column :: rest =>
    if fresh : column ∈ columns.1 then
      .error (.validation "Renamed columns must remain unique."
        { path := some "$.columns", column := some column })
    else assertUniqueRenamed (columns.push column fresh) rest

/-- The mapping is an object that is no array. -/
def rename (frame : DataFrame) (mapping : Entries) : Except JsonFrameError DataFrame := do
  let nextColumns ← nextColumns mapping frame.state.columns.1
  let columns ← assertUniqueRenamed .empty nextColumns
  frame.rebuild columns frame.state.columns.1 (allPositions frame.state) frame.state.index
    frame.state.indexKind (renameSchema frame.state mapping columns.1)

def resetIndexSchema (state : FrameState) : TransformSchema :=
  match state.tableSchema with
  | none => {}
  | some schema =>
    match state.tableIndexField with
    | none => { tableSchema := some (schema.cloned schema.fields none) }
    | some indexField =>
      let parts := partitionSchemaFields state
      let fields :=
        if parts.dataInColumnOrder.length = state.columns.1.length then
          parts.dataInColumnOrder
        else schema.fields.filter (·.name != indexField)
      { tableSchema := some (schema.cloned fields none) }

def resetIndex (frame : DataFrame) : Except JsonFrameError DataFrame :=
  frame.rebuild frame.state.columns frame.state.columns.1 (allPositions frame.state)
    (positions frame.state.index.length) .synthetic (resetIndexSchema frame.state)

def transform (arraySort : ArraySort) (frame : DataFrame) :
    Transform → Except JsonFrameError DataFrame
  | .filter predicate => frame.filter predicate
  | .sort compare => frame.sort arraySort compare
  | .select columns => frame.select columns
  | .rename mapping => frame.rename mapping
  | .resetIndex => frame.resetIndex

/-- A sequence of transforms, up to the first that fails. -/
def transforms (arraySort : ArraySort) (frame : DataFrame) (sequence : List Transform) :
    Except JsonFrameError DataFrame :=
  sequence.foldlM (transform arraySort) frame

end DataFrame

/-- `fromOrient`. -/
def fromOrient (jsonParse : String → Option Value) (input options : Value) :
    Except JsonFrameError DataFrame := do
  let normalized ← normalizeFromOrientOptions options
  let parsed ← parseInput jsonParse input normalized
  let state ← createFrameState parsed normalized
  return { state, packThreshold := normalized.packThreshold }

end WebTsToolkit.JsonFrame
