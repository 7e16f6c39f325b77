import WebTsToolkit.JsonFrame.DataFrame

set_option autoImplicit false

namespace WebTsToolkit.JsonFrame

open Js Utils

/-- An object with these properties, set one after the other. -/
def objectOf (properties : List (String × Value)) : Value :=
  .object (properties.foldl (fun entries (key, value) => defineEntry entries key value) [])

/-- The last property of a key is the one that stays. -/
theorem getOwn_defineAll (properties : List (String × Value)) (entries : Entries) (key : String) :
    getOwn (properties.foldl (fun entries (key, value) => defineEntry entries key value) entries)
        key =
      (properties.reverse.lookup key).or (getOwn entries key) := by
  induction properties generalizing entries with
  | nil => rfl
  | cons property properties ih =>
    obtain ⟨name, value⟩ := property
    rw [List.foldl_cons, ih, List.reverse_cons, List.lookup_append, Option.or_assoc]
    congr 1
    by_cases same : key = name
    · subst same
      rw [getOwn_defineEntry_self, List.lookup_cons_self]
      rfl
    · rw [getOwn_defineEntry_ne value same, List.lookup_cons, beq_eq_false_iff_ne.mpr same]
      rfl

/-- A value of the schema, which must be within the depth that exports allow. -/
def checkMetadata (path : String) (entry : String × Value) : Except JsonFrameError Unit := do
  let _ ← cloneJsonCompatible entry.2 (some .table)
    (path ++ "[" ++ Json.stringifyString entry.1 ++ "]") none

/-- A copy of a field under this name. -/
def cloneSchemaField (field : TableSchemaField) (name path : String) :
    Except JsonFrameError TableSchemaField := do
  (field.entries.filter (·.1 != "name")).forM (checkMetadata path)
  return field.rename name

def schemaFieldPath (index : Nat) : String :=
  appendIndexPath "$.schema.fields" index

def schemaTypeName : ColumnType → String
  | .integer => "integer"
  | .float => "number"
  | .string => "string"
  | .categorical => "any"
  | .boolean => "boolean"
  | .datetime => "datetime"
  | .mixed | .unknown => "any"

/-- A field with a name, a type, and further entries. -/
def newField (name type : String) (others : Entries) : TableSchemaField where
  name
  entries := ("name", .string name) :: ("type", .string type) :: others
  named := List.lookup_cons_self

def mapColumnTypeToSchemaField (name : String) (info : ColumnInfo) : TableSchemaField :=
  newField name (schemaTypeName info.type)
    (if info.type = .categorical then [("extDtype", .string "category")] else [])

def isStringLabel : IndexLabel → Bool
  | .string _ => true
  | .number _ => false

def isIntegerLabel : IndexLabel → Bool
  | .string _ => false
  | .number text => isIntegerText text

def inferIndexFieldType (index : List IndexLabel) : String :=
  let sawString := index.any isStringLabel
  let sawInteger := index.any isIntegerLabel
  let sawFloat := index.any fun label => !isStringLabel label && !isIntegerLabel label
  if sawString && (sawInteger || sawFloat) then "any"
  else if sawString then "string"
  else if sawFloat then "number"
  else if sawInteger then "integer"
  else "string"

def getIndexFieldTemplate (state : FrameState) : Option TableSchemaField :=
  match state.tableSchema, state.tableIndexField with
  | some schema, some indexField =>
    if hasUniqueNames schema.fields then schema.fields.find? (·.name == indexField)
    else (splitDuplicates schema.fields state.columns.1.length indexField).1
  | _, _ => none

def getDataFieldTemplates (state : FrameState) : List TableSchemaField :=
  match state.tableSchema with
  | none => []
  | some schema =>
    let columns := state.columns.1
    if hasUniqueNames schema.fields then orderedFields columns (fieldsByName schema.fields)
    else
      let dataSlice :=
        match state.tableIndexField with
        | some indexField => (splitDuplicates schema.fields columns.length indexField).2
        | none => schema.fields
      let ordered := orderedFields columns (fieldsByName dataSlice)
      if ordered.length = columns.length then ordered
      else if dataSlice.length = columns.length then dataSlice
      else ordered

def resolveIndexFieldName (state : FrameState) (options : Value) :
    Except JsonFrameError (Option String) := do
  let override ← normalizeToTableOptions options "toTable"
  match state.indexKind with
  | .synthetic => return none
  | .source =>
    let indexField := (override.or state.tableIndexField).getD "index"
    if state.columns.1.contains indexField then
      .error (.validation "Table export index field name must not collide with a data column."
        { path := some "$.schema.fields", column := some indexField })
    else return some indexField

/-- The labels seen so far are those before this row. -/
def assertUniqueTableIndexLabels (indexField : String) (seen : List IndexLabel) :
    List IndexLabel → Except JsonFrameError Unit
  | [] => .ok ()
  | label :: rest =>
    if (seen.map IndexLabel.mapKey).contains label.mapKey then
      .error (.validation "Cannot export duplicate index labels as a table primary key."
        { orient := some .table
          path := some ("$.data[" ++ seen.length.repr ++ "][" ++
            Json.stringifyString indexField ++ "]")
          row := some seen.length
          column := some indexField })
    else assertUniqueTableIndexLabels indexField (seen ++ [label]) rest

/-- The labels as keys, from these on; `seen` are the labels before. -/
def resolveIndexKeys (orient : ResolvedOrient) (orientName : String) (seen : List IndexLabel) :
    List IndexLabel → Except JsonFrameError (List String)
  | [] => .ok []
  | label :: rest =>
    match seen.find? fun prior => labelText prior == labelText label with
    | some prior => .error (.exportKeyCollision
        ("Cannot export distinct rows to orient=\"" ++ orientName ++
          "\" because index labels collide after stringification.")
        orient (labelText label) [prior, label])
    | none => do
      let keys ← resolveIndexKeys orient orientName (seen ++ [label]) rest
      return labelText label :: keys

def getStoredColumn (state : FrameState) (column : String) :
    Except JsonFrameError StoredColumn :=
  match state.data.lookup column with
  | some stored => .ok stored
  | none => .error (.validation "Stored frame data is missing a declared column."
      { path := some "$", column := some column })

def resolveStoredColumns (state : FrameState) : Except JsonFrameError (List StoredColumn) :=
  state.columns.1.mapM (getStoredColumn state)

/-- The cells of one row, in the order of the columns. -/
def rowCells (storedColumns : List StoredColumn) (rowIndex : Nat) : List Value :=
  storedColumns.map fun stored => getStoredColumnValue stored rowIndex

/-- The cells of one row under the names of their columns. -/
def rowObject (columns : List String) (storedColumns : List StoredColumn) (rowIndex : Nat) :
    Value :=
  objectOf (columns.zip (rowCells storedColumns rowIndex))

def exportRecords (state : FrameState) : Except JsonFrameError Value := do
  let storedColumns ← resolveStoredColumns state
  return .array ((List.range state.index.length).map
    (rowObject state.columns.1 storedColumns))

def exportIndex (state : FrameState) : Except JsonFrameError Value := do
  let keys ← resolveIndexKeys .index "index" [] state.index
  let storedColumns ← resolveStoredColumns state
  return objectOf (keys.zipIdx.map fun (key, rowIndex) =>
    (key, rowObject state.columns.1 storedColumns rowIndex))

/-- A column with its cells under the keys of their rows. -/
def exportColumn (state : FrameState) (keys : List String) (column : String) :
    Except JsonFrameError (String × Value) := do
  let stored ← getStoredColumn state column
  return (column, objectOf (keys.zipIdx.map fun (key, rowIndex) =>
    (key, getStoredColumnValue stored rowIndex)))

def exportColumns (state : FrameState) : Except JsonFrameError Value := do
  let keys ← resolveIndexKeys .columns "columns" [] state.index
  let columns ← state.columns.1.mapM (exportColumn state keys)
  return objectOf columns

def exportValues (state : FrameState) : Except JsonFrameError Value := do
  let storedColumns ← resolveStoredColumns state
  return .array ((List.range state.index.length).map fun rowIndex =>
    .array (rowCells storedColumns rowIndex))

def exportSplit (state : FrameState) : Except JsonFrameError Value := do
  let data ← exportValues state
  return .object [("columns", .array (state.columns.1.map .string)),
    ("index", .array (state.index.map IndexLabel.toValue)), ("data", data)]

/-- The field of one column of a table payload, behind `before` other fields. -/
def exportField (state : FrameState) (dataTemplates : List TableSchemaField) (before : Nat)
    (position : (String × StoredColumn) × Nat) : Except JsonFrameError TableSchemaField := do
  let ((column, stored), columnIndex) := position
  match dataTemplates[columnIndex]? with
  | some template => cloneSchemaField template column (schemaFieldPath (before + columnIndex))
  | none =>
    let info := (state.columnInfo.lookup column).getD ⟨.unknown, false⟩
    validateColumnValuesForType .table column columnIndex info.type state.index 0 stored.values
    return mapColumnTypeToSchemaField column info

def exportIndexField (state : FrameState) (indexField : String) :
    Except JsonFrameError TableSchemaField :=
  match getIndexFieldTemplate state with
  | some template => cloneSchemaField template indexField (schemaFieldPath 0)
  | none => .ok (newField indexField (inferIndexFieldType state.index) [])

/-- `cloneSchema`: the metadata of the source comes first, in its order. -/
def exportSchema (schema : Option TableSchema) (fields : List TableSchemaField)
    (primaryKey : Option String) : Except JsonFrameError Value := do
  let metadata := (schema.map TableSchema.metadata).getD []
  metadata.forM (checkMetadata "$.schema")
  let fields ← fields.zipIdx.mapM fun (field, index) =>
    cloneSchemaField field field.name (schemaFieldPath index)
  return .object (metadata ++
    ("fields", .array (fields.map fun field => .object field.entries)) ::
      (primaryKey.toList.map fun name => ("primaryKey", .array [.string name])))

/-- One row of a table payload: its label under the name of the index field, then its cells. -/
def tableRow (state : FrameState) (storedColumns : List StoredColumn)
    (indexField : Option String) (position : IndexLabel × Nat) : Value :=
  objectOf (indexField.toList.map (fun name => (name, position.1.toValue)) ++
    state.columns.1.zip (rowCells storedColumns position.2))

def exportTable (state : FrameState) (options : Value) : Except JsonFrameError Value := do
  let indexField ← resolveIndexFieldName state options
  indexField.toList.forM fun name => assertUniqueTableIndexLabels name [] state.index
  let indexFields ← indexField.toList.mapM (exportIndexField state)
  let storedColumns ← resolveStoredColumns state
  let dataFields ← (state.columns.1.zip storedColumns).zipIdx.mapM
    (exportField state (getDataFieldTemplates state) indexFields.length)
  let schema ← exportSchema state.tableSchema (indexFields ++ dataFields) indexField
  return .object [("schema", schema),
    ("data", .array (state.index.zipIdx.map (tableRow state storedColumns indexField)))]

namespace DataFrame

/-- The payload of one layout. -/
def toPayload (frame : DataFrame) (orient : ResolvedOrient) (options : Value) :
    Except JsonFrameError Value :=
  match orient with
  | .records => exportRecords frame.state
  | .index => exportIndex frame.state
  | .columns => exportColumns frame.state
  | .values => exportValues frame.state
  | .split => exportSplit frame.state
  | .table => exportTable frame.state options

/-- `toJSONString`: the text of a payload that passes the bounded traversal. -/
def toJSONString (stringify : Value → String) (frame : DataFrame) (orient : ResolvedOrient)
    (options : Value) : Except JsonFrameError String := do
  let indexField ← normalizeToTableOptions options "toJSONString"
  let maxNodes ← validateMaxNodes (optionOf options "maxNodes")
  let payload ← frame.toPayload orient
    (.object (indexField.toList.map fun name => ("indexField", .string name)))
  let _ ← cloneJsonCompatible payload (some orient) "$" maxNodes
  return stringify payload

/-- `row(position)`, where the position is one of the frame. -/
def row (frame : DataFrame) (position : Nat) : Except JsonFrameError Row :=
  createRow frame.state position

end DataFrame

end WebTsToolkit.JsonFrame
