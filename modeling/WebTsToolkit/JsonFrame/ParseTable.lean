import WebTsToolkit.JsonFrame.Parse

set_option autoImplicit false

namespace WebTsToolkit.JsonFrame

open Js

/-- A refusal of a table payload. -/
def tableRefusal (message path : String) : JsonFrameError :=
  .validation message { orient := some .table, path := some path }

/-- The check of one item of `constraints.enum`. -/
def checkEnumValue (path : String) (entry : Value × Nat) : Except JsonFrameError Unit :=
  let refusal := tableRefusal "Table Schema `constraints.enum` must contain only scalar JSON values."
    (appendIndexPath (appendPropertyPath path "enum") entry.2)
  match entry.1 with
  | .null | .string _ | .bool _ => .ok ()
  | .number text => if isFiniteText text then .ok () else .error refusal
  | _ => .error refusal

/-- The checks of `cloneConstraints`; what it returns has the content of its argument. -/
def checkConstraints (path : String) (value : Value) : Except JsonFrameError Unit :=
  match value with
  | .object entries =>
    match getOwn entries "enum" with
    | none => .ok ()
    | some (.array items) => items.zipIdx.forM (checkEnumValue path)
    | some _ => .error (tableRefusal
        "Table Schema `constraints.enum` must be an array of scalar JSON values."
        (appendPropertyPath path "enum"))
  | _ => .error (tableRefusal "Table Schema field constraints must be an object when present."
      path)

/-- An entry that is a string if it is there. -/
def checkOptionalString (path : String) (entries : Entries) (key : String) :
    Except JsonFrameError Unit :=
  match getOwn entries key with
  | none | some (.string _) => .ok ()
  | some _ => .error (tableRefusal ("Table Schema `" ++ key ++ "` must be a string when present.")
      (appendPropertyPath path key))

/-- The checks of `cloneTableField` past the name. -/
def checkFieldEntries (path : String) (entries : Entries) : Except JsonFrameError Unit := do
  match getOwn entries "type" with
  | some (.string _) => pure ()
  | _ => .error (tableRefusal "Table Schema field types must be strings."
      (appendPropertyPath path "type"))
  match getOwn entries "ordered" with
  | none | some (.bool _) => pure ()
  | some _ => .error (tableRefusal "Table Schema `ordered` must be boolean when present."
      (appendPropertyPath path "ordered"))
  ["format", "extDtype", "tz", "freq"].forM (checkOptionalString path entries)
  match getOwn entries "constraints" with
  | none => pure ()
  | some constraints => checkConstraints (appendPropertyPath path "constraints") constraints

def cloneTableField (value : Value) (index : Nat) : Except JsonFrameError TableSchemaField :=
  let path := appendIndexPath "$.schema.fields" index
  match value with
  | .object entries =>
    match named : entries.lookup "name" with
    | some (.string name) => do
      checkFieldEntries path entries
      return { name, entries, named }
    | _ => .error (tableRefusal "Table Schema field names must be strings."
        (appendPropertyPath path "name"))
  | _ => .error (tableRefusal "Table Schema fields must be objects." path)

/-- The names of the fields, which must not repeat. -/
def fieldNames (names : UniqueLabels) : List TableSchemaField → Except JsonFrameError UniqueLabels
  | [] => .ok names
  | field :: rest =>
    if fresh : field.name ∈ names.1 then
      .error (.validation "Table Schema field names must be unique."
        { orient := some .table, path := some "$.schema.fields", column := some field.name })
    else fieldNames (names.push field.name fresh) rest

def clonePrimaryKey (value : Option Value) : Except JsonFrameError (Option (List String)) :=
  match value with
  | none => .ok none
  | some (.array items) => do
    let primaryKey ← items.zipIdx.mapM fun (entry, index) =>
      match entry with
      | .string name => .ok name
      | _ => .error (tableRefusal "`table.schema.primaryKey` entries must be strings."
          (appendIndexPath "$.schema.primaryKey" index))
    return some primaryKey
  | some _ => .error (tableRefusal
      "`table.schema.primaryKey` must be an array of strings when present." "$.schema.primaryKey")

/-- The schema of a payload, with the distinct names of its fields. -/
def cloneTableSchema (value : Value) : Except JsonFrameError (TableSchema × UniqueLabels) :=
  match value with
  | .object entries =>
    match getOwn entries "fields" with
    | some (.array items) => do
      let fields ← items.zipIdx.mapM fun (field, index) => cloneTableField field index
      let names ← fieldNames .empty fields
      let primaryKey ← clonePrimaryKey (getOwn entries "primaryKey")
      if 1 < (primaryKey.getD []).length then
        .error (.unsupportedFeature "MultiIndex table payloads are not supported." "multi-index"
          { orient := some .table, path := some "$.schema.primaryKey" })
      else
        checkVersion (getOwn entries "pandas_version")
        let metadata := entries.filter fun entry =>
          entry.1 != "fields" && entry.1 != "primaryKey"
        return ({ fields, primaryKey, metadata }, names)
    | _ => .error (tableRefusal "`table.schema.fields` must be an array." "$.schema.fields")
  | _ => .error (tableRefusal "`table.schema` must be an object." "$.schema")
where
  checkVersion (version : Option Value) : Except JsonFrameError Unit :=
    match version with
    | none | some (.string _) => .ok ()
    | some _ => .error (tableRefusal
        "`table.schema.pandas_version` must be a string when present." "$.schema.pandas_version")

/-- Every key of a row names a field. -/
def checkRowKeys (names : List String) (rowIndex : Nat) (row : Entries) :
    Except JsonFrameError Unit :=
  row.forM fun (key, _) =>
    if names.contains key then .ok ()
    else .error (.validation "`table.data` rows must not include fields missing from `schema.fields`."
      { orient := some .table
        path := some (appendPropertyPath (appendIndexPath "$.data" rowIndex) key)
        row := some rowIndex
        column := some key })

/-- The label of a row: the value of its primary key, which no row before it has. -/
def tableLabel (primaryKey : Option String) (index : List IndexLabel) (rowIndex : Nat)
    (row : Entries) : Except JsonFrameError IndexLabel :=
  let rowPath := appendIndexPath "$.data" rowIndex
  match primaryKey with
  | none => .ok (.number rowIndex.repr)
  | some primaryKey =>
    match getOwn row primaryKey with
    | none => .error (.validation "`table.data` rows must include the primary-key field."
        { orient := some .table, path := some rowPath, row := some rowIndex,
          column := some primaryKey })
    | some value => do
      let path := appendPropertyPath rowPath primaryKey
      let label ← assertSupportedIndexLabel value .table path
      if (index.map IndexLabel.mapKey).contains label.mapKey then
        .error (.validation "Table primary-key values must be unique."
          { orient := some .table, path := some path, row := some rowIndex,
            column := some primaryKey })
      else return label

/-- The loop of `parseTable`. -/
def collectTableRows (names columns : List String) (primaryKey : Option String)
    (index : List IndexLabel) (data : Map (List Value)) :
    List Value → Except JsonFrameError (List IndexLabel × Map (List Value))
  | [] => .ok (index, data)
  | .object row :: rest => do
    checkRowKeys names index.length row
    let label ← tableLabel primaryKey index index.length row
    collectTableRows names columns primaryKey (index ++ [label]) (pushRow columns row data) rest
  | _ :: _ => .error (.validation "`table.data` rows must be objects."
      { orient := some .table, path := some (appendIndexPath "$.data" index.length),
        row := some index.length })

/-- Labels without one of them. -/
def UniqueLabels.without (labels : UniqueLabels) (label : Option String) : UniqueLabels :=
  ⟨labels.1.filter fun other => some other ≠ label, labels.2.filter _⟩

def parseTable (value : Value) : Except JsonFrameError ParsedFrame :=
  match value with
  | .object entries => do
    let (schema, names) ← cloneTableSchema ((getOwn entries "schema").getD .undefined)
    match getOwn entries "data" with
    | some (.array rows) =>
      let primaryKey := (schema.primaryKey.getD []).head?
      if primaryKey.any fun name => !names.1.contains name then
        .error (.validation "`table.schema.primaryKey` must reference a declared field."
          { orient := some .table, path := some "$.schema.primaryKey", column := primaryKey })
      else
        let columns := names.without primaryKey
        let (index, data) ← collectTableRows names.1 columns.1 primaryKey []
          (initializeData columns.1) rows
        finalizeFrame
          { orient := .table
            columns
            index
            indexKind := if primaryKey.isSome then .source else .synthetic
            data
            tableSchema := some schema
            tableIndexField := primaryKey }
    | _ => .error (tableRefusal "`table.data` must be an array of row objects." "$.data")
  | _ => .error (tableRefusal "`table` payloads must be objects." "$")

/-- `parseInput`. A text is read by `JSON.parse`, which yields nothing for a syntax error. -/
def parseInput (jsonParse : String → Option Value) (input : Value)
    (options : NormalizedFromOrientOptions) : Except JsonFrameError ParsedFrame := do
  let parsed ← match input with
    | .string text =>
      match jsonParse text with
      | some value => Except.ok value
      | none => .error (.parse "Failed to parse JSON input.")
    | value => .ok value
  let value ← cloneJsonCompatible parsed options.orient "$" options.maxNodes
  let orient ← match options.orient with
    | some orient => Except.ok orient
    | none => detectOrient value
  match orient with
  | .records => parseRecords value
  | .index => parseIndex value
  | .columns => parseColumns value
  | .values => parseValues value options.columns
  | .split => parseSplit value
  | .table => parseTable value

end WebTsToolkit.JsonFrame
