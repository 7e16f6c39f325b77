import WebTsToolkit.JsonFrame.ParseTable

set_option autoImplicit false

namespace WebTsToolkit.JsonFrame

open Js

def int32Min : Int := -2147483648

def int32Max : Int := 2147483647

/-- A column as it is stored: a list, an `Int32Array`, or a `Float64Array`, whose doubles are
the numbers themselves. -/
inductive StoredColumn where
  | plain (values : List Value)
  | int32 (items : List (BitVec 32))
  | float64 (items : List String)

namespace StoredColumn

/-- The cells that reads of a stored column give. -/
def values : StoredColumn → List Value
  | .plain values => values
  | .int32 items => items.map fun item => .number item.toInt.repr
  | .float64 items => items.map .number

end StoredColumn

def getStoredColumnValue (column : StoredColumn) (position : Nat) : Value :=
  (match column with
    | .plain values => values[position]?
    | .int32 items => items[position]?.map fun item : BitVec 32 => .number item.toInt.repr
    | .float64 items => items[position]?.map .number).getD .undefined

structure FrameState where
  columns : UniqueLabels
  index : List IndexLabel
  indexKind : IndexKind
  data : Map StoredColumn
  columnInfo : Map ColumnInfo
  tableSchema : Option TableSchema
  tableIndexField : Option String

def hasCategoricalMetadata (field : TableSchemaField) : Bool :=
  (match getOwn field.entries "constraints" with
    | some (.object constraints) => (getOwn constraints "enum").isSome
    | _ => false) ||
  (match getOwn field.entries "ordered" with
    | some (.bool ordered) => ordered
    | _ => false) ||
  (match getOwn field.entries "extDtype" with
    | some (.string extDtype) => extDtype == "category"
    | _ => false)

def mapTableSchemaFieldType (field : TableSchemaField) : ColumnType :=
  if hasCategoricalMetadata field then .categorical
  else
    match getOwn field.entries "type" with
    | some (.string "boolean") => .boolean
    | some (.string "integer") | some (.string "year") => .integer
    | some (.string "number") => .float
    | some (.string "date") | some (.string "datetime") => .datetime
    | some (.string "string") => .string
    | _ => .unknown

/-- What the cells of a column have shown. -/
structure SeenKinds where
  nullable : Bool := false
  sawBoolean : Bool := false
  sawString : Bool := false
  sawInteger : Bool := false
  sawFloat : Bool := false
  sawStructured : Bool := false

def SeenKinds.see (seen : SeenKinds) : Value → SeenKinds
  | .null => { seen with nullable := true }
  | .bool _ => { seen with sawBoolean := true }
  | .string _ => { seen with sawString := true }
  | .number text =>
    if isIntegerText text then { seen with sawInteger := true }
    else { seen with sawFloat := true }
  | _ => { seen with sawStructured := true }

def inferColumnType (values : List Value) : ColumnInfo :=
  let seen := values.foldl SeenKinds.see {}
  let nonNullKinds := ([seen.sawBoolean, seen.sawString, seen.sawInteger || seen.sawFloat,
    seen.sawStructured].filter id).length
  let type : ColumnType :=
    if nonNullKinds = 0 then .unknown
    else if seen.sawStructured || 1 < nonNullKinds ||
        (seen.sawBoolean && (seen.sawString || seen.sawInteger || seen.sawFloat)) then .mixed
    else if seen.sawString then .string
    else if seen.sawBoolean then .boolean
    else if seen.sawFloat then .float
    else .integer
  { type, nullable := seen.nullable }

def daysInMonth : List Nat := [31, 28, 31, 30, 31, 30, 31, 31, 30, 31, 30, 31]

/-- The number that this many leading digits spell, and the text behind them. -/
def readDigits (count : Nat) (text : List Char) : Option (Nat × List Char) :=
  let digits := text.take count
  if digits.length = count ∧ digits.all isDigit then
    some (digitsValue digits, text.drop count)
  else none

/-- The text behind one of these characters. -/
def readMark (marks : List Char) : List Char → Option (List Char)
  | c :: rest => if marks.contains c then some rest else none
  | [] => none

/-- The date part of `DATETIME_PATTERN`: year, month and day. -/
def readDate (text : List Char) : Option ((Nat × Nat × Nat) × List Char) := do
  let (year, text) ← readDigits 4 text
  let text ← readMark ['-'] text
  let (month, text) ← readDigits 2 text
  let text ← readMark ['-'] text
  let (day, text) ← readDigits 2 text
  return ((year, month, day), text)

/-- The optional time part: hour, minute and second. -/
def readTime (text : List Char) : Option (Nat × Nat × Nat) :=
  if text.isEmpty then some (0, 0, 0)
  else do
    let text ← readMark ['T', ' '] text
    let (hour, text) ← readDigits 2 text
    let text ← readMark [':'] text
    let (minute, text) ← readDigits 2 text
    let text ← readMark [':'] text
    let (second, text) ← readDigits 2 text
    match text with
    | [] => return (hour, minute, second)
    | '.' :: fraction =>
      if 1 ≤ fraction.length ∧ fraction.length ≤ 9 ∧ fraction.all isDigit then
        return (hour, minute, second)
      else none
    | _ => none

def isPandasNaiveIsoDatetime (value : String) : Bool :=
  match (do
    let (date, rest) ← readDate value.toList
    let time ← readTime rest
    return (date, time)) with
  | none => false
  | some ((year, month, day), hour, minute, second) =>
    if month < 1 || 12 < month || 23 < hour || 59 < minute || 59 < second then false
    else
      let leapYear := year % 4 == 0 && (year % 100 != 0 || year % 400 == 0)
      let days := if month == 2 && leapYear then 29 else (daysInMonth[month - 1]?).getD 0
      1 ≤ day && day ≤ days

def isColumnValueCompatible (type : ColumnType) (value : Value) : Bool :=
  match value with
  | .null => true
  | .number text =>
    match type with
    | .integer => isIntegerText text
    | .float | .categorical | .mixed | .unknown => true
    | .string | .boolean | .datetime => false
  | .string text =>
    match type with
    | .string | .categorical | .mixed | .unknown => true
    | .datetime => isPandasNaiveIsoDatetime text
    | .integer | .float | .boolean => false
  | .bool _ =>
    match type with
    | .boolean | .categorical | .mixed | .unknown => true
    | .integer | .float | .string | .datetime => false
  | .array _ | .object _ => type == .mixed || type == .unknown
  | _ => false

def labelText : IndexLabel → String
  | .string value => value
  | .number text => unsignedZero text

def getColumnCellPath (orient : ResolvedOrient) (column : String) (columnIndex rowIndex : Nat)
    (rowLabel : IndexLabel) : String :=
  let row := "[" ++ rowIndex.repr ++ "]"
  let position := "[" ++ columnIndex.repr ++ "]"
  let name := "[" ++ Json.stringifyString column ++ "]"
  let label := "[" ++ Json.stringifyString (labelText rowLabel) ++ "]"
  match orient with
  | .records => "$" ++ row ++ name
  | .values => "$" ++ row ++ position
  | .split => "$.data" ++ row ++ position
  | .table => "$.data" ++ row ++ name
  | .index => "$" ++ label ++ name
  | .columns => "$" ++ name ++ label

/-- `validateColumnValuesForType`, from this row on. -/
def validateColumnValuesForType (orient : ResolvedOrient) (column : String) (columnIndex : Nat)
    (type : ColumnType) (index : List IndexLabel) (rowIndex : Nat) :
    List Value → Except JsonFrameError Unit
  | [] => .ok ()
  | value :: rest =>
    if isColumnValueCompatible type value then
      validateColumnValuesForType orient column columnIndex type index (rowIndex + 1) rest
    else
      .error (.validation "Column cells are incompatible with the declared logical type."
        { orient := some orient
          path := some (getColumnCellPath orient column columnIndex rowIndex
            (index[rowIndex]?.getD (.string "undefined")))
          row := some rowIndex
          column := some column })

/-- The item that an `Int32Array` stores for an integer within its range. -/
def storeInt32 : Value → Option (BitVec 32)
  | .number text =>
    match plainInteger text with
    | some value =>
      if text ≠ "-0" ∧ int32Min ≤ value ∧ value ≤ int32Max then some (.ofInt 32 value)
      else none
    | none => none
  | _ => none

def storeFloat64 : Value → Option String
  | .number text => some text
  | _ => none

def packColumn (values : List Value) (info : ColumnInfo) (packThreshold : Nat) : StoredColumn :=
  if packThreshold = 0 || values.length < packThreshold || info.nullable then .plain values
  else
    match info.type with
    | .integer =>
      match values.mapM storeInt32 with
      | some items => .int32 items
      | none => .plain values
    | .float =>
      match values.mapM storeFloat64 with
      | some items => .float64 items
      | none => .plain values
    | _ => .plain values

def hasNullValue (values : List Value) : Bool :=
  values.any fun value => value matches .null

def validateExplicitColumnTypes (columns : List String)
    (columnTypes : Option (List (String × ColumnType))) : Except JsonFrameError Unit :=
  (columnTypes.getD []).forM fun (column, _) =>
    if columns.contains column then .ok ()
    else .error (.option "`options.columnTypes` keys must match parsed column names."
      ("columnTypes." ++ column))

def resolveSchemaTypeByColumn (columns : List String) (tableSchema : Option TableSchema) :
    Map ColumnType :=
  match tableSchema with
  | none => ∅
  | some schema =>
    schema.fields.foldl (fun types field =>
      if columns.contains field.name then types.set field.name (mapTableSchemaFieldType field)
      else types) ∅

def rebuildStoredColumn (column : StoredColumn) (positions : List Nat) : List Value :=
  positions.map (getStoredColumnValue column)

/-- Stored columns with their metadata, under construction. -/
structure BuiltColumns where
  data : Map StoredColumn := ∅
  columnInfo : Map ColumnInfo := ∅

namespace BuiltColumns

/-- A column of these cells and this metadata. -/
def add (packThreshold : Nat) (built : BuiltColumns) (column : String)
    (source : List Value × ColumnInfo) : BuiltColumns where
  data := built.data.set column (packColumn source.1 source.2 packThreshold)
  columnInfo := built.columnInfo.set column source.2

/-- The loops of `buildFrameState` and `createFrameStateFromRebuiltData`: one column for each
item. -/
def collect {ι : Type} (packThreshold : Nat) (key : ι → String)
    (compute : ι → Except JsonFrameError (List Value × ColumnInfo)) (items : List ι)
    (built : BuiltColumns) : Except JsonFrameError BuiltColumns :=
  items.foldlM (fun built item => (compute item).map (built.add packThreshold (key item))) built

end BuiltColumns

/-- The cells and the metadata of one column of a parsed frame. -/
def buildColumn (frame : ParsedFrame) (options : NormalizedFromOrientOptions)
    (position : String × Nat) : Except JsonFrameError (List Value × ColumnInfo) := do
  let (column, columnIndex) := position
  let values ← parsedColumn frame column
  let inferred := inferColumnType values
  let schemaType := (resolveSchemaTypeByColumn frame.columns.1 frame.tableSchema).lookup column
  let explicitType := (options.columnTypes.getD []).lookup column
  let type := (schemaType.or explicitType).getD inferred.type
  if schemaType.isNone && explicitType.isSome then
    validateColumnValuesForType frame.orient column columnIndex type frame.index 0 values
  return (values, { type, nullable := inferred.nullable })

/-- The state that a parsed frame becomes once its columns are built. -/
def stateOf (frame : ParsedFrame) (built : BuiltColumns) : FrameState where
  columns := frame.columns
  index := frame.index
  indexKind := frame.indexKind
  data := built.data
  columnInfo := built.columnInfo
  tableSchema := frame.tableSchema
  tableIndexField := frame.tableIndexField

/-- `buildFrameState`. -/
def createFrameState (frame : ParsedFrame) (options : NormalizedFromOrientOptions) :
    Except JsonFrameError FrameState := do
  validateExplicitColumnTypes frame.columns.1 options.columnTypes
  let built ← BuiltColumns.collect options.packThreshold Prod.fst (buildColumn frame options)
    frame.columns.1.zipIdx {}
  return stateOf frame built

/-- A frame between two states: its columns as lists, each with the metadata of its source. -/
structure RebuiltFrame where
  columns : UniqueLabels
  index : List IndexLabel
  indexKind : IndexKind
  data : Map (List Value)
  columnInfo : Map ColumnInfo
  tableSchema : Option TableSchema
  tableIndexField : Option String

def rebuildColumn (frame : RebuiltFrame) (column : String) :
    Except JsonFrameError (List Value × ColumnInfo) :=
  match frame.data.lookup column, frame.columnInfo.lookup column with
  | some values, some sourceInfo =>
    .ok (values, { type := sourceInfo.type, nullable := sourceInfo.nullable && hasNullValue values })
  | none, _ => .error (.validation "Rebuilt frame data is missing a declared column."
      { path := some "$", column := some column })
  | some _, none => .error (.validation "Rebuilt frame metadata is missing a declared column."
      { path := some "$", column := some column })

/-- The state that a rebuilt frame becomes once its columns are built. -/
def rebuiltStateOf (frame : RebuiltFrame) (built : BuiltColumns) : FrameState where
  columns := frame.columns
  index := frame.index
  indexKind := frame.indexKind
  data := built.data
  columnInfo := built.columnInfo
  tableSchema := frame.tableSchema
  tableIndexField := frame.tableIndexField

def createFrameStateFromRebuiltData (frame : RebuiltFrame) (packThreshold : Nat) :
    Except JsonFrameError FrameState := do
  let built ← BuiltColumns.collect packThreshold id (rebuildColumn frame) frame.columns.1 {}
  return rebuiltStateOf frame built

theorem getStoredColumnValue_eq (column : StoredColumn) (position : Nat) :
    getStoredColumnValue column position = column.values[position]?.getD .undefined := by
  cases column <;> simp [getStoredColumnValue, StoredColumn.values, List.getElem?_map]

theorem storeInt32_read {value : Value} {item : BitVec 32} (stored : storeInt32 value = some item) :
    Value.number item.toInt.repr = value := by
  unfold storeInt32 at stored
  split at stored
  · next text =>
    split at stored
    · next number spelled =>
      split at stored
      · next fits =>
        obtain ⟨signed, lower, upper⟩ := fits
        have lower : -2147483648 ≤ number := lower
        have upper : number ≤ 2147483647 := upper
        have exact_ : item.toInt = number := by
          rw [← Option.some.inj stored, BitVec.toInt_ofInt]
          exact Int.bmod_eq_of_le (by omega) (by omega)
        rw [exact_, repr_of_plainInteger spelled signed]
      · contradiction
    · contradiction
  · contradiction

theorem storeFloat64_read {value : Value} {item : String} (stored : storeFloat64 value = some item) :
    Value.number item = value := by
  unfold storeFloat64 at stored
  split at stored
  · rw [Option.some.inj stored]
  · contradiction

/-- Items that are each read back as the value they were stored for. -/
theorem map_of_mapM {α : Type} {store : Value → Option α} {read : α → Value}
    (exact_ : ∀ value item, store value = some item → read item = value)
    {values : List Value} {items : List α} (stored : values.mapM store = some items) :
    items.map read = values := by
  induction values generalizing items with
  | nil =>
    rw [List.mapM_nil] at stored
    rw [← Option.some.inj stored]
    rfl
  | cons value values ih =>
    rw [List.mapM_cons] at stored
    obtain ⟨item, here, later⟩ := Option.bind_eq_some_iff.mp stored
    obtain ⟨rest, there, same⟩ := Option.bind_eq_some_iff.mp later
    have same : item :: rest = items := Option.some.inj same
    rw [← same, List.map_cons, exact_ value item here, ih there]

/-- Packing loses nothing. -/
@[simp] theorem values_packColumn (values : List Value) (info : ColumnInfo)
    (packThreshold : Nat) : (packColumn values info packThreshold).values = values := by
  unfold packColumn
  split
  · rfl
  · split
    · split
      · next items stored => exact map_of_mapM (fun _ _ => storeInt32_read) stored
      · rfl
    · split
      · next items stored => exact map_of_mapM (fun _ _ => storeFloat64_read) stored
      · rfl
    · rfl

theorem rebuildStoredColumn_eq (column : StoredColumn) (positions : List Nat) :
    rebuildStoredColumn column positions =
      positions.map fun position => column.values[position]?.getD .undefined :=
  List.map_congr_left fun position _ => getStoredColumnValue_eq column position

end WebTsToolkit.JsonFrame
