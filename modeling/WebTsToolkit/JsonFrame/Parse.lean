import WebTsToolkit.Js.Map
import WebTsToolkit.JsonFrame.Options

set_option autoImplicit false

namespace WebTsToolkit.JsonFrame

open Js

structure ParsedFrame where
  orient : ResolvedOrient
  columns : UniqueLabels
  index : List IndexLabel
  indexKind : IndexKind
  data : Map (List Value)
  tableSchema : Option TableSchema := none
  tableIndexField : Option String := none

/-- The labels `0..n-1`. -/
def positions (count : Nat) : List IndexLabel :=
  (List.range count).map fun position => .number position.repr

/-- What `Map` and `Set` compare labels by: the two zeros are one key. -/
def IndexLabel.mapKey : IndexLabel → IndexLabel
  | .string value => .string value
  | .number text => .number (unsignedZero text)

def assertSupportedIndexLabel (value : Value) (orient : ResolvedOrient) (path : String) :
    Except JsonFrameError IndexLabel :=
  let refusal := JsonFrameError.validation "Index labels must be strings or finite numbers."
    { orient := some orient, path := some path }
  match value with
  | .string text => .ok (.string text)
  | .number text => if isFiniteText text then .ok (.number text) else .error refusal
  | _ => .error refusal

def assertUniqueStringColumns (orient : ResolvedOrient) (path : String) (index : Nat)
    (columns : UniqueLabels) : List Value → Except JsonFrameError UniqueLabels
  | [] => .ok columns
  | .string column :: rest =>
    if fresh : column ∈ columns.1 then
      .error (.validation "Column labels must be unique."
        { orient := some orient, path := some (appendIndexPath path index),
          column := some column })
    else
      assertUniqueStringColumns orient path (index + 1) (columns.push column fresh) rest
  | _ :: _ => .error (.validation "Column labels must be strings."
      { orient := some orient, path := some (appendIndexPath path index) })

/-- `data.get(column).push(cell)`. -/
def pushCell (data : Map (List Value)) (column : String) (cell : Value) : Map (List Value) :=
  data.set column ((data.lookup column).getD [] ++ [cell])

/-- A row that has no such column has null there. -/
def ownCell (row : Entries) (column : String) : Value :=
  (getOwn row column).getD .null

/-- The cells of a row object in all columns. -/
def pushRow (columns : List String) (row : Entries) (data : Map (List Value)) :
    Map (List Value) :=
  columns.foldl (fun data column => pushCell data column (ownCell row column)) data

/-- The cells of a row array in all columns. -/
def pushItems (columns : List String) (row : List Value) (data : Map (List Value)) :
    Map (List Value) :=
  (columns.zip row).foldl (fun data (column, cell) => pushCell data column cell) data

def initializeData (columns : List String) : Map (List Value) :=
  columns.foldl (fun data column => data.set column []) ∅

/-- `data.get(column)` in `finalizeFrame`. -/
def parsedColumn (frame : ParsedFrame) (column : String) :
    Except JsonFrameError (List Value) :=
  match frame.data.lookup column with
  | some values => .ok values
  | none => .error (.validation "Parsed frame data is missing a declared column."
      { orient := some frame.orient, column := some column })

def finalizeFrame (frame : ParsedFrame) : Except JsonFrameError ParsedFrame := do
  let data ← Map.collect id (parsedColumn frame) frame.columns.1 ∅
  return { frame with data }

def isPlainObject (value : Option Value) : Bool :=
  match value with
  | some (.object _) => true
  | _ => false

def isArray (value : Option Value) : Bool :=
  match value with
  | some (.array _) => true
  | _ => false

def detectOrient (value : Value) : Except JsonFrameError ResolvedOrient :=
  match value with
  | .array [] => .error (.ambiguousOrient
      "Auto detection cannot distinguish between empty records and empty values payloads."
      [.records, .values])
  | .array items =>
    if items.all (·.isArray) then .ok .values
    else if items.all (·.isPlainObject) then .ok .records
    else .error (.validation
      "Auto detection requires a non-empty array of row objects or row arrays."
      { path := some "$" })
  | .object entries =>
    if isPlainObject (getOwn entries "schema") && isArray (getOwn entries "data") then .ok .table
    else if isArray (getOwn entries "columns") && isArray (getOwn entries "data") &&
        ((getOwn entries "index").isNone || isArray (getOwn entries "index")) then .ok .split
    else if entries.all (·.2.isPlainObject) then
      .error (.ambiguousOrient
        "Auto detection cannot distinguish between index and columns payloads."
        [.index, .columns])
    else .error (.validation "Auto detection could not resolve the payload orient."
      { path := some "$" })
  | _ => .error (.validation "Auto detection requires a JSON array or object payload."
      { path := some "$" })

/-- The columns that rows have shown so far, in the order of their discovery. -/
structure Collected where
  columns : UniqueLabels := .empty
  data : Map (List Value) := ∅

namespace Collected

/-- A column that the rows before did not have is padded with null. -/
def declare (rowIndex : Nat) (collected : Collected) (column : String) : Collected :=
  if fresh : column ∈ collected.columns.1 then collected
  else
    { columns := collected.columns.push column fresh
      data := collected.data.set column (List.replicate rowIndex .null) }

def addRow (rowIndex : Nat) (row : Entries) (collected : Collected) : Collected :=
  let declared := (UniqueLabels.ofKeys row).1.foldl (declare rowIndex) collected
  { declared with data := pushRow declared.columns.1 row declared.data }

end Collected

/-- The loop of `parseRecords` and `parseIndex`. -/
def collectRows (refusal : Nat → JsonFrameError) (rowIndex : Nat) (collected : Collected) :
    List Value → Except JsonFrameError Collected
  | [] => .ok collected
  | .object row :: rest =>
    collectRows refusal (rowIndex + 1) (collected.addRow rowIndex row) rest
  | _ :: _ => .error (refusal rowIndex)

def parseRecords (value : Value) : Except JsonFrameError ParsedFrame :=
  match value with
  | .array rows => do
    let collected ← collectRows (fun rowIndex => .validation
      "`records` rows must be JSON objects."
      { orient := some .records, path := some (appendIndexPath "$" rowIndex),
        row := some rowIndex }) 0 {} rows
    finalizeFrame
      { orient := .records
        columns := collected.columns
        index := positions rows.length
        indexKind := .synthetic
        data := collected.data }
  | _ => .error (.validation "`records` payloads must be arrays."
      { orient := some .records, path := some "$" })

def parseIndex (value : Value) : Except JsonFrameError ParsedFrame :=
  match value with
  | .object entries => do
    let index := (UniqueLabels.ofKeys entries).1
    let collected ← collectRows (fun rowIndex => .validation
      "`index` payload rows must be JSON objects."
      { orient := some .index
        path := some (appendPropertyPath "$" (index[rowIndex]?.getD ""))
        row := some rowIndex }) 0 {} (index.map (ownCell entries))
    finalizeFrame
      { orient := .index
        columns := collected.columns
        index := index.map .string
        indexKind := .source
        data := collected.data }
  | _ => .error (.validation "`index` payloads must be objects keyed by index label."
      { orient := some .index, path := some "$" })

/-- The loop of `parseColumns`, with the row labels of the first column. -/
def collectColumns (entries : Entries) (index : Option (List String)) (data : Map (List Value)) :
    List String → Except JsonFrameError (Option (List String) × Map (List Value))
  | [] => .ok (index, data)
  | column :: rest =>
    let context : ErrorContext :=
      { orient := some .columns, path := some (appendPropertyPath "$" column),
        column := some column }
    match ownCell entries column with
    | .object values =>
      let keys := (UniqueLabels.ofKeys values).1
      if (index.getD keys) = keys then
        collectColumns entries (some keys) (data.set column (keys.map (ownCell values))) rest
      else
        .error (.validation
          "Every `columns` payload column must expose the same ordered index keys." context)
    | _ => .error (.validation
        "`columns` payload values must be objects keyed by index label." context)

def parseColumns (value : Value) : Except JsonFrameError ParsedFrame :=
  match value with
  | .object entries => do
    let columns := UniqueLabels.ofKeys entries
    let (index, data) ← collectColumns entries none ∅ columns.1
    finalizeFrame
      { orient := .columns
        columns
        index := (index.getD []).map .string
        indexKind := .source
        data }
  | _ => .error (.validation "`columns` payloads must be objects keyed by column label."
      { orient := some .columns, path := some "$" })

/-- The loop over row arrays of `parseValues` and `parseSplit`. -/
def collectItems (refusal : String → Nat → JsonFrameError) (notArray badWidth : String)
    (columns : List String) (rowIndex : Nat) (data : Map (List Value)) :
    List Value → Except JsonFrameError (Map (List Value))
  | [] => .ok data
  | .array row :: rest =>
    if row.length = columns.length then
      collectItems refusal notArray badWidth columns (rowIndex + 1) (pushItems columns row data)
        rest
    else .error (refusal badWidth rowIndex)
  | _ :: _ => .error (refusal notArray rowIndex)

def parseValues (value : Value) (columns : Option UniqueLabels) :
    Except JsonFrameError ParsedFrame :=
  match columns, value with
  | none, _ => .error (.option "`options.columns` is required for `orient=\"values\"` input."
      "columns")
  | some columns, .array rows => do
    let data ← collectItems (fun message rowIndex => .validation message
      { orient := some .values, path := some (appendIndexPath "$" rowIndex),
        row := some rowIndex })
      "`values` rows must be arrays." "`values` row widths must match `options.columns`."
      columns.1 0 (initializeData columns.1) rows
    finalizeFrame
      { orient := .values
        columns
        index := positions rows.length
        indexKind := .synthetic
        data }
  | some _, _ => .error (.validation "`values` payloads must be arrays of arrays."
      { orient := some .values, path := some "$" })

/-- The row labels of a split payload, `none` where the payload has none. -/
def splitIndex (entries : Entries) : Except JsonFrameError (Option (List IndexLabel)) :=
  match getOwn entries "index" with
  | none => .ok none
  | some (.array labels) => do
    let index ← labels.zipIdx.mapM fun (label, position) =>
      assertSupportedIndexLabel label .split (appendIndexPath "$.index" position)
    return some index
  | some _ => .error (.validation "`split.index` must be an array of index labels when present."
      { orient := some .split, path := some "$.index" })

def parseSplit (value : Value) : Except JsonFrameError ParsedFrame :=
  let refusal (message path : String) : JsonFrameError :=
    .validation message { orient := some .split, path := some path }
  match value with
  | .object entries =>
    match getOwn entries "columns", getOwn entries "data" with
    | some (.array labels), some (.array rows) => do
      let columns ← assertUniqueStringColumns .split "$.columns" 0 .empty labels
      let index ← splitIndex entries
      if (index.map List.length).getD rows.length ≠ rows.length then
        .error (refusal "`split.index` length must match `split.data` length." "$.index")
      else
        let data ← collectItems (fun message rowIndex => .validation message
          { orient := some .split, path := some (appendIndexPath "$.data" rowIndex),
            row := some rowIndex })
          "`split.data` rows must be arrays."
          "`split.data` row widths must match `split.columns`."
          columns.1 0 (initializeData columns.1) rows
        finalizeFrame
          { orient := .split
            columns
            index := index.getD (positions rows.length)
            indexKind := if index.isSome then .source else .synthetic
            data }
    | some (.array _), _ =>
      .error (refusal "`split.data` must be an array of row arrays." "$.data")
    | _, _ =>
      .error (refusal "`split.columns` must be an array of unique strings." "$.columns")
  | _ => .error (refusal "`split` payloads must be objects." "$")

end WebTsToolkit.JsonFrame
