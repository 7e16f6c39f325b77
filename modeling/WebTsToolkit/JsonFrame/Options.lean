import Mathlib.Data.List.Dedup
import WebTsToolkit.Js.Double
import WebTsToolkit.JsonFrame.Json
import WebTsToolkit.Utils.ObjectPath

set_option autoImplicit false

namespace WebTsToolkit.JsonFrame

open Js Utils

/-- Labels without a repetition. -/
abbrev UniqueLabels := { labels : List String // labels.Nodup }

namespace UniqueLabels

def empty : UniqueLabels := ⟨[], List.nodup_nil⟩

/-- The labels with one more behind them. -/
def push (labels : UniqueLabels) (label : String) (fresh : label ∉ labels.1) : UniqueLabels :=
  ⟨labels.1 ++ [label], List.nodup_append.mpr ⟨labels.2, List.nodup_singleton label, by
    intro first member second same
    rw [List.mem_singleton.mp same]
    exact fun equal => fresh (equal ▸ member)⟩⟩

/-- Own keys of an object, which JavaScript keeps distinct. -/
def ofKeys (entries : Entries) : UniqueLabels :=
  ⟨(entries.map Prod.fst).dedup, List.nodup_dedup _⟩

end UniqueLabels

/-- `DEFAULT_PACK_THRESHOLD`. -/
def defaultPackThreshold : Nat := 256

def resolvedOrients : List (String × ResolvedOrient) :=
  [("records", .records), ("index", .index), ("columns", .columns), ("values", .values),
    ("split", .split), ("table", .table)]

def columnTypes : List (String × ColumnType) :=
  [("integer", .integer), ("float", .float), ("string", .string), ("boolean", .boolean),
    ("datetime", .datetime), ("categorical", .categorical), ("mixed", .mixed),
    ("unknown", .unknown)]

/-- No orient stands for `auto`. -/
structure NormalizedFromOrientOptions where
  orient : Option ResolvedOrient := none
  packThreshold : Nat := defaultPackThreshold
  columns : Option UniqueLabels := none
  columnTypes : Option (List (String × ColumnType)) := none
  maxNodes : Option Nat := none

/-- A read of an option. -/
def optionOf (options : Value) (name : String) : Value :=
  (ownProperty options name).getD .undefined

/-- Objects that are no arrays. -/
def isOptionsObject : Value → Bool
  | .object _ | .classed _ _ | .date _ | .regexp _ _ => true
  | _ => false

def validateMaxNodes (maxNodes : Value) : Except JsonFrameError (Option Nat) :=
  let refusal := JsonFrameError.option "`options.maxNodes` must be a positive safe integer."
    "maxNodes"
  match maxNodes with
  | .undefined => .ok none
  | .number text =>
    match integerValue text with
    | some value =>
      if isSafeInteger value && 0 < value then .ok (some value.toNat) else .error refusal
    | none => .error refusal
  | _ => .error refusal

def normalizeOrient (orient : Value) : Except JsonFrameError (Option ResolvedOrient) :=
  let refusal := JsonFrameError.option
    "`options.orient` must be one of auto, records, index, columns, values, split, or table."
    "orient"
  match orient with
  | .undefined | .null => .ok none
  | .string "auto" => .ok none
  | .string name =>
    match resolvedOrients.lookup name with
    | some resolved => .ok (some resolved)
    | none => .error refusal
  | _ => .error refusal

def normalizePackThreshold (packThreshold : Value) : Except JsonFrameError Nat :=
  let refusal := JsonFrameError.option
    "`options.packThreshold` must be a finite non-negative integer." "packThreshold"
  match packThreshold with
  | .undefined | .null => .ok defaultPackThreshold
  | .number text =>
    match integerValue text with
    | some value => if 0 ≤ value then .ok value.toNat else .error refusal
    | none => .error refusal
  | _ => .error refusal

/-- The labels of `options.columns`, one position after the other. -/
def validateColumns (validated : UniqueLabels) : List Value → Except JsonFrameError UniqueLabels
  | [] => .ok validated
  | .hole :: _ => .error (.option
      "`options.columns` must not contain holes; every position must be a string label." "columns")
  | .string column :: rest =>
    if fresh : column ∈ validated.1 then
      .error (.option "`options.columns` must not contain duplicates." "columns")
    else validateColumns (validated.push column fresh) rest
  | _ :: _ => .error (.option "`options.columns` must contain only strings." "columns")

def normalizeColumns (columns : Value) : Except JsonFrameError (Option UniqueLabels) :=
  match columns with
  | .undefined => .ok none
  | .array items => (validateColumns .empty items).map some
  | _ => .error (.option "`options.columns` must be an array of strings." "columns")

def normalizeColumnType (entry : String × Value) :
    Except JsonFrameError (String × ColumnType) :=
  let refusal := JsonFrameError.option
    "`options.columnTypes` values must be valid JSON Frame logical column types."
    ("columnTypes." ++ entry.1)
  match entry.2 with
  | .string name =>
    match columnTypes.lookup name with
    | some type => .ok (entry.1, type)
    | none => .error refusal
  | _ => .error refusal

def normalizeColumnTypes (types : Value) :
    Except JsonFrameError (Option (List (String × ColumnType))) :=
  if types matches .undefined then .ok none
  else if isOptionsObject types then ((entriesOf types).mapM normalizeColumnType).map some
  else .error (.option "`options.columnTypes` must be an object keyed by column name."
    "columnTypes")

def normalizeFromOrientOptions (options : Value) :
    Except JsonFrameError NormalizedFromOrientOptions := do
  if options.isNullish then return {}
  else if !isOptionsObject options then
    .error (.option "`fromOrient` options must be an object when provided." "options")
  else
    let orient ← normalizeOrient (optionOf options "orient")
    let maxNodes ← validateMaxNodes (optionOf options "maxNodes")
    let packThreshold ← normalizePackThreshold (optionOf options "packThreshold")
    let columns ← normalizeColumns (optionOf options "columns")
    let columnTypes ← normalizeColumnTypes (optionOf options "columnTypes")
    return { orient, packThreshold, columns, columnTypes, maxNodes }

/-- `normalizeToTableOptions`: the name for the index field, if one is given. -/
def normalizeToTableOptions (options : Value) (method : String) :
    Except JsonFrameError (Option String) :=
  if options matches .undefined then .ok none
  else if !isOptionsObject options then
    .error (.option ("`" ++ method ++ "` options must be an object when provided.") "options")
  else
    match optionOf options "indexField" with
    | .undefined => .ok none
    | .string indexField => .ok (some indexField)
    | _ => .error (.option
        ("`" ++ method ++ "` options.indexField must be a string when provided.") "indexField")

end WebTsToolkit.JsonFrame
