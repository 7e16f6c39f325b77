import WebTsToolkit.Js.Value

set_option autoImplicit false

namespace WebTsToolkit.JsonFrame

open Js

inductive ResolvedOrient where
  | records
  | index
  | columns
  | values
  | split
  | table
  deriving DecidableEq, Repr

/-- A row label. A number is its text, with negative zero apart. -/
inductive IndexLabel where
  | string (value : String)
  | number (text : String)
  deriving DecidableEq, Repr

namespace IndexLabel

def toValue : IndexLabel → Value
  | .string value => .string value
  | .number text => .number text

end IndexLabel

inductive IndexKind where
  | source
  | synthetic
  deriving DecidableEq, Repr

inductive ColumnType where
  | integer
  | float
  | string
  | boolean
  | datetime
  | categorical
  | mixed
  | unknown
  deriving DecidableEq, Repr

structure ColumnInfo where
  type : ColumnType
  nullable : Bool
  deriving DecidableEq, Repr

/-- Where an error was found. The offending value itself is left out. -/
structure ErrorContext where
  orient : Option ResolvedOrient := none
  path : Option String := none
  row : Option Nat := none
  column : Option String := none
  deriving DecidableEq, Repr

inductive JsonFrameError where
  | parse (message : String)
  | option (message : String) (option : String)
  | validation (message : String) (context : ErrorContext)
  | ambiguousOrient (message : String) (candidates : List ResolvedOrient)
  | unsupportedFeature (message : String) (feature : String) (context : ErrorContext)
  | exportKeyCollision (message : String) (orient : ResolvedOrient) (key : String)
      (labels : List IndexLabel)
  deriving DecidableEq, Repr

/-- A field of a table schema: its entries, among them one string under `name`. -/
structure TableSchemaField where
  name : String
  entries : Entries
  named : entries.lookup "name" = some (.string name)

/-- A table schema: its fields, its primary key, and what else it holds. -/
structure TableSchema where
  fields : List TableSchemaField
  primaryKey : Option (List String)
  metadata : Entries

end WebTsToolkit.JsonFrame
