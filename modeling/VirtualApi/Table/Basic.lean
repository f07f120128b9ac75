import VirtualApi.Options

/-!
# Tables

A table shows objects as rows of cells. Its columns have a name, a type and a priority; a row may
carry the object it shows, whole or by its metadata alone.
-/

namespace VirtualApi

/-- What is said of a column. -/
structure ColumnDefinition where
  name : String
  type : String
  format : String := ""
  description : String := ""
  priority : Int := 0
deriving DecidableEq, Repr, Inhabited

namespace ColumnDefinition

/-- Read a column definition from JSON. -/
def ofJson? (value : Json) : Option ColumnDefinition := do
  let record ← Json.Record.named? ["name", "type", "format", "description", "priority"] value
  pure {
    name := ← record.required "name" Json.str?
    type := ← record.required "type" Json.str?
    format := ← record.withDefault "format" "" Json.str?
    description := ← record.withDefault "description" "" Json.str?
    priority := ← record.withDefault "priority" 0 Json.int32? }

/-- A column definition as JSON. -/
def toJson (column : ColumnDefinition) : Json :=
  .object [("name", .str column.name), ("type", .str column.type), ("format", .str column.format),
    ("description", .str column.description), ("priority", .int column.priority)]

end ColumnDefinition

/-- What a row carries of the object it shows. -/
inductive IncludeObject where
  | nothing
  | metadata
  | object
deriving DecidableEq, Repr, Inhabited

namespace IncludeObject

/-- The name of each choice. -/
def name : IncludeObject → String
  | .nothing => "None"
  | .metadata => "Metadata"
  | .object => "Object"

/-- Read a choice from JSON. -/
def ofJson? : Json → Option IncludeObject :=
  Json.variant? [("None", .nothing), ("Metadata", .metadata), ("Object", .object)]

end IncludeObject

/-- The options of a table. -/
structure TableOptions where
  noHeaders : Bool := false
  includeObject : IncludeObject := .metadata
deriving DecidableEq, Repr, Inhabited

namespace TableOptions

/-- Read options from JSON. -/
def ofJson? (value : Json) : Option TableOptions := do
  let record ← Json.Record.named? ["noHeaders", "includeObject"] value
  pure {
    noHeaders := ← record.withDefault "noHeaders" false Json.bool?
    includeObject := ← record.withDefault "includeObject" .metadata IncludeObject.ofJson? }

/-- Options as JSON. -/
def toJson (options : TableOptions) : Json :=
  .object [("noHeaders", .bool options.noHeaders),
    ("includeObject", .str options.includeObject.name)]

end TableOptions

/-- One row of a table. -/
structure TableRow where
  cells : List Json
  object : Option Json := none
deriving DecidableEq, Repr

/-- A table. -/
structure Table where
  metadata : ListMeta := {}
  columns : List ColumnDefinition
  rows : List TableRow
deriving DecidableEq, Repr

namespace Table

/-- The API version of tables. -/
def apiVersion : String := "meta.k8s.io/v1"

/-- A row as JSON. -/
def rowToJson (row : TableRow) : Json :=
  .object (("cells", .arr row.cells) :: Json.field? "object" id row.object)

/-- A table as JSON. -/
def toJson (table : Table) : Json :=
  .object [("apiVersion", .str apiVersion), ("kind", .str "Table"),
    ("metadata", table.metadata.toJson),
    ("columnDefinitions", .arr (table.columns.map ColumnDefinition.toJson)),
    ("rows", .arr (table.rows.map rowToJson))]

end Table

end VirtualApi
