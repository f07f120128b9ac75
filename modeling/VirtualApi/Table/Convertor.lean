import VirtualApi.ApiError
import VirtualApi.Json.Printer
import VirtualApi.Table.Age
import VirtualApi.Table.Basic

/-!
# Showing objects as tables

A convertor shows an object, or each item of a list, as a row: the name first, then a cell for each
extra column, the age last. `TableConvertor.convert` keeps the continue token of a list, so that
paging goes on from the table.
-/

namespace VirtualApi

/-- A column whose cells are read at a JSON pointer. -/
structure Column where
  definition : ColumnDefinition
  pointer : String
deriving DecidableEq, Repr, Inhabited

/-- How the objects of a resource are shown. -/
structure TableConvertor where
  group : String
  resource : String
  extra : List Column := []
deriving DecidableEq, Repr, Inhabited

namespace TableConvertor

/-- The column of names. -/
def nameColumn (group resource : String) : ColumnDefinition where
  name := "Name"
  type := "string"
  format := "name"
  description := "Name of the " ++ ApiError.qualified group resource ++ " object"

/-- The column of ages. -/
def ageColumn : ColumnDefinition where
  name := "Age"
  type := "string"
  description := "Time elapsed since the object was created"

/-- All columns. -/
def columns (convertor : TableConvertor) : List ColumnDefinition :=
  nameColumn convertor.group convertor.resource ::
    (convertor.extra.map (·.definition) ++ [ageColumn])

/-- What a cell shows where nothing is found. -/
def emptyCell (type : String) : Json :=
  if type = "integer" ∨ type = "number" then .int 0
  else if type = "boolean" then .bool false
  else .str ""

/-- An item inside a cell: a text as it is, anything else as JSON. -/
def itemText : Json → String
  | .str s => s
  | value => value.compact

/-- The cell for what was found: lists are joined with commas, numbers, truth values and texts
stay, and objects are written as JSON. -/
def cell (type : String) : Option Json → Json
  | none | some .null => emptyCell type
  | some (.arr items) => .str (Text.join "," (items.map itemText))
  | some (.obj fields) => .str (Json.obj fields).compact
  | some value => value

/-- The cells of one object. -/
def cells (convertor : TableConvertor) (object : Json) (now : Timestamp) : List Json :=
  .str (objectName object) ::
    (convertor.extra.map (fun c => cell c.definition.type (object.pointer? c.pointer)) ++
      [.str (Age.ofObject object now)])

/-- What a row carries of its object. -/
def rowObject (object : Json) : IncludeObject → Option Json
  | .nothing => none
  | .object => some object
  | .metadata =>
      some (.object [("apiVersion", .str Table.apiVersion), ("kind", .str "PartialObjectMetadata"),
        ("metadata", (object.get? "metadata").getD .empty)])

/-- The row of one object. -/
def row (convertor : TableConvertor) (options : TableOptions) (now : Timestamp) (object : Json) :
    TableRow where
  cells := convertor.cells object now
  object := rowObject object options.includeObject

/-- The items that a value shows: those of its array of items, or else the value itself. -/
def items (value : Json) : List Json :=
  match value.get? "items" with
  | some (.arr items) => items
  | _ => [value]

/-- The continue token of a list that has one which is not empty. -/
def continueToken? (value : Json) : Option String :=
  match value.get? "items" with
  | some (.arr _) =>
      ((value.at? ["metadata", "continue"]).bind Json.str?).filter (· ≠ "")
  | _ => none

/-- The table of an object or a list. -/
def convert (convertor : TableConvertor) (value : Json) (options : TableOptions)
    (now : Timestamp) : Table where
  metadata := { continueToken := continueToken? value }
  columns := if options.noHeaders then [] else convertor.columns
  rows := (items value).map (convertor.row options now)

end TableConvertor

end VirtualApi
