import VirtualApi.Catalog.Basic
import VirtualApi.Object.Meta
import VirtualApi.Resource
import VirtualApi.Yaml.Reader

/-!
# Resource descriptors

A descriptor says how a resource is shown: the columns of its tables and its icons.
-/

namespace VirtualApi

/-- The API version of the kinds that describe resources. -/
def metaApiVersion : String := "meta.kubeui.dev/v1alpha1"

/-- A column shown for a resource; its cells are read at a JSON pointer. -/
structure ResourceColumn where
  name : String
  type : String := "string"
  pointer : String
  description : String := ""
  priority : Int := 0
deriving DecidableEq, Repr, Inhabited

namespace ResourceColumn

/-- Read a column from JSON. -/
def ofJson? (value : Json) : Option ResourceColumn := do
  let record ← Json.Record.named? ["name", "type", "pointer", "description", "priority"] value
  pure {
    name := ← record.required "name" Json.str?
    type := ← record.withDefault "type" "string" Json.str?
    pointer := ← record.required "pointer" Json.str?
    description := ← record.withDefault "description" "" Json.str?
    priority := ← record.withDefault "priority" 0 Json.int32? }

/-- A column as JSON. -/
def toJson (column : ResourceColumn) : Json :=
  .object ([("name", .str column.name), ("type", .str column.type),
    ("pointer", .str column.pointer), ("priority", .int column.priority)] ++
    Json.textField? "description" column.description)

/-- What is expected of a column. -/
def shape : Shape :=
  .record [(["name"], .text), (["type"], .text), (["pointer"], .text), (["description"], .text),
    (["priority"], .int)]

end ResourceColumn

/-- An icon of a resource. -/
structure Icon where
  src : String
  type : String := ""
deriving DecidableEq, Repr, Inhabited

namespace Icon

/-- Read an icon from JSON. -/
def ofJson? (value : Json) : Option Icon := do
  let record ← Json.Record.named? ["src", "type"] value
  pure {
    src := ← record.required "src" Json.str?
    type := ← record.withDefault "type" "" Json.str? }

/-- An icon as JSON. -/
def toJson (icon : Icon) : Json := .object [("src", .str icon.src), ("type", .str icon.type)]

/-- What is expected of an icon. -/
def shape : Shape := .record [(["src"], .text), (["type"], .text)]

end Icon

/-- How a resource is shown. -/
structure ResourceDescriptor where
  apiVersion : String := ""
  kind : String := ""
  metadata : ObjectMeta
  resource : ResourceId
  columns : List ResourceColumn := []
  icons : List Icon := []
deriving DecidableEq, Repr, Inhabited

namespace ResourceDescriptor

/-- The fields of a descriptor's specification, read into the rest of the descriptor. -/
def withSpec? (base : ResourceDescriptor) (value : Json) : Option ResourceDescriptor := do
  let record ← Json.Record.named? ["resource", "columns", "icons"] value
  pure { base with
    resource := ← record.required "resource" ResourceId.ofJson?
    columns := ← record.withDefault "columns" [] (Json.list? ResourceColumn.ofJson?)
    icons := ← record.withDefault "icons" [] (Json.list? Icon.ofJson?) }

/-- Read a descriptor from JSON. -/
def ofJson? (value : Json) : Option ResourceDescriptor := do
  let record ← Json.Record.named? ["apiVersion", "kind", "metadata", "spec"] value
  let base : ResourceDescriptor := {
    apiVersion := ← record.withDefault "apiVersion" "" Json.str?
    kind := ← record.withDefault "kind" "" Json.str?
    metadata := ← record.required "metadata" ObjectMeta.ofJson?
    resource := {} }
  record.required "spec" base.withSpec?

/-- A descriptor as JSON. -/
def toJson (d : ResourceDescriptor) : Json :=
  .object [("apiVersion", .str d.apiVersion), ("kind", .str d.kind),
    ("metadata", d.metadata.toJson),
    ("spec", .object [("resource", d.resource.toJson),
      ("columns", .arr (d.columns.map ResourceColumn.toJson)),
      ("icons", .arr (d.icons.map Icon.toJson))])]

/-- What is expected of a descriptor. -/
def shape : Shape :=
  .record [(["apiVersion"], .text), (["kind"], .text), (["metadata"], ObjectMeta.shape),
    (["spec"], .record [(["resource"], ResourceId.shape),
      (["columns"], .list ResourceColumn.shape), (["icons"], .list Icon.shape)])]

/-- The descriptor is of a group and kind; `core` stands for the empty group. -/
def describes (d : ResourceDescriptor) (group kind : String) : Bool :=
  d.resource.group = (if group = "core" then "" else group) && d.resource.kind = kind

/-- Descriptors are kept in catalogs. -/
instance : CatalogEntry ResourceDescriptor where
  name d := d.metadata.name.getD ""
  labels d := d.metadata.labels.getD []
  ofText? text := (shape.ofYaml? text.toList).bind ofJson?
  toJson := toJson

end ResourceDescriptor

end VirtualApi
