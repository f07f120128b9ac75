import VirtualApi.Catalog.Descriptor

/-!
# Resource outlines

An outline arranges what is shown of a resource: a header, and pages of sections of blocks. A block
may refer to another resource by group and kind.
-/

namespace VirtualApi

/-- What a block shows. -/
inductive BlockKind where
  /-- A part of the object. -/
  | block
  /-- The object itself. -/
  | own
  /-- The objects of another resource that belong to the object. -/
  | subTable
  /-- The objects of another resource that the object is connected with. -/
  | connection
deriving DecidableEq, Repr, Inhabited

namespace BlockKind

/-- The name of each kind. -/
def name : BlockKind → String
  | .block => "Block"
  | .own => "Self"
  | .subTable => "SubTable"
  | .connection => "Connection"

/-- Read a kind of block from JSON. -/
def ofJson? : Json → Option BlockKind :=
  Json.variant? [("Block", .block), ("Self", .own), ("SubTable", .subTable),
    ("Connection", .connection)]

end BlockKind

/-- A kind in whatever version is served. -/
structure GroupKind where
  group : String := ""
  kind : String
deriving DecidableEq, Repr, Inhabited

namespace GroupKind

/-- Read a group and kind from JSON. -/
def ofJson? (value : Json) : Option GroupKind := do
  let record ← Json.Record.named? ["group", "kind"] value
  pure {
    group := ← record.withDefault "group" "" Json.str?
    kind := ← record.required "kind" Json.str? }

/-- A group and kind as JSON. -/
def toJson (g : GroupKind) : Json := .object [("group", .str g.group), ("kind", .str g.kind)]

/-- What is expected of a group and kind. -/
def shape : Shape := .record [(["group"], .text), (["kind"], .text)]

end GroupKind

/-- A block of an outline. -/
structure BlockOutline where
  kind : BlockKind
  name : String := ""
  fieldPath : String := ""
  reference : Option GroupKind := none
deriving DecidableEq, Repr, Inhabited

namespace BlockOutline

/-- Read a block from JSON. -/
def ofJson? (value : Json) : Option BlockOutline := do
  let record ← Json.Record.named? ["kind", "name", "fieldPath", "ref"] value
  pure {
    kind := ← record.required "kind" BlockKind.ofJson?
    name := ← record.withDefault "name" "" Json.str?
    fieldPath := ← record.withDefault "fieldPath" "" Json.str?
    reference := ← record.optional "ref" GroupKind.ofJson? }

/-- A block as JSON. -/
def toJson (block : BlockOutline) : Json :=
  .object ([("kind", .str block.kind.name)] ++ Json.textField? "name" block.name ++
    Json.textField? "fieldPath" block.fieldPath ++
    Json.field? "ref" GroupKind.toJson block.reference)

/-- What is expected of a block. -/
def shape : Shape :=
  .record [(["kind"], .choice), (["name"], .text), (["fieldPath"], .text),
    (["ref"], .optional GroupKind.shape)]

end BlockOutline

/-- Blocks under a name. -/
structure Section (Block : Type) where
  name : String
  blocks : List Block := []
deriving DecidableEq, Repr, Inhabited

/-- Sections under a name. -/
structure Page (Block : Type) where
  name : String
  sections : List (Section Block) := []
deriving DecidableEq, Repr, Inhabited

namespace Section

variable {Block : Type}

/-- Read a section from JSON. -/
def ofJson? (read : Json → Option Block) (value : Json) : Option (Section Block) := do
  let record ← Json.Record.named? ["name", "blocks"] value
  pure {
    name := ← record.required "name" Json.str?
    blocks := ← record.withDefault "blocks" [] (Json.list? read) }

/-- A section as JSON. -/
def toJson (write : Block → Json) (part : Section Block) : Json :=
  .object [("name", .str part.name), ("blocks", .arr (part.blocks.map write))]

end Section

namespace Page

variable {Block : Type}

/-- Read a page from JSON. -/
def ofJson? (read : Json → Option Block) (value : Json) : Option (Page Block) := do
  let record ← Json.Record.named? ["name", "sections"] value
  pure {
    name := ← record.required "name" Json.str?
    sections := ← record.withDefault "sections" [] (Json.list? (Section.ofJson? read)) }

/-- A page as JSON. -/
def toJson (write : Block → Json) (page : Page Block) : Json :=
  .object [("name", .str page.name), ("sections", .arr (page.sections.map (Section.toJson write)))]

/-- What is expected of a page. -/
def shape (block : Shape) : Shape :=
  .record [(["name"], .text),
    (["sections"], .list (.record [(["name"], .text), (["blocks"], .list block)]))]

end Page

/-- How what is shown of a resource is arranged. -/
structure Arrangement (Block : Type) where
  resource : ResourceId
  defaultLayout : Bool := false
  header : Option Block := none
  pages : List (Page Block) := []
deriving DecidableEq, Repr, Inhabited

/-- An arrangement as JSON. -/
def Arrangement.toJson {Block : Type} (write : Block → Json) (a : Arrangement Block) : Json :=
  .object ([("resource", a.resource.toJson), ("defaultLayout", .bool a.defaultLayout),
    ("pages", .arr (a.pages.map (Page.toJson write)))] ++ Json.field? "header" write a.header)

/-- An arrangement whose blocks refer to resources by group and kind. -/
structure ResourceOutline where
  apiVersion : String := ""
  kind : String := ""
  metadata : ObjectMeta
  spec : Arrangement BlockOutline
deriving DecidableEq, Repr, Inhabited

namespace ResourceOutline

/-- The name of an outline, empty when it has none. -/
def name (outline : ResourceOutline) : String := outline.metadata.name.getD ""

/-- Read an arrangement of an outline from JSON. -/
def specOfJson? (value : Json) : Option (Arrangement BlockOutline) := do
  let record ← Json.Record.named? ["resource", "defaultLayout", "header", "pages"] value
  pure {
    resource := ← record.required "resource" ResourceId.ofJson?
    defaultLayout := ← record.withDefault "defaultLayout" false Json.bool?
    header := ← record.optional "header" BlockOutline.ofJson?
    pages := ← record.withDefault "pages" [] (Json.list? (Page.ofJson? BlockOutline.ofJson?)) }

/-- Read an outline from JSON. -/
def ofJson? (value : Json) : Option ResourceOutline := do
  let record ← Json.Record.named? ["apiVersion", "kind", "metadata", "spec"] value
  pure {
    apiVersion := ← record.withDefault "apiVersion" "" Json.str?
    kind := ← record.withDefault "kind" "" Json.str?
    metadata := ← record.required "metadata" ObjectMeta.ofJson?
    spec := ← record.required "spec" specOfJson? }

/-- An outline as JSON. -/
def toJson (outline : ResourceOutline) : Json :=
  .object [("apiVersion", .str outline.apiVersion), ("kind", .str outline.kind),
    ("metadata", outline.metadata.toJson), ("spec", outline.spec.toJson BlockOutline.toJson)]

/-- What is expected of an outline. -/
def shape : Shape :=
  .record [(["apiVersion"], .text), (["kind"], .text), (["metadata"], ObjectMeta.shape),
    (["spec"], .record [(["resource"], ResourceId.shape), (["defaultLayout"], .bool),
      (["header"], .optional BlockOutline.shape),
      (["pages"], .list (Page.shape BlockOutline.shape))])]

/-- Outlines are kept in catalogs. -/
instance : CatalogEntry ResourceOutline where
  name := name
  labels outline := outline.metadata.labels.getD []
  ofText? text := (shape.ofYaml? text.toList).bind ofJson?
  toJson := toJson

end ResourceOutline

end VirtualApi
